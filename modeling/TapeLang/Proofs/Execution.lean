import Mathlib.Computability.StateTransition
import TapeLang.Machine
import TapeLang.Proofs.Forest

/-!
# Execution step by step

`Run.next` is one tick of the reference machine as a function on what is still to be executed. `execute` with a
number of ticks comes to what this function comes to, an end or a fault, if that takes no more ticks
(`execute_eq_some_iff`), and to nothing exactly when a run goes on beyond them (`execute_eq_none_iff`). The results of a
machine are stated in these terms, with and without a limit.
-/

namespace TapeLang

open StateTransition (Reaches)
open Relation (ReflTransGen)

/-- Reading takes the byte at the position of the first one left, or zero behind the end of the input. -/
theorem Memory.read_eq {m : Memory} {input : List UInt8} {k : Nat} (h : m.input = input.drop k) :
    m.read = { m with tape := m.tape.set (input[k]?.getD 0), input := input.drop (k + 1) } := by
  unfold Memory.read
  cases hm : m.input with
  | nil =>
    have hlen : input.length ≤ k := List.drop_eq_nil_iff.1 (h.symm.trans hm)
    rw [List.getElem?_eq_none hlen, List.drop_eq_nil_iff.2 (Nat.le_succ_of_le hlen)]
    rfl
  | cons b rest =>
    obtain ⟨hget, hdrop⟩ := drop_eq_cons (h.symm.trans hm)
    rw [hget, hdrop]
    rfl

/-- What a run has left to execute, its memory unless a fault has ended it, and the ticks so far. -/
structure Run where
  blocks : List Block
  memory : Except Fault Memory
  ticks : Nat

namespace Run

/-- What one tick makes of the first block: a statement is done, and a loop is left or entered by its condition. -/
def tick (b : Block) (rest : List Block) (m : Memory) (t : Nat) : Run :=
  match b with
  | .plain s => ⟨rest, m.apply s, t + 1⟩
  | .loop body => ⟨if m.tape.get = 0 then rest else body ++ .loop body :: rest, .ok m, t + 1⟩

/-- The run after one more tick, unless it has ended. -/
def next : Run → Option Run
  | ⟨_, .error _, _⟩ => none
  | ⟨[], .ok _, _⟩ => none
  | ⟨b :: rest, .ok m, t⟩ => some (tick b rest m t)

/-- What a run has come to, if it has ended: its last memory or a fault. -/
def result? : Run → Option (Except Fault Memory)
  | ⟨_, .error f, _⟩ => some (.error f)
  | ⟨[], .ok m, _⟩ => some (.ok m)
  | ⟨_ :: _, .ok _, _⟩ => none

theorem next_cons (b : Block) (rest : List Block) (m : Memory) (t : Nat) :
    next ⟨b :: rest, .ok m, t⟩ = some (tick b rest m t) := rfl

/-- A run has come to something exactly if it has no next tick. -/
theorem next_eq_none_iff {r : Run} : r.next = none ↔ ∃ x, r.result? = some x := by
  obtain ⟨_ | ⟨b, rest⟩, _ | m, t⟩ := r <;> simp [next, result?]

theorem result?_eq_ok_iff {r : Run} {m : Memory} : r.result? = some (.ok m) ↔ r.blocks = [] ∧ r.memory = .ok m := by
  obtain ⟨_ | ⟨b, rest⟩, _ | m, t⟩ := r <;> simp [result?]

theorem result?_eq_error_iff {r : Run} {f : Fault} : r.result? = some (.error f) ↔ r.memory = .error f := by
  obtain ⟨_ | ⟨b, rest⟩, _ | m, t⟩ := r <;> simp [result?]

theorem ticks_of_next {r s : Run} (h : r.next = some s) : s.ticks = r.ticks + 1 := by
  obtain ⟨_ | ⟨b, rest⟩, _ | m, t⟩ := r
  · cases h
  · cases h
  · cases h
  · cases h
    cases b <;> rfl

theorem ticks_le_of_reaches {r s : Run} (h : Reaches next r s) : r.ticks ≤ s.ticks := by
  induction h with
  | refl => exact Nat.le_refl _
  | tail _ hstep ih =>
    have := ticks_of_next hstep
    omega

/-- Of two runs from one start the one that has ended is the last. -/
theorem reaches_of_next_eq_none {r s t : Run} (hs : Reaches next r s) (ht : Reaches next r t)
    (hend : s.next = none) : Reaches next t s := by
  rcases StateTransition.reaches_total hs ht with h | h
  · rcases ReflTransGen.cases_head h with rfl | ⟨u, hu, -⟩
    · exact .refl
    · rw [hend] at hu
      cases hu
  · exact h

/-- From one start there is one end. -/
theorem eq_of_next_eq_none {r s t : Run} (hs : Reaches next r s) (ht : Reaches next r t) (hends : s.next = none)
    (hendt : t.next = none) : s = t := by
  rcases ReflTransGen.cases_head (reaches_of_next_eq_none hs ht hends) with rfl | ⟨u, hu, -⟩
  · rfl
  · rw [hendt] at hu
    cases hu

end Run

/-! ### Running with a number of ticks -/

/-- What an execution within `n` ticks says about the run from its start: what it comes to, or a tick beyond them. -/
private def Foretells (n : Nat) (start : Run) (result : Option (Except Fault Memory)) : Prop :=
  (∀ x, result = some x → ∃ r, Reaches Run.next start r ∧ r.result? = some x ∧ r.ticks ≤ start.ticks + n) ∧
    (result = none → ∃ r, Reaches Run.next start r ∧ r.ticks = start.ticks + n + 1)

private theorem Foretells.of_result {n : Nat} {r : Run} {x : Except Fault Memory} (h : r.result? = some x) :
    Foretells n r (some x) := by
  refine ⟨?_, (nomatch ·)⟩
  rintro _ ⟨⟩
  exact ⟨r, .refl, h, Nat.le_add_right ..⟩

private theorem Foretells.head {n : Nat} {r s : Run} {result : Option (Except Fault Memory)}
    (hstep : r.next = some s) (h : Foretells n s result) : Foretells (n + 1) r result := by
  have hticks := Run.ticks_of_next hstep
  constructor
  · intro x hx
    obtain ⟨u, hreach, hu, hle⟩ := h.1 x hx
    exact ⟨u, .head hstep hreach, hu, by omega⟩
  · intro hnone
    obtain ⟨u, hreach, hu⟩ := h.2 hnone
    exact ⟨u, .head hstep hreach, by omega⟩

private theorem foretells_execute (n : Nat) (bs : List Block) (m : Memory) (t : Nat) :
    Foretells n ⟨bs, .ok m, t⟩ (execute n bs m) := by
  fun_induction execute n bs m generalizing t with
  | case1 => exact .of_result rfl
  | case2 b rest m =>
    have hstep := Run.next_cons b rest m t
    exact ⟨by simp, fun _ => ⟨_, .single hstep, Run.ticks_of_next hstep⟩⟩
  | case3 n s rest m m' hm ih =>
    have hstep : Run.next ⟨.plain s :: rest, .ok m, t⟩ = some ⟨rest, .ok m', t + 1⟩ := by
      rw [Run.next_cons, Run.tick, hm]
    exact .head hstep (ih (t + 1))
  | case4 n s rest m f hf =>
    have hstep : Run.next ⟨.plain s :: rest, .ok m, t⟩ = some ⟨rest, .error f, t + 1⟩ := by
      rw [Run.next_cons, Run.tick, hf]
    exact .head hstep (.of_result (Run.result?_eq_error_iff.2 rfl))
  | case5 n body rest m hzero ih => exact .head (by simp [Run.next, Run.tick, hzero]) (ih (t + 1))
  | case6 n body rest m hzero ih => exact .head (by simp [Run.next, Run.tick, hzero]) (ih (t + 1))

variable {n : Nat} {bs : List Block} {m : Memory} {x : Except Fault Memory}

/-- A run comes to nothing exactly when it goes on beyond its ticks. -/
theorem execute_eq_none_iff :
    execute n bs m = none ↔ ∃ r : Run, Reaches Run.next ⟨bs, .ok m, 0⟩ r ∧ n < r.ticks := by
  have hrun := foretells_execute n bs m 0
  constructor
  · intro h
    obtain ⟨r, hreach, hr⟩ := hrun.2 h
    exact ⟨r, hreach, by simp only at hr; omega⟩
  · rintro ⟨r, hreach, hr⟩
    cases h : execute n bs m with
    | none => rfl
    | some x =>
      obtain ⟨u, hu, hresult, hle⟩ := hrun.1 x h
      have hend := Run.next_eq_none_iff.2 ⟨x, hresult⟩
      have := Run.ticks_le_of_reaches (Run.reaches_of_next_eq_none hu hreach hend)
      simp only at hle
      omega

/-- A run comes to its last memory or a fault if it takes no more than its ticks. -/
theorem execute_eq_some_iff :
    execute n bs m = some x ↔ ∃ r : Run, Reaches Run.next ⟨bs, .ok m, 0⟩ r ∧ r.result? = some x ∧ r.ticks ≤ n := by
  have hrun := foretells_execute n bs m 0
  constructor
  · intro h
    obtain ⟨r, hreach, hresult, hle⟩ := hrun.1 x h
    exact ⟨r, hreach, hresult, by simpa using hle⟩
  · rintro ⟨r, hreach, hresult, hle⟩
    have hend := Run.next_eq_none_iff.2 ⟨x, hresult⟩
    cases h : execute n bs m with
    | none =>
      obtain ⟨u, hu, hticks⟩ := execute_eq_none_iff.1 h
      have := Run.ticks_le_of_reaches (Run.reaches_of_next_eq_none hreach hu hend)
      omega
    | some y =>
      obtain ⟨u, hu, hresultu, -⟩ := hrun.1 y h
      obtain rfl := Run.eq_of_next_eq_none hreach hu hend (Run.next_eq_none_iff.2 ⟨y, hresultu⟩)
      exact hresultu.symm.trans hresult

namespace Machine

variable {k : Machine} {limit : Nat} {body : List Statement} {input : List UInt8} {out : String} {f : Fault}

/-- The run that a machine starts on a body. -/
def start (k : Machine) (body : List Statement) (input : List UInt8) : Run :=
  ⟨nest body, Memory.start k.tapeSize input, 0⟩

/-- A tape that cannot be made is a fault before the first tick. -/
theorem reaches_start_iff {f : Fault} (h : Memory.start k.tapeSize input = .error f) {r : Run} :
    Reaches Run.next (k.start body input) r ↔ r = ⟨nest body, .error f, 0⟩ := by
  rw [start, h]
  constructor
  · intro hreach
    rcases ReflTransGen.cases_head hreach with rfl | ⟨u, hu, -⟩
    · rfl
    · cases hu
  · rintro rfl
    exact .refl

theorem outputWithin_eq_some_iff {x : Except Fault String} :
    k.outputWithin n body input = some x ↔
      ∃ r y, Reaches Run.next (k.start body input) r ∧ r.result? = some y ∧ y.map (·.output) = x ∧ r.ticks ≤ n := by
  unfold outputWithin
  cases hstart : Memory.start k.tapeSize input with
  | error f =>
    simp only [reaches_start_iff hstart]
    constructor
    · rintro ⟨⟩
      exact ⟨_, _, rfl, rfl, rfl, Nat.zero_le _⟩
    · rintro ⟨_, _, rfl, ⟨⟩, rfl, -⟩
      rfl
  | ok m =>
    simp only [Option.map_eq_some_iff, execute_eq_some_iff, start, hstart]
    constructor
    · rintro ⟨y, ⟨r, hreach, hresult, hle⟩, rfl⟩
      exact ⟨r, y, hreach, hresult, rfl, hle⟩
    · rintro ⟨r, y, hreach, hresult, rfl, hle⟩
      exact ⟨y, ⟨r, hreach, hresult, hle⟩, rfl⟩

theorem outputWithin_eq_ok_iff :
    k.outputWithin n body input = some (.ok out) ↔
      ∃ m t, Reaches Run.next (k.start body input) ⟨[], .ok m, t⟩ ∧ m.output = out ∧ t ≤ n := by
  rw [outputWithin_eq_some_iff]
  constructor
  · rintro ⟨⟨blocks, memory, t⟩, _ | m, hreach, hresult, hout, hle⟩
    · cases hout
    · obtain ⟨rfl, rfl⟩ := Run.result?_eq_ok_iff.1 hresult
      exact ⟨m, t, hreach, Except.ok.inj hout, hle⟩
  · rintro ⟨m, t, hreach, rfl, hle⟩
    exact ⟨_, .ok m, hreach, rfl, rfl, hle⟩

theorem outputWithin_eq_error_iff :
    k.outputWithin n body input = some (.error f) ↔
      ∃ bs t, Reaches Run.next (k.start body input) ⟨bs, .error f, t⟩ ∧ t ≤ n := by
  rw [outputWithin_eq_some_iff]
  constructor
  · rintro ⟨⟨blocks, memory, t⟩, f' | _, hreach, hresult, hout, hle⟩
    · obtain rfl := Run.result?_eq_error_iff.1 hresult
      obtain rfl := Except.error.inj hout
      exact ⟨blocks, t, hreach, hle⟩
    · cases hout
  · rintro ⟨bs, t, hreach, hle⟩
    exact ⟨_, .error f, hreach, Run.result?_eq_error_iff.2 rfl, rfl, hle⟩

/-- A run gives its output if it ends within the limit. -/
theorem run_eq_ok_iff :
    k.run limit body input = .ok (.ok out) ↔
      ∃ m t, Reaches Run.next (k.start body input) ⟨[], .ok m, t⟩ ∧ m.output = out ∧ t ≤ limit := by
  rw [← outputWithin_eq_ok_iff, run]
  rcases k.outputWithin limit body input with _ | _ | _ <;> simp

/-- A run faults if it does so within the limit. -/
theorem run_eq_fault_iff :
    k.run limit body input = .error f ↔
      ∃ bs t, Reaches Run.next (k.start body input) ⟨bs, .error f, t⟩ ∧ t ≤ limit := by
  rw [← outputWithin_eq_error_iff, run]
  rcases k.outputWithin limit body input with _ | _ | _ <;> simp

/-- A run is stopped if it goes on beyond the limit. -/
theorem run_eq_error_iff :
    k.run limit body input = .ok (.error (.limitExceeded limit)) ↔
      ∃ r, Reaches Run.next (k.start body input) r ∧ limit < r.ticks := by
  have hnone : k.run limit body input = .ok (.error (.limitExceeded limit)) ↔
      k.outputWithin limit body input = none := by
    rw [run]
    rcases k.outputWithin limit body input with _ | _ | _ <;> simp
  rw [hnone, outputWithin]
  cases hstart : Memory.start k.tapeSize input with
  | error f => simp [reaches_start_iff hstart]
  | ok m => simp [start, hstart, execute_eq_none_iff]

/-- Without a limit a run gives its output if it ends. -/
theorem yields_iff :
    k.Yields body input out ↔ ∃ m t, Reaches Run.next (k.start body input) ⟨[], .ok m, t⟩ ∧ m.output = out := by
  unfold Yields
  simp only [outputWithin_eq_ok_iff]
  constructor
  · rintro ⟨n, m, t, hreach, hout, -⟩
    exact ⟨m, t, hreach, hout⟩
  · rintro ⟨m, t, hreach, hout⟩
    exact ⟨t, m, t, hreach, hout, Nat.le_refl _⟩

end Machine

end TapeLang
