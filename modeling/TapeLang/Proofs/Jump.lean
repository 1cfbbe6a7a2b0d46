import TapeLang.Proofs.Bracket.Spans
import TapeLang.Proofs.Faults

/-!
# The jump machine

A second machine runs the flat list of statements with a program counter and goes from bracket to bracket by the
partners that the bracket check found. Its tape is mathematical: numbers modulo 256 on a ring. `Spells` says that the
statements between two indices are those of a forest, `Follows` that a program counter is about to execute given
blocks. Along these the jump machine simulates the reference machine tick by tick (`respects_step`), so both give the
same results under every limit (`machine_agrees_with_jumps`).
-/

namespace TapeLang.Jump

open StateTransition (Reaches Reaches₁ Respects)
open Relation (ReflTransGen TransGen)

/-- A flat program with the partners of its brackets, the number of cells and the input. -/
structure Program where
  body : List Statement
  partner : Nat → Option Nat
  size : Nat
  input : List UInt8

/-- What statements act on: cells by their numbers, the pointer, the number of bytes read and the output. -/
structure Store where
  cells : Nat → Nat
  pointer : Nat
  position : Nat
  output : String

/-- A store, the index of the next statement and the ticks so far. -/
structure State where
  pc : Nat
  store : Store
  ticks : Nat

namespace Program

/-- A zeroed tape before the first statement. -/
def start : State := ⟨0, ⟨fun _ => 0, 0, 0, ""⟩, 0⟩

/-- The effect of a statement on the store. Brackets have none. -/
def act (p : Program) (s : Store) : Statement → Store
  | .increment => { s with cells := Function.update s.cells s.pointer ((s.cells s.pointer + 1) % 256) }
  | .decrement => { s with cells := Function.update s.cells s.pointer ((s.cells s.pointer + 255) % 256) }
  | .move d => { s with pointer := ((s.pointer + d.toInt) % p.size).toNat }
  | .write => { s with output := s.output.push (Char.ofNat (s.cells s.pointer)) }
  | .read =>
    { s with
      cells := Function.update s.cells s.pointer ((p.input[s.position]?.map (·.toNat)).getD 0)
      position := s.position + 1 }
  | .loopOpen => s
  | .loopClose => s

/-- One step. An open takes a tick and is left behind its close if the cell is zero; a close goes to its open and
takes none. There is no step behind the last statement. -/
def step (p : Program) (s : State) : Option State :=
  match p.body[s.pc]? with
  | none => none
  | some .loopOpen =>
    if s.store.cells s.store.pointer = 0 then
      (p.partner s.pc).map fun c => ⟨c + 1, s.store, s.ticks + 1⟩
    else some ⟨s.pc + 1, s.store, s.ticks + 1⟩
  | some .loopClose => (p.partner s.pc).map fun o => ⟨o, s.store, s.ticks⟩
  | some stmt => some ⟨s.pc + 1, p.act s.store stmt, s.ticks + 1⟩

end Program

variable {p : Program}

theorem step_plain {s : State} {stmt : Statement} (hget : p.body[s.pc]? = some stmt)
    (hstmt : stmt.isBracket = false) : p.step s = some ⟨s.pc + 1, p.act s.store stmt, s.ticks + 1⟩ := by
  unfold Program.step
  rw [hget]
  cases stmt with
  | loopOpen => nomatch hstmt
  | loopClose => nomatch hstmt
  | _ => rfl

theorem step_open {s : State} {c : Nat} (hget : p.body[s.pc]? = some .loopOpen) (hc : p.partner s.pc = some c) :
    p.step s =
      some ⟨if s.store.cells s.store.pointer = 0 then c + 1 else s.pc + 1, s.store, s.ticks + 1⟩ := by
  unfold Program.step
  simp only [hget, hc, Option.map_some]
  split <;> rfl

theorem step_close {s : State} {o : Nat} (hget : p.body[s.pc]? = some .loopClose) (ho : p.partner s.pc = some o) :
    p.step s = some ⟨o, s.store, s.ticks⟩ := by
  unfold Program.step
  simp only [hget, ho, Option.map_some]

theorem ticks_le_of_step {s s' : State} (h : p.step s = some s') : s.ticks ≤ s'.ticks := by
  unfold Program.step at h
  split at h
  · cases h
  · split at h
    · obtain ⟨c, -, rfl⟩ := Option.map_eq_some_iff.1 h
      exact Nat.le_succ _
    · cases h
      exact Nat.le_succ _
  · obtain ⟨o, -, rfl⟩ := Option.map_eq_some_iff.1 h
    exact Nat.le_refl _
  · cases h
    exact Nat.le_succ _

theorem ticks_le_of_reaches {s s' : State} (h : Reaches p.step s s') : s.ticks ≤ s'.ticks := by
  induction h with
  | refl => exact Nat.le_refl _
  | tail _ hstep ih => exact Nat.le_trans ih (ticks_le_of_step hstep)

/-! ### Program counters and blocks -/

/-- The statements from one index up to another are those of a forest, with its brackets partnered. -/
inductive Spells (p : Program) : Nat → List Block → Nat → Prop where
  | nil {i : Nat} : Spells p i [] i
  | plain {i j : Nat} {stmt : Statement} {rest : List Block} (hget : p.body[i]? = some stmt)
      (hstmt : stmt.isBracket = false) (hrest : Spells p (i + 1) rest j) : Spells p i (.plain stmt :: rest) j
  | loop {i c j : Nat} {inner rest : List Block} (hopen : p.body[i]? = some .loopOpen)
      (hpartner : p.partner i = some c) (hinner : Spells p (i + 1) inner c)
      (hclose : p.body[c]? = some .loopClose) (hback : p.partner c = some i) (hrest : Spells p (c + 1) rest j) :
      Spells p i (.loop inner :: rest) j

/-- What is still to be executed behind the statements of a forest: nothing at the end, or again the loop whose
close stands there and all that follows it. -/
inductive Resumes (p : Program) : Nat → List Block → Prop where
  | done : Resumes p p.body.length []
  | again {i c j : Nat} {inner rest outer : List Block} (hclose : p.body[c]? = some .loopClose)
      (hback : p.partner c = some i) (hspell : Spells p i (.loop inner :: rest) j) (houter : Resumes p j outer) :
      Resumes p c (.loop inner :: rest ++ outer)

/-- A program counter is about to execute given blocks. -/
def Follows (p : Program) (i : Nat) (blocks : List Block) : Prop :=
  ∃ j here outer, Spells p i here j ∧ Resumes p j outer ∧ blocks = here ++ outer

private theorem spells_of_drop {bs : List Block} (h : Leaves (·.isBracket = false) bs) {i : Nat}
    {tail : List Statement} (hdrop : p.body.drop i = flattenAll bs ++ tail)
    (hpartner : ∀ o c, (o, c) ∈ spansAll i bs → p.partner o = some c ∧ p.partner c = some o) :
    Spells p i bs (i + (flattenAll bs).length) := by
  have hget : ∀ k, p.body[i + k]? = (flattenAll bs ++ tail)[k]? := fun k => by
    rw [← hdrop, List.getElem?_drop]
  induction h generalizing i tail with
  | nil => exact .nil
  | @plain stmt rest hstmt _ ih =>
    have hdrop' : p.body.drop (i + 1) = flattenAll rest ++ tail := by
      rw [← List.drop_drop, hdrop]
      rfl
    have hrest := ih hdrop' (by simpa using hpartner) (fun k => by rw [← hdrop', List.getElem?_drop])
    have hlen : i + (flattenAll (.plain stmt :: rest)).length = i + 1 + (flattenAll rest).length := by
      simp only [flattenAll_plain, List.length_cons]
      omega
    rw [hlen]
    exact .plain (hget 0) hstmt hrest
  | @loop inner rest _ _ ihInner ihRest =>
    rw [spansAll_loop] at hpartner
    have hpart := hpartner _ _ (List.mem_cons_self ..)
    have hdropInner : p.body.drop (i + 1) = flattenAll inner ++ (.loopClose :: flattenAll rest ++ tail) := by
      rw [← List.drop_drop, hdrop]
      simp
    have hdropRest : p.body.drop (i + 1 + (flattenAll inner).length + 1) = flattenAll rest ++ tail := by
      rw [← List.drop_drop, ← List.drop_drop, hdropInner, List.drop_left]
      rfl
    have hinner := ihInner hdropInner (fun o c h => hpartner o c (by simp [h]))
      (fun k => by rw [← hdropInner, List.getElem?_drop])
    have hrest := ihRest hdropRest (fun o c h => hpartner o c (by simp [h]))
      (fun k => by rw [← hdropRest, List.getElem?_drop])
    have hlen : i + (flattenAll (.loop inner :: rest)).length =
        i + 1 + (flattenAll inner).length + 1 + (flattenAll rest).length := by
      simp only [flattenAll_loop, List.length_cons, List.length_append]
      omega
    have hclose : p.body[i + 1 + (flattenAll inner).length]? = some .loopClose := by
      rw [Nat.add_assoc, hget, flattenAll_loop, Nat.add_comm 1]
      simp
    rw [hlen]
    exact .loop (hget 0) hpart.1 hinner hclose hpart.2 hrest

/-! ### The two tapes -/

/-- A memory of the reference machine and a store of the jump machine agree. -/
structure Agrees (p : Program) (m : Memory) (s : Store) : Prop where
  pointer_lt : m.tape.pointer < m.tape.length
  size : m.tape.length = p.size
  cells : ∀ i, s.cells i = (m.tape.cell i).toNat
  pointer : s.pointer = m.tape.pointer
  input : m.input = p.input.drop s.position
  output : s.output = m.output

namespace Agrees

variable {m : Memory} {s : Store}

theorem current (h : Agrees p m s) : s.cells s.pointer = m.tape.get.toNat := by
  rw [h.cells, h.pointer]
  rfl

/-- Writing a value to the current cell on both sides. -/
theorem set (h : Agrees p m s) {v : UInt8} {n : Nat} (hv : n = v.toNat) :
    Agrees p { m with tape := m.tape.set v } { s with cells := Function.update s.cells s.pointer n } where
  pointer_lt := h.pointer_lt
  size := h.size
  cells i := by
    simp only [Tape.cell_set, Function.update_apply, h.pointer]
    split
    · exact hv
    · exact h.cells i
  pointer := h.pointer
  input := h.input
  output := h.output

/-- A statement has the same effect on both sides, and no fault. -/
theorem apply (h : Agrees p m s) {stmt : Statement} (hunit : ∀ d, stmt = .move d → d = 1 ∨ d = -1) :
    ∃ m', m.apply stmt = .ok m' ∧ Agrees p m' (p.act s stmt) := by
  cases stmt with
  | increment =>
    refine ⟨_, rfl, h.set ?_⟩
    rw [h.current, UInt8.toNat_add]
    rfl
  | decrement =>
    refine ⟨_, rfl, h.set ?_⟩
    rw [h.current, UInt8.toNat_sub, Nat.add_comm]
    rfl
  | move d =>
    have hmove := Tape.move_unit h.pointer_lt (hunit d rfl)
    refine ⟨{ m with tape := m.tape.turn d.toInt }, by rw [Memory.apply_move, hmove]; rfl,
      m.tape.pointer_turn_lt _, h.size, h.cells, ?_, h.input, h.output⟩
    simp only [Program.act, Tape.turn, h.pointer, ← h.size]
  | write =>
    refine ⟨_, rfl, h.pointer_lt, h.size, h.cells, h.pointer, h.input, ?_⟩
    simp only [Program.act, Memory.write, h.current, h.output]
  | read =>
    have hbyte : (p.input[s.position]?.map (·.toNat)).getD 0 = (p.input[s.position]?.getD 0).toNat := by
      cases p.input[s.position]? with
      | none => rfl
      | some b => rfl
    refine ⟨_, rfl, ?_⟩
    rw [Memory.read_eq h.input]
    exact { h.set hbyte with input := rfl }
  | loopOpen => exact ⟨m, rfl, h⟩
  | loopClose => exact ⟨m, rfl, h⟩

end Agrees

/-! ### The simulation -/

/-- A run of the reference machine and a state of the jump machine that stand at the same place. -/
structure Simulates (p : Program) (r : Run) (s : State) : Prop where
  follows : Follows p s.pc r.blocks
  agrees : ∃ m, r.memory = .ok m ∧ Agrees p m s.store
  ticks : s.ticks = r.ticks

/-- Every move of a program goes by one cell. -/
def UnitMoves (p : Program) : Prop := ∀ d, .move d ∈ p.body → d = 1 ∨ d = -1

/-- The jump machine takes one step for a tick when the block to execute stands at its program counter. -/
private theorem step_of_spells (hunit : UnitMoves p) {s : State} {j : Nat} {b : Block} {here outer : List Block}
    {m : Memory} (hspell : Spells p s.pc (b :: here) j) (houter : Resumes p j outer)
    (hagrees : Agrees p m s.store) :
    ∃ s', Simulates p (Run.tick b (here ++ outer) m s.ticks) s' ∧ p.step s = some s' := by
  cases hspell with
  | plain hget hstmt hrest =>
    refine ⟨_, ?_, step_plain hget hstmt⟩
    refine ⟨⟨j, here, outer, hrest, houter, rfl⟩, hagrees.apply ?_, rfl⟩
    rintro d rfl
    exact hunit d (List.mem_of_getElem? hget)
  | @loop _ c _ inner _ hopen hpartner hinner hclose hback hrest =>
    have hzero : s.store.cells s.store.pointer = 0 ↔ m.tape.get = 0 := by
      rw [hagrees.current, ← UInt8.toNat_inj]
      rfl
    refine ⟨_, ?_, step_open hopen hpartner⟩
    refine ⟨?_, ⟨m, rfl, hagrees⟩, rfl⟩
    by_cases hcell : m.tape.get = 0
    · simp only [Run.tick, hzero, hcell, ↓reduceIte]
      exact ⟨j, here, outer, hrest, houter, rfl⟩
    · simp only [Run.tick, hzero, hcell, ↓reduceIte]
      -- behind the inner statements the close leads back to this loop
      exact ⟨c, inner, _, hinner, .again hclose hback (.loop hopen hpartner hinner hclose hback hrest) houter, rfl⟩

/-- Each tick of the reference machine is one step of the jump machine, or two when it has to go back to the open of
a loop first. -/
theorem respects_step (hunit : UnitMoves p) : Respects Run.next p.step (Simulates p) := by
  rintro ⟨blocks, _, _⟩ ⟨pc, store, t⟩ ⟨hfollows, ⟨m, rfl, hagrees⟩, rfl⟩
  simp only at hfollows hagrees ⊢
  obtain ⟨j, here, outer, hspell, houter, rfl⟩ := hfollows
  cases here with
  | cons b here =>
    obtain ⟨s', hs', hstep⟩ := step_of_spells (s := ⟨pc, store, t⟩) hunit hspell houter hagrees
    rw [List.cons_append, Run.next_cons]
    exact ⟨s', hs', .single hstep⟩
  | nil =>
    cases hspell
    cases houter with
    | done =>
      show p.step _ = none
      simp [Program.step]
    | again hclose hback hspell houter =>
      -- the close is passed without a tick, and then the loop stands at the program counter
      obtain ⟨s', hs', hstep⟩ := step_of_spells (s := ⟨_, store, t⟩) hunit hspell houter hagrees
      exact ⟨s', hs', .head (step_close hclose hback) (.single hstep)⟩

/-! ### Results -/

/-- The jump machine ends behind the last statement after `t` ticks, with the output `out`. -/
def Program.Halts (p : Program) (out : String) (t : Nat) : Prop :=
  ∃ s, Reaches p.step Program.start s ∧ s.pc = p.body.length ∧ s.store.output = out ∧ s.ticks = t

/-- The jump machine takes more than `n` ticks. -/
def Program.GoesBeyond (p : Program) (n : Nat) : Prop :=
  ∃ s, Reaches p.step Program.start s ∧ n < s.ticks

private theorem Follows.eq_length {i : Nat} (h : Follows p i []) : i = p.body.length := by
  obtain ⟨j, here, outer, hspell, houter, hnil⟩ := h
  obtain ⟨rfl, rfl⟩ := List.append_eq_nil_iff.1 hnil.symm
  cases hspell
  cases houter
  rfl

section

variable {r : Run} (hunit : UnitMoves p) (hstart : Simulates p r Program.start)
include hunit hstart

theorem halts_iff {out : String} {t : Nat} :
    p.Halts out t ↔ ∃ m, Reaches Run.next r ⟨[], .ok m, t⟩ ∧ m.output = out := by
  constructor
  · rintro ⟨s, hreach, hpc, rfl, rfl⟩
    have hend : p.step s = none := by
      unfold Program.step
      simp [hpc]
    obtain ⟨⟨blocks, memory, _⟩, hsim, heval⟩ :=
      StateTransition.tr_eval_rev (respects_step hunit) hstart (StateTransition.mem_eval.2 ⟨hreach, hend⟩)
    obtain ⟨hrun, hnone⟩ := StateTransition.mem_eval.1 heval
    obtain ⟨m, rfl, hagrees⟩ := hsim.agrees
    cases blocks with
    | cons b rest => cases hnone
    | nil =>
      have hticks := hsim.ticks
      simp only at hticks
      rw [hticks]
      exact ⟨m, hrun, hagrees.output.symm⟩
  · rintro ⟨m, hreach, rfl⟩
    obtain ⟨s, hsim, hs⟩ := StateTransition.tr_reaches (respects_step hunit) hstart hreach
    obtain ⟨_, ⟨⟩, hagrees⟩ := hsim.agrees
    exact ⟨s, hs, hsim.follows.eq_length, hagrees.output, hsim.ticks⟩

theorem goesBeyond_iff {n : Nat} : p.GoesBeyond n ↔ ∃ u, Reaches Run.next r u ∧ n < u.ticks := by
  constructor
  · rintro ⟨s, hreach, hn⟩
    obtain ⟨u, s', hs', hsim, hu⟩ := StateTransition.tr_reaches_rev (respects_step hunit) hstart hreach
    have := ticks_le_of_reaches hs'
    rw [hsim.ticks] at this
    exact ⟨u, hu, by omega⟩
  · rintro ⟨u, hreach, hn⟩
    obtain ⟨s, hsim, hs⟩ := StateTransition.tr_reaches (respects_step hunit) hstart hreach
    exact ⟨s, hs, by rw [hsim.ticks]; exact hn⟩

end

/-- The jump program of an accepted list of symbols, for a machine asked for with `size` cells. -/
def Program.ofMatching (program : List Occurrence) (m : Matching) (size : Nat) (input : List UInt8) : Program :=
  ⟨emit program, m.partner, max size 1, input⟩

private theorem unitMoves_ofMatching (program : List Occurrence) (m : Matching) (size : Nat) (input : List UInt8) :
    UnitMoves (.ofMatching program m size input) := by
  intro d hd
  exact unit_of_mem_emit hd

private theorem simulates_start {program : List Occurrence} {m : Matching} (h : matchBrackets program = .ok m)
    {size : UInt64} (hsize : size.toNat < 2 ^ 63) (input : List UInt8) :
    Simulates (.ofMatching program m size.toNat input) (Machine.start ⟨size⟩ (emit program) input) Program.start := by
  have hflat := flattenAll_nest_emit h
  have hdrop : (Program.ofMatching program m size.toNat input).body.drop 0 =
      flattenAll (nest (emit program)) ++ [] := by
    rw [hflat, List.append_nil]
    rfl
  have hspell := spells_of_drop (plain_leaves_nest _) hdrop fun o c hmem => partner_of_mem_spansAll h hmem
  have hend : Resumes (.ofMatching program m size.toNat input) (0 + (flattenAll (nest (emit program))).length) [] := by
    rw [hflat, Nat.zero_add]
    exact .done
  obtain ⟨t, ht⟩ := Tape.exists_blank hsize
  obtain ⟨hlength, hpointer, hblank⟩ := Tape.of_blank ht
  have hcells : ∀ i, Program.start.store.cells i = (t.cell i).toNat := fun i => by
    rw [hblank]
    rfl
  have hinside : t.pointer < t.length := by
    rw [hpointer]
    exact t.length_pos
  exact ⟨⟨_, _, [], hspell, hend, (List.append_nil _).symm⟩,
    ⟨_, Memory.start_eq_ok_iff.2 ⟨t, ht, rfl⟩, hinside, hlength, hcells, hpointer.symm, rfl, rfl⟩, rfl⟩

/-- The reference machine on the nested blocks of an accepted program and the jump machine on its flat statements
give the same results: the same output within a limit or without one, and beyond the same limits none. -/
theorem machine_agrees_with_jumps {program : List Occurrence} {m : Matching}
    (h : matchBrackets program = .ok m) {size : UInt64} (hsize : size.toNat < 2 ^ 63) (input : List UInt8) :
    (∀ limit out, Machine.run ⟨size⟩ limit (emit program) input = .ok (.ok out) ↔
      ∃ t ≤ limit, (Program.ofMatching program m size.toNat input).Halts out t) ∧
    (∀ out, Machine.Yields ⟨size⟩ (emit program) input out ↔
      ∃ t, (Program.ofMatching program m size.toNat input).Halts out t) ∧
    (∀ limit, Machine.run ⟨size⟩ limit (emit program) input = .ok (.error (.limitExceeded limit)) ↔
      (Program.ofMatching program m size.toNat input).GoesBeyond limit) := by
  have hunit := unitMoves_ofMatching program m size.toNat input
  have hstart := simulates_start h hsize input
  refine ⟨fun limit out => ?_, fun out => ?_, fun limit => ?_⟩
  · rw [Machine.run_eq_ok_iff]
    simp only [halts_iff hunit hstart]
    constructor
    · rintro ⟨mem, t, hreach, hout, ht⟩
      exact ⟨t, ht, mem, hreach, hout⟩
    · rintro ⟨t, ht, mem, hreach, hout⟩
      exact ⟨mem, t, hreach, hout, ht⟩
  · rw [Machine.yields_iff]
    simp only [halts_iff hunit hstart]
    exact exists_comm
  · rw [Machine.run_eq_error_iff]
    exact (goesBeyond_iff hunit hstart).symm

/-- Nested loops over the first byte of the input: within five ticks the two machines give the same results. -/
theorem machine_agrees_with_jumps_nested :
    matchBrackets (lex ",[[-]]") = .ok ⟨[(1, 5), (2, 4)]⟩ ∧
    (∀ out, Machine.run ⟨1⟩ 5 (emit (lex ",[[-]]")) [1] = .ok (.ok out) ↔
      ∃ t ≤ 5, (Program.ofMatching (lex ",[[-]]") ⟨[(1, 5), (2, 4)]⟩ 1 [1]).Halts out t) ∧
    (Machine.run ⟨1⟩ 5 (emit (lex ",[[-]]")) [1] = .ok (.error (.limitExceeded 5)) ↔
      (Program.ofMatching (lex ",[[-]]") ⟨[(1, 5), (2, 4)]⟩ 1 [1]).GoesBeyond 5) := by
  have h : matchBrackets (lex ",[[-]]") = .ok ⟨[(1, 5), (2, 4)]⟩ :=
    matchBrackets_eq_ok.2 ⟨[(1, 5), (2, 4)], rfl, List.mergeSort_of_pairwise (by decide)⟩
  have hsize : (1 : UInt64).toNat < 2 ^ 63 := by decide
  obtain ⟨hout, _, hlimit⟩ := machine_agrees_with_jumps h hsize [1]
  exact ⟨h, hout 5, hlimit 5⟩

end TapeLang.Jump
