import TapeLang.Proofs.Faults

/-!
# Metered runs

The machine as a recursion over blocks that keeps a log of its ticks: one for each statement, before it is done, and one
for each test of a loop condition. A limit refuses the tick that would make the log longer, and a refusal, like a fault,
ends every loop around it (`Runs`). Such a run is unique, and with a limit there always is one, which `execute` computes
(`Runs.unique`, `exists_runs`). A run that ends or faults does not depend on limits that its log fits into
(`Runs.under`), so the number of its ticks decides what the machine answers under each limit. Faults come from two
places only: a tape that is too long, and a move whose sum leaves the signed range (`Machine.faults_iff`).
-/

namespace TapeLang

open StateTransition (Reaches)

namespace Run

/-- A sequence of ticks goes on from its first run. -/
theorem reaches_of_forall_next {runs : Nat → Run} (h : ∀ n, (runs n).next = some (runs (n + 1))) (n : Nat) :
    Reaches next (runs 0) (runs n) ∧ (runs n).ticks = (runs 0).ticks + n := by
  induction n with
  | zero => exact ⟨.refl, rfl⟩
  | succ n ih => exact ⟨ih.1.tail (h n), by rw [ticks_of_next (h n), ih.2, Nat.add_assoc]⟩

/-- From a run that never ends there is an endless sequence of ticks. -/
theorem exists_forall_next {r : Run} (h : ∀ s, Reaches next r s → s.next ≠ none) :
    ∃ runs : Nat → Run, runs 0 = r ∧ ∀ n, (runs n).next = some (runs (n + 1)) := by
  have hnext (s : Run) (hs : Reaches next r s) : ∃ t, s.next = some t := Option.ne_none_iff_exists'.1 (h s hs)
  choose after hafter using hnext
  let runs (n : Nat) : { s // Reaches next r s } :=
    n.rec ⟨r, .refl⟩ fun _ s => ⟨after s.1 s.2, s.2.tail (hafter s.1 s.2)⟩
  exact ⟨fun n => (runs n).1, rfl, fun n => hafter (runs n).1 (runs n).2⟩

end Run

/-- What a tick is spent on. -/
inductive Tick where
  | statement (s : Statement)
  | test
  deriving DecidableEq

/-- How a run of blocks comes out, with all ticks so far: at its end, at a fault, or at a tick that was refused. -/
inductive Finish where
  | ended (m : Memory) (log : List Tick)
  | faulted (f : Fault) (log : List Tick)
  | refused (log : List Tick)

namespace Finish

/-- The ticks that were granted. -/
def log : Finish → List Tick
  | ended _ log => log
  | faulted _ log => log
  | refused log => log

/-- What the run has come to, if no tick was refused. -/
def result? : Finish → Option (Except Fault Memory)
  | ended m _ => some (.ok m)
  | faulted f _ => some (.error f)
  | refused _ => none

/-- The run stopped short of its end. -/
def Short : Finish → Prop
  | ended _ _ => False
  | faulted _ _ => True
  | refused _ => True

end Finish

/-- Whether a limit, if there is one, grants a tick after those of `log`. -/
def Grants (limit : Option Nat) (log : List Tick) : Prop := ∀ n ∈ limit, log.length < n

/-- Blocks run from a memory, after the ticks of a log, and come to a finish. -/
inductive Runs (limit : Option Nat) : List Block → Memory → List Tick → Finish → Prop where
  | nil {m : Memory} {log : List Tick} : Runs limit [] m log (.ended m log)
  | refused {b : Block} {rest : List Block} {m : Memory} {log : List Tick} (hgrant : ¬ Grants limit log) :
      Runs limit (b :: rest) m log (.refused log)
  | plain {s : Statement} {rest : List Block} {m m' : Memory} {log : List Tick} {fin : Finish}
      (hgrant : Grants limit log) (happly : m.apply s = .ok m')
      (hrest : Runs limit rest m' (log ++ [.statement s]) fin) : Runs limit (.plain s :: rest) m log fin
  | fault {s : Statement} {rest : List Block} {m : Memory} {f : Fault} {log : List Tick} (hgrant : Grants limit log)
      (happly : m.apply s = .error f) : Runs limit (.plain s :: rest) m log (.faulted f (log ++ [.statement s]))
  | leave {body rest : List Block} {m : Memory} {log : List Tick} {fin : Finish} (hgrant : Grants limit log)
      (hcell : m.tape.get = 0) (hrest : Runs limit rest m (log ++ [.test]) fin) :
      Runs limit (.loop body :: rest) m log fin
  | again {body rest : List Block} {m m' : Memory} {log log' : List Tick} {fin : Finish} (hgrant : Grants limit log)
      (hcell : m.tape.get ≠ 0) (hbody : Runs limit body m (log ++ [.test]) (.ended m' log'))
      (hrest : Runs limit (.loop body :: rest) m' log' fin) : Runs limit (.loop body :: rest) m log fin
  | cut {body rest : List Block} {m : Memory} {log : List Tick} {fin : Finish} (hgrant : Grants limit log)
      (hcell : m.tape.get ≠ 0) (hbody : Runs limit body m (log ++ [.test]) fin) (hshort : fin.Short) :
      Runs limit (.loop body :: rest) m log fin

namespace Runs

variable {limit : Option Nat} {bs : List Block} {m m' : Memory} {log log' : List Tick} {fin fin' : Finish}

theorem unique (h : Runs limit bs m log fin) (h' : Runs limit bs m log fin') : fin = fin' := by
  induction h generalizing fin' with
  | nil =>
    cases h'
    rfl
  | refused hno =>
    cases h' with
    | refused => rfl
    | _ => contradiction
  | plain hgrant happly _ ih =>
    cases h' with
    | refused hno => contradiction
    | plain _ happly' hrest =>
      cases happly.symm.trans happly'
      exact ih hrest
    | fault _ happly' => cases happly.symm.trans happly'
  | fault hgrant happly =>
    cases h' with
    | refused hno => contradiction
    | plain _ happly' => cases happly.symm.trans happly'
    | fault _ happly' =>
      cases happly.symm.trans happly'
      rfl
  | leave hgrant hcell _ ih =>
    cases h' with
    | refused hno => contradiction
    | leave _ _ hrest => exact ih hrest
    | _ => contradiction
  | again hgrant hcell _ _ ihBody ihRest =>
    cases h' with
    | refused hno => contradiction
    | leave => contradiction
    | again _ _ hbody hrest =>
      cases ihBody hbody
      exact ihRest hrest
    | cut _ _ hbody hshort =>
      cases ihBody hbody
      exact hshort.elim
  | cut hgrant hcell _ hshort ih =>
    cases h' with
    | refused hno => contradiction
    | leave => contradiction
    | again _ _ hbody _ =>
      cases ih hbody
      exact hshort.elim
    | cut _ _ hbody _ => exact ih hbody

theorem prefix_log (h : Runs limit bs m log fin) : log <+: fin.log := by
  induction h with
  | nil => exact List.prefix_rfl
  | refused => exact List.prefix_rfl
  | plain _ _ _ ih => exact (List.prefix_append ..).trans ih
  | fault => exact List.prefix_append ..
  | leave _ _ _ ih => exact (List.prefix_append ..).trans ih
  | again _ _ _ _ ihBody ihRest => exact (List.prefix_append ..).trans (ihBody.trans ihRest)
  | cut _ _ _ _ ih => exact (List.prefix_append ..).trans ih

/-- What statements and tests keep holds at the end of a run. -/
theorem keeps {P : Memory → List Tick → Prop}
    (hstatement : ∀ {m m' log} {s : Statement}, m.apply s = .ok m' → P m log → P m' (log ++ [.statement s]))
    (htest : ∀ {m log}, P m log → P m (log ++ [.test]))
    (h : Runs limit bs m log fin) (hP : P m log) (hfin : fin = .ended m' log') : P m' log' := by
  induction h generalizing m' log' with
  | nil =>
    cases hfin
    exact hP
  | refused => cases hfin
  | plain _ happly _ ih => exact ih (hstatement happly hP) hfin
  | fault => cases hfin
  | leave _ _ _ ih => exact ih (htest hP) hfin
  | again _ _ _ _ ihBody ihRest => exact ihRest (ihBody (htest hP) rfl) hfin
  | cut _ _ _ hshort =>
    subst hfin
    exact hshort.elim

/-- A run of two parts: of the first and then of the second, unless the first stops short. -/
def Splits (limit : Option Nat) (front back : List Block) (m : Memory) (log : List Tick) (fin : Finish) : Prop :=
  (∃ m' log', Runs limit front m log (.ended m' log') ∧ Runs limit back m' log' fin) ∨
    Runs limit front m log fin ∧ fin.Short

theorem Splits.nil {back : List Block} (h : Runs limit back m log fin) : Splits limit [] back m log fin :=
  .inl ⟨m, log, .nil, h⟩

/-- What leads from one first part to another leads there with a second part as well. -/
theorem Splits.lead {front front' back : List Block} (h : Splits limit front' back m' log' fin)
    (hlead : ∀ {g}, Runs limit front' m' log' g → Runs limit front m log g) : Splits limit front back m log fin := by
  rcases h with ⟨m'', log'', hfront, hback⟩ | ⟨hfront, hshort⟩
  · exact .inl ⟨m'', log'', hlead hfront, hback⟩
  · exact .inr ⟨hlead hfront, hshort⟩

theorem splits {front back : List Block} (h : Runs limit (front ++ back) m log fin) :
    Splits limit front back m log fin := by
  generalize hbs : front ++ back = bs at h
  induction h generalizing front with
  | nil =>
    obtain ⟨rfl, rfl⟩ := List.append_eq_nil_iff.1 hbs
    exact .nil .nil
  | refused hno =>
    rcases List.append_eq_cons_iff.1 hbs with ⟨rfl, rfl⟩ | ⟨front, rfl, rfl⟩
    · exact .nil (.refused hno)
    · exact .inr ⟨.refused hno, trivial⟩
  | plain hgrant happly hrest ih =>
    rcases List.append_eq_cons_iff.1 hbs with ⟨rfl, rfl⟩ | ⟨front, rfl, rfl⟩
    · exact .nil (.plain hgrant happly hrest)
    · exact (ih rfl).lead (.plain hgrant happly)
  | fault hgrant happly =>
    rcases List.append_eq_cons_iff.1 hbs with ⟨rfl, rfl⟩ | ⟨front, rfl, rfl⟩
    · exact .nil (.fault hgrant happly)
    · exact .inr ⟨.fault hgrant happly, trivial⟩
  | leave hgrant hcell hrest ih =>
    rcases List.append_eq_cons_iff.1 hbs with ⟨rfl, rfl⟩ | ⟨front, rfl, rfl⟩
    · exact .nil (.leave hgrant hcell hrest)
    · exact (ih rfl).lead (.leave hgrant hcell)
  | @again body _ _ _ _ _ _ hgrant hcell hbody hrest _ ih =>
    rcases List.append_eq_cons_iff.1 hbs with ⟨rfl, rfl⟩ | ⟨front, rfl, rfl⟩
    · exact .nil (.again hgrant hcell hbody hrest)
    · exact (@ih (.loop body :: front) rfl).lead (.again hgrant hcell hbody)
  | cut hgrant hcell hbody hshort =>
    rcases List.append_eq_cons_iff.1 hbs with ⟨rfl, rfl⟩ | ⟨front, rfl, rfl⟩
    · exact .nil (.cut hgrant hcell hbody hshort)
    · exact .inr ⟨.cut hgrant hcell hbody hshort, hshort⟩

/-- A run with no tick refused comes out the same under any other limit that its log fits into. -/
theorem under (h : Runs limit bs m log fin) (hresult : fin.result? ≠ none) {limit' : Option Nat}
    (hlimit : ∀ n ∈ limit', fin.log.length ≤ n) : Runs limit' bs m log fin := by
  -- every tick of such a run is entered in its log, so the other limit grants it too
  have hgrants {l log : List Tick} {e : Tick} (hl : l ++ [e] <+: log) (hlimit : ∀ n ∈ limit', log.length ≤ n) :
      Grants limit' l := fun n hn => by
    have hle := hl.length_le
    rw [List.length_append, List.length_singleton] at hle
    exact Nat.lt_of_lt_of_le hle (hlimit n hn)
  induction h with
  | nil => exact .nil
  | refused => exact absurd rfl hresult
  | plain _ happly hrest ih => exact .plain (hgrants hrest.prefix_log hlimit) happly (ih hresult hlimit)
  | fault _ happly => exact .fault (hgrants List.prefix_rfl hlimit) happly
  | leave _ hcell hrest ih => exact .leave (hgrants hrest.prefix_log hlimit) hcell (ih hresult hlimit)
  | again _ hcell hbody hrest ihBody ihRest =>
    have hle := hrest.prefix_log
    have hbody' := ihBody (by simp [Finish.result?]) fun n hn => Nat.le_trans hle.length_le (hlimit n hn)
    exact .again (hgrants (hbody.prefix_log.trans hle) hlimit) hcell hbody' (ihRest hresult hlimit)
  | cut _ hcell hbody hshort ih => exact .cut (hgrants hbody.prefix_log hlimit) hcell (ih hresult hlimit) hshort

theorem length_log_le {n : Nat} (h : Runs (some n) bs m log fin) (hlog : log.length ≤ n) : fin.log.length ≤ n := by
  have hnext {l : List Tick} {e : Tick} (hgrant : Grants (some n) l) : (l ++ [e]).length ≤ n := by
    have := hgrant n rfl
    simp only [List.length_append, List.length_singleton]
    omega
  induction h with
  | nil => exact hlog
  | refused => exact hlog
  | plain hgrant _ _ ih => exact ih (hnext hgrant)
  | fault hgrant _ => exact hnext hgrant
  | leave hgrant _ _ ih => exact ih (hnext hgrant)
  | again hgrant _ _ _ ihBody ihRest => exact ihRest (ihBody (hnext hgrant))
  | cut hgrant _ _ _ ih => exact ih (hnext hgrant)

end Runs

/-- Under a limit every run comes to a finish, with what an execution within the ticks left comes to. -/
theorem exists_runs {limit n : Nat} {log : List Tick} (hlimit : limit = log.length + n) (bs : List Block) (m : Memory) :
    ∃ fin, Runs (some limit) bs m log fin ∧ fin.result? = execute n bs m := by
  have hgrant {n : Nat} {log : List Tick} (hlimit : limit = log.length + (n + 1)) : Grants (some limit) log := by
    rintro _ ⟨⟩
    omega
  have hnext {n : Nat} {log : List Tick} (hlimit : limit = log.length + (n + 1)) (e : Tick) :
      limit = (log ++ [e]).length + n := by
    rw [List.length_append, List.length_singleton]
    omega
  fun_induction execute n bs m generalizing log with
  | case1 => exact ⟨_, .nil, rfl⟩
  | case2 b rest m =>
    refine ⟨_, .refused fun hgrant => ?_, rfl⟩
    exact Nat.ne_of_gt (hgrant limit rfl) hlimit
  | case3 n s rest m m' happly ih =>
    obtain ⟨fin, hfin, hresult⟩ := ih (hnext hlimit (.statement s))
    exact ⟨fin, .plain (hgrant hlimit) happly hfin, hresult⟩
  | case4 n s rest m f happly => exact ⟨_, .fault (hgrant hlimit) happly, rfl⟩
  | case5 n body rest m hcell ih =>
    obtain ⟨fin, hfin, hresult⟩ := ih (hnext hlimit .test)
    exact ⟨fin, .leave (hgrant hlimit) hcell hfin, hresult⟩
  | case6 n body rest m hcell ih =>
    obtain ⟨fin, hfin, hresult⟩ := ih (hnext hlimit .test)
    rcases hfin.splits with ⟨m', log', hbody, hrest⟩ | ⟨hbody, hshort⟩
    · exact ⟨fin, .again (hgrant hlimit) hcell hbody hrest, hresult⟩
    · exact ⟨fin, .cut (hgrant hlimit) hcell hbody hshort, hresult⟩

/-- What a machine under a limit, or under none, answers at a finish. -/
def Finish.answer? (limit : Option Nat) : Finish → Option (Except Fault (Except RunError String))
  | ended m _ => some (.ok (.ok m.output))
  | faulted f _ => some (.error f)
  | refused _ => limit.map fun n => .ok (.error (.limitExceeded n))

namespace Machine

variable {k : Machine} {limit : Option Nat} {body : List Statement} {input : List UInt8} {log : List Tick}
  {result : Except Fault (Except RunError String)} {out : String} {f : Fault} {fin : Finish}

/-- Under a limit, or under none, the machine comes to a finish. A tape that cannot be made is a fault before the first
tick. -/
def Finishes (k : Machine) (limit : Option Nat) (body : List Statement) (input : List UInt8) (fin : Finish) : Prop :=
  match Memory.start k.tapeSize input with
  | .ok m => Runs limit (nest body) m [] fin
  | .error f => fin = .faulted f []

/-- Under a limit, or under none, the machine comes to a result after the ticks of a log. -/
def Comes (k : Machine) (limit : Option Nat) (body : List Statement) (input : List UInt8) (log : List Tick)
    (result : Except Fault (Except RunError String)) : Prop :=
  ∃ fin, k.Finishes limit body input fin ∧ fin.log = log ∧ fin.answer? limit = some result

/-- The ticks of a run with a result: those of its log, and the one that was refused, if one was. -/
def ticksOf (log : List Tick) : Except Fault (Except RunError String) → Nat
  | .ok (.error _) => log.length + 1
  | _ => log.length

/-- A run without a limit goes on for ever. -/
def Diverges (k : Machine) (body : List Statement) (input : List UInt8) : Prop :=
  ∃ runs : Nat → Run, runs 0 = k.start body input ∧ ∀ n, (runs n).next = some (runs (n + 1))

theorem Finishes.unique {fin' : Finish} (h : k.Finishes limit body input fin) (h' : k.Finishes limit body input fin') :
    fin = fin' := by
  unfold Finishes at h h'
  split at h
  · next m hm =>
    rw [hm] at h'
    exact h.unique h'
  · next f hf =>
    rw [hf] at h'
    exact h.trans h'.symm

theorem Finishes.under (h : k.Finishes limit body input fin) (hresult : fin.result? ≠ none) {limit' : Option Nat}
    (hlimit : ∀ n ∈ limit', fin.log.length ≤ n) : k.Finishes limit' body input fin := by
  unfold Finishes at h ⊢
  split at h
  · next m hm => exact Runs.under h hresult hlimit
  · exact h

theorem Finishes.length_log_le {n : Nat} (h : k.Finishes (some n) body input fin) : fin.log.length ≤ n := by
  unfold Finishes at h
  split at h
  · exact Runs.length_log_le h (Nat.zero_le _)
  · subst h
    exact Nat.zero_le _

theorem comes_unique {log' : List Tick} {result' : Except Fault (Except RunError String)}
    (h : k.Comes limit body input log result) (h' : k.Comes limit body input log' result') :
    log = log' ∧ result = result' := by
  obtain ⟨fin, hfin, rfl, hresult⟩ := h
  obtain ⟨fin', hfin', rfl, hresult'⟩ := h'
  obtain rfl := hfin.unique hfin'
  exact ⟨rfl, Option.some.inj (hresult.symm.trans hresult')⟩

/-- A machine under a limit comes to a finish, with the answer that it gives. -/
theorem exists_finishes (k : Machine) (limit : Nat) (body : List Statement) (input : List UInt8) :
    ∃ fin, k.Finishes (some limit) body input fin ∧ fin.answer? (some limit) = some (k.run limit body input) := by
  have hlimit : limit = ([] : List Tick).length + limit := (Nat.zero_add limit).symm
  unfold Finishes run outputWithin
  cases Memory.start k.tapeSize input with
  | error f => exact ⟨_, rfl, rfl⟩
  | ok m =>
    obtain ⟨fin, hfin, hresult⟩ := exists_runs hlimit (nest body) m
    refine ⟨fin, hfin, ?_⟩
    dsimp only
    rw [← hresult]
    cases fin <;> rfl

theorem comes_run (k : Machine) (limit : Nat) (body : List Statement) (input : List UInt8) :
    ∃ log, k.Comes (some limit) body input log (k.run limit body input) ∧
      ticksOf log (k.run limit body input) ≤ limit + 1 := by
  obtain ⟨fin, hfin, hanswer⟩ := exists_finishes k limit body input
  have hle := hfin.length_log_le
  refine ⟨fin.log, ⟨fin, hfin, rfl, hanswer⟩, ?_⟩
  cases hrun : k.run limit body input with
  | error f => exact Nat.le_succ_of_le hle
  | ok result =>
    cases result with
    | ok out => exact Nat.le_succ_of_le hle
    | error e => exact Nat.succ_le_succ hle

theorem run_eq_iff {limit : Nat} :
    k.run limit body input = result ↔ ∃ log, k.Comes (some limit) body input log result := by
  obtain ⟨log, hlog, -⟩ := comes_run k limit body input
  constructor
  · rintro rfl
    exact ⟨log, hlog⟩
  · rintro ⟨log', hlog'⟩
    exact (comes_unique hlog hlog').2

/-- What a machine comes to without a limit is an output or a fault. -/
theorem Comes.settled (h : k.Comes none body input log result) :
    (∃ out, result = .ok (.ok out)) ∨ ∃ f, result = .error f := by
  obtain ⟨fin, -, -, hanswer⟩ := h
  cases fin with
  | ended m log =>
    cases hanswer
    exact .inl ⟨_, rfl⟩
  | faulted f log =>
    cases hanswer
    exact .inr ⟨_, rfl⟩
  | refused log => cases hanswer

/-- A result that is no stop at the limit is the result without a limit, and its ticks are within the limit. -/
theorem comes_iff {limit : Nat} (hresult : ∀ e, result ≠ .ok (.error e)) :
    k.Comes (some limit) body input log result ↔ k.Comes none body input log result ∧ log.length ≤ limit := by
  constructor
  · rintro ⟨fin, hfin, rfl, hanswer⟩
    have hle := hfin.length_log_le
    cases fin with
    | ended m log => exact ⟨⟨_, hfin.under (by simp [Finish.result?]) (by simp), rfl, hanswer⟩, hle⟩
    | faulted f log => exact ⟨⟨_, hfin.under (by simp [Finish.result?]) (by simp), rfl, hanswer⟩, hle⟩
    | refused log =>
      cases hanswer
      exact absurd rfl (hresult _)
  · rintro ⟨⟨fin, hfin, rfl, hanswer⟩, hle⟩
    have hlimit : ∀ n ∈ some limit, fin.log.length ≤ n := by simpa using hle
    cases fin with
    | ended m log => exact ⟨_, hfin.under (by simp [Finish.result?]) hlimit, rfl, hanswer⟩
    | faulted f log => exact ⟨_, hfin.under (by simp [Finish.result?]) hlimit, rfl, hanswer⟩
    | refused log => cases hanswer

/-- What a machine comes to within some number of ticks it comes to without a limit. -/
theorem exists_outputWithin_iff {x : Except Fault String} :
    (∃ n, k.outputWithin n body input = some x) ↔ ∃ log, k.Comes none body input log (x.map .ok) := by
  have hresult : ∀ e, (x.map .ok : Except Fault (Except RunError String)) ≠ .ok (.error e) := by
    cases x <;> simp [Except.map]
  have hwithin (n : Nat) : k.outputWithin n body input = some x ↔ k.run n body input = x.map .ok := by
    unfold run
    rcases k.outputWithin n body input with _ | _ | _ <;> cases x <;> simp [Except.map]
  simp only [hwithin, run_eq_iff, comes_iff hresult]
  constructor
  · rintro ⟨_, log, hlog, -⟩
    exact ⟨log, hlog⟩
  · rintro ⟨log, hlog⟩
    exact ⟨log.length, log, hlog, Nat.le_refl _⟩

theorem yields_iff_comes : k.Yields body input out ↔ ∃ log, k.Comes none body input log (.ok (.ok out)) :=
  exists_outputWithin_iff

theorem faults_iff_comes : k.Faults body input f ↔ ∃ log, k.Comes none body input log (.error f) :=
  exists_outputWithin_iff

/-- An answer that is no result without a limit is the stop at the limit. -/
theorem run_eq_error_of_ne {limit : Nat} (hok : ∀ out, k.run limit body input ≠ .ok (.ok out))
    (hfault : ∀ f, k.run limit body input ≠ .error f) :
    k.run limit body input = .ok (.error (.limitExceeded limit)) := by
  unfold run at hok hfault ⊢
  rcases hout : k.outputWithin limit body input with _ | f | out
  · rfl
  · rw [hout] at hfault
    exact absurd rfl (hfault f)
  · rw [hout] at hok
    exact absurd rfl (hok out)

/-- The number of ticks of a run that ends or faults decides the answer under every limit. -/
theorem run_of_comes (h : k.Comes none body input log result) (limit : Nat) :
    k.run limit body input = if log.length ≤ limit then result else .ok (.error (.limitExceeded limit)) := by
  have hsettled : ∀ e, result ≠ .ok (.error e) := by
    rcases h.settled with ⟨out, rfl⟩ | ⟨f, rfl⟩ <;> simp
  split
  · next hle => exact run_eq_iff.2 ⟨log, (comes_iff hsettled).2 ⟨h, hle⟩⟩
  · next hgt =>
    -- any result within the limit would be this one, with the same ticks
    have hno (x : Except Fault (Except RunError String)) (hx : ∀ e, x ≠ .ok (.error e)) : k.run limit body input ≠ x :=
      fun hrun => by
        obtain ⟨log', hlog'⟩ := run_eq_iff.1 hrun
        obtain ⟨hnone, hle⟩ := (comes_iff hx).1 hlog'
        obtain ⟨rfl, -⟩ := comes_unique h hnone
        exact hgt hle
    exact run_eq_error_of_ne (fun out => hno _ (by simp)) fun f => hno _ (by simp)

/-! ### Divergence -/

/-- A run diverges exactly when it is stopped under every limit. -/
theorem diverges_iff :
    k.Diverges body input ↔ ∀ limit, k.run limit body input = .ok (.error (.limitExceeded limit)) := by
  simp only [run_eq_error_iff]
  constructor
  · rintro ⟨runs, hstart, hnext⟩ limit
    obtain ⟨hreach, hticks⟩ := Run.reaches_of_forall_next hnext (limit + 1)
    rw [hstart] at hreach hticks
    rw [start, Nat.zero_add] at hticks
    exact ⟨_, hreach, by omega⟩
  · intro hbeyond
    apply Run.exists_forall_next
    -- a run that has ended has no ticks beyond its own behind it
    intro r hr hend
    obtain ⟨u, hu, hlt⟩ := hbeyond r.ticks
    have := Run.ticks_le_of_reaches (Run.reaches_of_next_eq_none hr hu hend)
    omega

theorem comes_or_diverges (k : Machine) (body : List Statement) (input : List UInt8) :
    (∃ log result, k.Comes none body input log result) ∨ k.Diverges body input := by
  by_cases h : ∃ log result, k.Comes none body input log result
  · exact .inl h
  · have hno (limit : Nat) (x : Except Fault (Except RunError String)) (hx : ∀ e, x ≠ .ok (.error e)) :
        k.run limit body input ≠ x := fun hrun => by
      obtain ⟨log, hlog⟩ := run_eq_iff.1 hrun
      exact h ⟨log, x, ((comes_iff hx).1 hlog).1⟩
    exact .inr (diverges_iff.2 fun limit =>
      run_eq_error_of_ne (fun out => hno limit _ (by simp)) fun f => hno limit _ (by simp))

/-- A run that comes to a loop with an empty body, on a cell that is not zero, never leaves it. -/
theorem diverges_of_empty_loop {r : Run} {rest : List Block} {m : Memory}
    (hreach : Reaches Run.next (k.start body input) r) (hblocks : r.blocks = .loop [] :: rest)
    (hmemory : r.memory = .ok m) (hcell : m.tape.get ≠ 0) : k.Diverges body input := by
  obtain ⟨blocks, memory, t⟩ := r
  subst hblocks hmemory
  have hagain (n : Nat) : Reaches Run.next (k.start body input) ⟨.loop [] :: rest, .ok m, t + n⟩ := by
    induction n with
    | zero => exact hreach
    | succ n ih =>
      refine ih.tail ?_
      rw [Run.next_cons]
      simp [Run.tick, hcell, Nat.add_assoc]
  refine diverges_iff.2 fun limit => run_eq_error_iff.2 ⟨_, hagain (limit + 1), ?_⟩
  simp only
  omega

theorem not_diverges_of_comes (h : k.Comes none body input log result) : ¬ k.Diverges body input := by
  intro hdiverges
  have hrun := run_of_comes h log.length
  rw [if_pos (Nat.le_refl _), diverges_iff.1 hdiverges] at hrun
  rcases h.settled with ⟨out, rfl⟩ | ⟨f, rfl⟩ <;> cases hrun

/-! ### Faults -/

/-- A machine faults at a tape that is too long, or at a move whose sum leaves the signed range. -/
theorem faults_iff : k.Faults body input f ↔
    (f = .capacity ∧ 2 ^ 63 ≤ k.tapeSize.toNat) ∨
      (f = .overflow ∧ ∃ d rest m t, Reaches Run.next (k.start body input) ⟨.plain (.move d) :: rest, .ok m, t⟩ ∧
        2 ^ 63 ≤ m.tape.pointer + d.toInt) := by
  rw [← reaches_fault_iff]
  unfold Faults
  simp only [outputWithin_eq_error_iff]
  constructor
  · rintro ⟨n, bs, t, hreach, -⟩
    exact ⟨bs, t, hreach⟩
  · rintro ⟨bs, t, hreach⟩
    exact ⟨t, bs, t, hreach, Nat.le_refl _⟩

/-- Where no move goes beyond what the length leaves of the signed range, a run ends or diverges. -/
theorem not_faults (hsize : k.tapeSize.toNat < 2 ^ 63)
    (hshort : ∀ d : Int64, .move d ∈ body → d.toInt ≤ 2 ^ 63 - max k.tapeSize.toNat 1) : ¬ k.Faults body input f := by
  rw [faults_iff, ← reaches_fault_iff]
  exact not_reaches_fault hsize hshort

/-- The step limit is exact. A run ends with an output, or with a fault, or it diverges. In the first two cases the
number of its ticks decides what the machine answers under each limit, and in the third it is stopped under every limit.
Faults are exactly those of a tape that is too long and of a move whose sum leaves the signed range, so there is none
where no move goes beyond what the length leaves of that range. With a limit the recursion over blocks always comes to
the machine's answer, and to no other, after at most one tick beyond it; an output given under a limit is given under
all larger ones and without any; and an empty loop on a cell that is not zero is never left. -/
theorem limit_exact (k : Machine) (body : List Statement) (input : List UInt8) :
    ((∃ log result, k.Comes none body input log result ∧ ((∃ out, result = .ok (.ok out)) ∨ ∃ f, result = .error f) ∧
        ¬ k.Diverges body input ∧ ∀ limit, k.run limit body input =
          if log.length ≤ limit then result else .ok (.error (.limitExceeded limit))) ∨
      (k.Diverges body input ∧ ∀ limit, k.run limit body input = .ok (.error (.limitExceeded limit)))) ∧
    (∀ f, (∃ log, k.Comes none body input log (.error f)) ↔
      (f = .capacity ∧ 2 ^ 63 ≤ k.tapeSize.toNat) ∨
        (f = .overflow ∧ ∃ d rest m t, Reaches Run.next (k.start body input) ⟨.plain (.move d) :: rest, .ok m, t⟩ ∧
          2 ^ 63 ≤ m.tape.pointer + d.toInt)) ∧
    (k.tapeSize.toNat < 2 ^ 63 → (∀ d : Int64, .move d ∈ body → d.toInt ≤ 2 ^ 63 - max k.tapeSize.toNat 1) →
      ∀ log f, ¬ k.Comes none body input log (.error f)) ∧
    (∀ limit, ∃ log, ticksOf log (k.run limit body input) ≤ limit + 1 ∧
      ∀ log' result, k.Comes (some limit) body input log' result ↔
        log' = log ∧ result = k.run limit body input) ∧
    (∀ limit out, k.run limit body input = .ok (.ok out) →
      (∀ larger, limit ≤ larger → k.run larger body input = .ok (.ok out)) ∧ k.Yields body input out) ∧
    (∀ r rest m, Reaches Run.next (k.start body input) r → r.blocks = .loop [] :: rest → r.memory = .ok m →
      m.tape.get ≠ 0 → k.Diverges body input) := by
  refine ⟨?_, fun f => ?_, fun hsize hshort log f h => ?_, fun limit => ?_, fun limit out hout => ?_,
    fun r rest m => diverges_of_empty_loop⟩
  · rcases comes_or_diverges k body input with ⟨log, result, h⟩ | h
    · exact .inl ⟨log, result, h, h.settled, not_diverges_of_comes h, run_of_comes h⟩
    · exact .inr ⟨h, diverges_iff.1 h⟩
  · rw [← faults_iff_comes, faults_iff]
  · exact not_faults hsize hshort (faults_iff_comes.2 ⟨log, h⟩)
  · obtain ⟨log, hlog, hticks⟩ := comes_run k limit body input
    refine ⟨log, hticks, fun log' result => ⟨fun h => comes_unique h hlog, ?_⟩⟩
    rintro ⟨rfl, rfl⟩
    exact hlog
  · obtain ⟨log, hlog⟩ := run_eq_iff.1 hout
    have hsettled : ∀ e, (.ok (.ok out) : Except Fault (Except RunError String)) ≠ .ok (.error e) := by simp
    obtain ⟨hnone, hle⟩ := (comes_iff hsettled).1 hlog
    refine ⟨fun larger hlarger => ?_, yields_iff_comes.2 ⟨log, hnone⟩⟩
    exact run_eq_iff.2 ⟨log, (comes_iff hsettled).2 ⟨hnone, Nat.le_trans hle hlarger⟩⟩

/-- The empty loop behind an increment is never left, and an output after two ticks is given with three as well. -/
theorem limit_exact_of_empty_loop :
    Diverges ⟨1⟩ [.increment, .loopOpen, .loopClose] [] ∧ run ⟨1⟩ 2 [.increment, .write] [] = .ok (.ok "\x01") ∧
      run ⟨1⟩ 3 [.increment, .write] [] = .ok (.ok "\x01") ∧
      ∀ log f, ¬ Comes ⟨1⟩ none [.increment, .write] [] log (.error f) := by
  obtain ⟨m, hm⟩ := Memory.exists_start (show (1 : UInt64).toNat < 2 ^ 63 by decide) []
  obtain ⟨t, ht, rfl⟩ := Memory.start_eq_ok_iff.1 hm
  obtain ⟨-, -, hblank⟩ := Tape.of_blank ht
  have hone : t.increment.get = 1 := by
    rw [Tape.increment, Tape.get_set, Tape.get, hblank]
    rfl
  have hcell : t.increment.get ≠ 0 := by
    rw [hone]
    decide
  have hout : run ⟨1⟩ 2 [.increment, .write] [] = .ok (.ok "\x01") := by
    refine run_eq_ok_iff.2 ⟨_, 2, .head (b := ⟨[.plain .write], .ok ⟨t.increment, [], ""⟩, 1⟩) ?_ (.single rfl), ?_, ?_⟩
    · rw [start, hm]
      rfl
    · show "".push (Char.ofNat t.increment.get.toNat) = _
      rw [hone]
      rfl
    · exact Nat.le_refl _
  have hexact := limit_exact ⟨1⟩ [.increment, .write] []
  refine ⟨?_, hout, (hexact.2.2.2.2.1 2 _ hout).1 3 (by decide), hexact.2.2.1 (by decide) (by simp)⟩
  refine (limit_exact ⟨1⟩ _ []).2.2.2.2.2 ⟨[.loop []], .ok ⟨t.increment, [], ""⟩, 1⟩ [] _ (.single ?_) rfl rfl hcell
  rw [start, hm]
  rfl

/-- On three cells the longest move forward from the second cell is a fault, in the second of five ticks. -/
theorem run_of_long_move : run ⟨3⟩ 5 [.move 1, .move .maxValue] [] = .error .overflow := by
  obtain ⟨m, hm⟩ := Memory.exists_start (show (3 : UInt64).toNat < 2 ^ 63 by decide) []
  obtain ⟨t, ht, rfl⟩ := Memory.start_eq_ok_iff.1 hm
  obtain ⟨hlength, hpointer, -⟩ := Tape.of_blank ht
  have hfirst : t.move 1 = .ok (t.turn 1) := Tape.move_eq_ok_iff.2 ⟨by rw [hpointer]; decide, rfl⟩
  have hplace := t.pointer_turn 1
  rw [hpointer, hlength] at hplace
  have hsecond : (t.turn 1).move .maxValue = .error .overflow :=
    Tape.move_eq_error_iff.2 ⟨rfl, by rw [hplace]; decide⟩
  refine run_eq_fault_iff.2 ⟨[], 2, .head (b := ⟨[.plain (.move .maxValue)], .ok ⟨t.turn 1, [], ""⟩, 1⟩) ?_
    (.single ?_), by decide⟩
  · rw [start, hm]
    show some (Run.tick (.plain (.move 1)) _ _ _) = _
    rw [Run.tick, Memory.apply_move, hfirst]
    rfl
  · rw [Run.next_cons, Run.tick, Memory.apply_move, hsecond]
    rfl

end Machine

end TapeLang
