import TapeLang.Proofs.Execution
import TapeLang.Proofs.Ring

/-!
# Where runs fault

There are two places: a tape that is too long is a fault before the first tick, and of all statements a move alone can
fault, where its sum leaves the signed range (`Machine.reaches_fault_iff`). In every memory that a run comes through the
tape has the length that was asked for and the pointer is on it (`Machine.onTape_of_reaches`). So a run with no move
beyond what the length leaves of the signed range has no fault (`Machine.not_reaches_fault`), and moves by one cell
never go beyond that.
-/

namespace TapeLang

open StateTransition (Reaches)

namespace Memory

variable {m m' : Memory} {size : UInt64} {input : List UInt8} {s : Statement} {f : Fault}

theorem start_eq_ok_iff :
    start size input = .ok m ↔ ∃ t, Tape.blank size = .ok t ∧ m = ⟨t, input, ""⟩ := by
  unfold start
  cases Tape.blank size with
  | error f => simp [bind, Except.bind]
  | ok t => simp [bind, Except.bind, pure, Except.pure, eq_comm]

theorem start_eq_error_iff : start size input = .error f ↔ f = .capacity ∧ 2 ^ 63 ≤ size.toNat := by
  rw [← Tape.blank_eq_error_iff, start]
  cases Tape.blank size with
  | error f => simp [bind, Except.bind]
  | ok t => simp [bind, Except.bind, pure, Except.pure]

theorem exists_start (h : size.toNat < 2 ^ 63) (input : List UInt8) : ∃ m, start size input = .ok m := by
  obtain ⟨t, ht⟩ := Tape.exists_blank h
  exact ⟨_, start_eq_ok_iff.2 ⟨t, ht, rfl⟩⟩

theorem apply_move (m : Memory) (d : Int64) :
    m.apply (.move d) = (m.tape.move d).map fun t => { m with tape := t } := by
  simp only [apply]
  cases m.tape.move d <;> rfl

theorem apply_move_eq_ok_iff {d : Int64} :
    m.apply (.move d) = .ok m' ↔ m.tape.pointer + d.toInt < 2 ^ 63 ∧ m' = { m with tape := m.tape.turn d.toInt } := by
  rw [apply_move, Tape.move_eq]
  split
  · next h => simp only [Except.map, Except.ok.injEq, h, true_and, eq_comm]
  · next h => simp only [Except.map, reduceCtorEq, h, false_and]

/-- Of all statements a move alone can fault. -/
theorem apply_eq_error_iff : m.apply s = .error f ↔ ∃ d, s = .move d ∧ m.tape.move d = .error f := by
  cases s with
  | move d =>
    rw [apply_move]
    cases hmove : m.tape.move d <;> simp [Except.map, hmove]
  | _ => simp [apply, pure, Except.pure]

/-- The tape has the length that was asked for, and the pointer is on it. -/
structure OnTape (size : UInt64) (m : Memory) : Prop where
  length_eq : m.tape.length = max size.toNat 1
  pointer_lt : m.tape.pointer < m.tape.length

theorem onTape_start (h : start size input = .ok m) : m.OnTape size := by
  obtain ⟨t, ht, rfl⟩ := start_eq_ok_iff.1 h
  obtain ⟨hlength, hpointer, -⟩ := Tape.of_blank ht
  exact ⟨hlength, by simpa [hpointer] using t.length_pos⟩

/-- No statement moves the pointer off the tape. -/
theorem OnTape.apply (h : m.OnTape size) (happly : m.apply s = .ok m') : m'.OnTape size := by
  cases s with
  | move d =>
    obtain ⟨-, rfl⟩ := apply_move_eq_ok_iff.1 happly
    exact ⟨h.length_eq, m.tape.pointer_turn_lt _⟩
  | read =>
    cases happly
    unfold read
    cases m.input <;> exact ⟨h.length_eq, h.pointer_lt⟩
  | _ =>
    cases happly
    exact ⟨h.length_eq, h.pointer_lt⟩

end Memory

namespace Run

variable {r r' : Run}

/-- What statements keep holds in every memory that a run comes through. -/
theorem memory_of_reaches {P : Memory → Prop} (hstep : ∀ {m m' s}, m.apply s = .ok m' → P m → P m')
    (h : Reaches next r r') (hstart : ∀ m, r.memory = .ok m → P m) : ∀ m, r'.memory = .ok m → P m := by
  induction h with
  | refl => exact hstart
  | @tail u v _ hnext ih =>
    obtain ⟨_ | ⟨b, rest⟩, _ | m, t⟩ := u
    · cases hnext
    · cases hnext
    · cases hnext
    · cases hnext
      have hm := ih m rfl
      cases b with
      | plain s => exact fun m' hm' => hstep hm' hm
      | loop body =>
        rintro _ ⟨⟩
        exact hm

/-- What holds of all statements of a run stays so. -/
theorem leaves_of_reaches {P : Statement → Prop} (h : Reaches next r r') (hstart : Leaves P r.blocks) :
    Leaves P r'.blocks := by
  induction h with
  | refl => exact hstart
  | @tail u v _ hnext ih =>
    obtain ⟨_ | ⟨b, rest⟩, _ | m, t⟩ := u
    · cases hnext
    · cases hnext
    · cases hnext
    · cases hnext
      cases ih with
      | plain _ hrest => exact hrest
      | loop hinner hrest =>
        simp only [tick]
        split
        · exact hrest
        · exact hinner.append (.loop hinner hrest)

/-- The tick that faults is spent on a statement. -/
theorem memory_eq_error_of_next {f : Fault} (hnext : r.next = some r') (hfault : r'.memory = .error f) :
    ∃ s rest m t, r = ⟨.plain s :: rest, .ok m, t⟩ ∧ m.apply s = .error f := by
  obtain ⟨_ | ⟨b, rest⟩, _ | m, t⟩ := r
  · cases hnext
  · cases hnext
  · cases hnext
  · cases hnext
    cases b with
    | plain s => exact ⟨s, rest, m, t, rfl, hfault⟩
    | loop body => cases hfault

end Run

namespace Machine

variable {k : Machine} {body : List Statement} {input : List UInt8} {r : Run} {m : Memory} {f : Fault}

/-- In every memory that a run comes through the pointer is on the tape. -/
theorem onTape_of_reaches (h : Reaches Run.next (k.start body input) r) (hm : r.memory = .ok m) :
    m.OnTape k.tapeSize :=
  Run.memory_of_reaches (fun happly hon => hon.apply happly) h (fun _ => Memory.onTape_start) m hm

/-- A run faults at a tape that is too long, or at a move whose sum leaves the signed range. -/
theorem reaches_fault_iff :
    (∃ bs t, Reaches Run.next (k.start body input) ⟨bs, .error f, t⟩) ↔
      (f = .capacity ∧ 2 ^ 63 ≤ k.tapeSize.toNat) ∨
        (f = .overflow ∧ ∃ d rest m t, Reaches Run.next (k.start body input) ⟨.plain (.move d) :: rest, .ok m, t⟩ ∧
          2 ^ 63 ≤ m.tape.pointer + d.toInt) := by
  constructor
  · rintro ⟨bs, t, hreach⟩
    rcases Relation.ReflTransGen.cases_tail hreach with hstart | ⟨r, hr, hnext⟩
    · exact .inl (Memory.start_eq_error_iff.1 (congrArg Run.memory hstart).symm)
    · obtain ⟨s, rest, m, t, rfl, happly⟩ := Run.memory_eq_error_of_next hnext rfl
      obtain ⟨d, rfl, hmove⟩ := Memory.apply_eq_error_iff.1 happly
      obtain ⟨hf, hsum⟩ := Tape.move_eq_error_iff.1 hmove
      exact .inr ⟨hf, d, rest, m, t, hr, hsum⟩
  · rintro (hstart | ⟨rfl, d, rest, m, t, hreach, hsum⟩)
    · refine ⟨nest body, 0, ?_⟩
      rw [start, Memory.start_eq_error_iff.2 hstart]
      exact .refl
    · refine ⟨rest, t + 1, hreach.tail ?_⟩
      rw [Run.next_cons, Run.tick, Memory.apply_eq_error_iff.2 ⟨d, rfl, Tape.move_eq_error_iff.2 ⟨rfl, hsum⟩⟩]
      rfl

/-- Without a move beyond what the length leaves of the signed range there is no fault. -/
theorem not_reaches_fault (hsize : k.tapeSize.toNat < 2 ^ 63)
    (hshort : ∀ d : Int64, .move d ∈ body → d.toInt ≤ 2 ^ 63 - max k.tapeSize.toNat 1) :
    ¬ ∃ bs t, Reaches Run.next (k.start body input) ⟨bs, .error f, t⟩ := by
  rw [reaches_fault_iff]
  rintro (⟨-, hlong⟩ | ⟨-, d, rest, m, t, hreach, hsum⟩)
  · omega
  · have hleaves : Leaves (· ∈ body) (nest body) := leaves_nest fun s hs _ => hs
    have hmem : .move d ∈ body := by
      cases Run.leaves_of_reaches hreach hleaves with
      | plain hs _ => exact hs
    have hon := onTape_of_reaches hreach rfl
    have hpointer := hon.pointer_lt
    have hlength := hon.length_eq
    have := hshort d hmem
    omega

/-- With moves by one cell only, the tape alone can be at fault. -/
theorem reaches_fault_iff_of_unit (hunit : ∀ d : Int64, .move d ∈ body → d = 1 ∨ d = -1) {n : Nat} :
    (∃ bs t, Reaches Run.next (k.start body input) ⟨bs, .error f, t⟩ ∧ t ≤ n) ↔
      f = .capacity ∧ 2 ^ 63 ≤ k.tapeSize.toNat := by
  by_cases hsize : k.tapeSize.toNat < 2 ^ 63
  · refine iff_of_false ?_ (by omega)
    rintro ⟨bs, t, hreach, -⟩
    refine not_reaches_fault hsize (fun d hd => ?_) ⟨bs, t, hreach⟩
    have := toInt_of_unit (hunit d hd)
    omega
  · have hstart : Memory.start k.tapeSize input = .error .capacity :=
      Memory.start_eq_error_iff.2 ⟨rfl, Nat.not_lt.1 hsize⟩
    simp only [reaches_start_iff hstart]
    constructor
    · rintro ⟨bs, t, ⟨⟩, -⟩
      exact ⟨rfl, Nat.not_lt.1 hsize⟩
    · rintro ⟨rfl, -⟩
      exact ⟨_, _, rfl, Nat.zero_le _⟩

end Machine

end TapeLang
