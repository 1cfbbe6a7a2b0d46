import Mathlib.Data.List.Induction
import TapeLang.Proofs.Overflow

/-!
# Operations on a tape

A sequence of operations keeps the length of a tape, and it leaves the pointer at the sum of the moves modulo the length
(`performAll_eq_ok`). A cell depends on the operations at it alone: it holds the value last set with the increments and
decrements since, modulo 256 (`toNat_foldl_act`). A sequence fails exactly at a move whose sum with the pointer leaves
the signed range (`performAll_eq_error_iff`).
-/

namespace TapeLang.Tape

/-- What can be done with a tape. -/
inductive Operation where
  | increment
  | decrement
  | set (v : UInt8)
  | get
  | move (delta : Int64)
  deriving DecidableEq

namespace Operation

/-- The distance of a move. -/
def delta : Operation → Int
  | .move d => d.toInt
  | _ => 0

/-- What becomes of the value of the cell under the pointer. -/
def act (x : UInt8) : Operation → UInt8
  | .increment => x + 1
  | .decrement => x - 1
  | .set v => v
  | .get => x
  | .move _ => x

/-- The value that is set. -/
def value? : Operation → Option UInt8
  | .set v => some v
  | _ => none

end Operation

def perform (t : Tape) : Operation → Except Fault Tape
  | .increment => .ok t.increment
  | .decrement => .ok t.decrement
  | .set v => .ok (t.set v)
  | .get => .ok t
  | .move d => t.move d

/-- Operations in order, up to the first that faults. -/
def performAll (t : Tape) (ops : List Operation) : Except Fault Tape := ops.foldlM perform t

/-- The sum of all moves. -/
def total (ops : List Operation) : Int := (ops.map Operation.delta).sum

/-- The operations of a sequence that are done at the cell `i` of `length` cells, when the moves before it add up to
`n`. -/
def operationsAt (length i : Nat) (n : Int) : List Operation → List Operation
  | [] => []
  | op :: ops => (if n % length = i then [op] else []) ++ operationsAt length i (n + op.delta) ops

/-- Behind moves that add up to `n`, the sum of a pointer on `length` cells and a move leaves the signed range. -/
def Overruns (length : Nat) (n : Int) (ops : List Operation) : Prop :=
  ∃ before d after, ops = before ++ .move d :: after ∧ 2 ^ 63 ≤ (n + total before) % length + d.toInt

/-! ### The value of a cell -/

section

/-- The value last set by operations, or zero if none was. -/
def lastSet (ops : List Operation) : UInt8 := (ops.reverse.findSome? Operation.value?).getD 0

/-- The operations behind the last that sets a value, latest first. -/
def sinceSet (ops : List Operation) : List Operation := ops.reverse.takeWhile (·.value?.isNone)

/-- The value last set, with the increments and decrements since. -/
def balance (ops : List Operation) : Int :=
  (lastSet ops).toNat + (sinceSet ops).count .increment - (sinceSet ops).count .decrement

theorem balance_concat_set (ops : List Operation) (v : UInt8) : balance (ops ++ [.set v]) = v.toNat := by
  have hlast : lastSet (ops ++ [.set v]) = v := by
    rw [lastSet, List.reverse_append]
    rfl
  have hsince : sinceSet (ops ++ [.set v]) = [] := by
    rw [sinceSet, List.reverse_append]
    rfl
  rw [balance, hlast, hsince]
  simp

theorem balance_concat {op : Operation} (h : op.value? = none) (ops : List Operation) :
    balance (ops ++ [op]) = balance ops + [op].count .increment - [op].count .decrement := by
  have hlast : lastSet (ops ++ [op]) = lastSet ops := by
    simp [lastSet, h]
  have hsince : sinceSet (ops ++ [op]) = op :: sinceSet ops := by
    simp [sinceSet, h]
  have hcount : ∀ a, (op :: sinceSet ops).count a = (sinceSet ops).count a + [op].count a := fun a => by
    rw [← List.singleton_append, List.count_append, Nat.add_comm]
  rw [balance, balance, hlast, hsince, hcount, hcount]
  omega

/-- Operations at a cell that was zero leave in it their balance modulo 256. -/
theorem toNat_foldl_act (ops : List Operation) : ((ops.foldl Operation.act 0).toNat : Int) = balance ops % 256 := by
  induction ops using List.reverseRecOn with
  | nil => rfl
  | append_singleton ops op ih =>
    rw [List.foldl_append, List.foldl_cons, List.foldl_nil]
    generalize ops.foldl Operation.act 0 = x at ih
    cases op with
    | increment =>
      rw [balance_concat rfl, Operation.act, UInt8.toNat_add]
      simp
      omega
    | decrement =>
      rw [balance_concat rfl, Operation.act, UInt8.toNat_sub]
      simp
      omega
    | set v =>
      have := v.toNat_lt
      rw [balance_concat_set, Operation.act]
      omega
    | get =>
      rw [balance_concat rfl, Operation.act]
      simpa using ih
    | move d =>
      rw [balance_concat rfl, Operation.act]
      simpa using ih

end

/-! ### One operation -/

section

variable {t t' : Tape} {op : Operation} {ops : List Operation} {n : Int} {i : Nat} {f : Fault}

/-- The pointer is where moves that add up to `n` lead to. -/
def At (t : Tape) (n : Int) : Prop := (t.pointer : Int) = n % t.length

theorem At.pointer_lt (h : t.At n) : t.pointer < t.length := by
  have hpos := t.length_pos
  have hlt := Int.emod_lt_of_pos n (b := t.length) (by omega)
  unfold At at h
  omega

theorem At.pointer_eq_iff (h : t.At n) : i = t.pointer ↔ n % t.length = i := by
  rw [← h, Int.natCast_inj]
  exact eq_comm

/-- An operation keeps the length, turns the pointer by its distance, and changes no cell but that under the pointer. -/
theorem perform_eq_ok (h : t.At n) (hperform : t.perform op = .ok t') :
    t'.length = t.length ∧ t'.At (n + op.delta) ∧
      ∀ i, t'.cell i = if i = t.pointer then op.act (t.cell i) else t.cell i := by
  have hkeep : t.At (n + 0) := by rwa [Int.add_zero]
  cases op with
  | increment =>
    cases hperform
    refine ⟨rfl, hkeep, fun i => cell_set.trans ?_⟩
    split
    · next hi =>
      subst hi
      rfl
    · rfl
  | decrement =>
    cases hperform
    refine ⟨rfl, hkeep, fun i => cell_set.trans ?_⟩
    split
    · next hi =>
      subst hi
      rfl
    · rfl
  | set v =>
    cases hperform
    exact ⟨rfl, hkeep, fun i => cell_set⟩
  | get =>
    cases hperform
    exact ⟨rfl, hkeep, fun i => (ite_self _).symm⟩
  | move d =>
    obtain ⟨-, rfl⟩ := move_eq_ok_iff.1 hperform
    have hturn : (t.turn d.toInt).At (n + d.toInt) := by
      rw [At, pointer_turn, h, Int.emod_add_emod, length_turn]
    exact ⟨rfl, hturn, fun i => (ite_self _).symm⟩

/-- Of all operations a move alone can fault. -/
theorem perform_eq_error_iff :
    t.perform op = .error f ↔ f = .overflow ∧ ∃ d, op = .move d ∧ 2 ^ 63 ≤ t.pointer + d.toInt := by
  cases op with
  | move d =>
    rw [perform, move_eq_error_iff]
    simp
  | _ => simp [perform]

/-! ### Sequences -/

theorem performAll_cons (t : Tape) (op : Operation) (ops : List Operation) :
    t.performAll (op :: ops) = (t.perform op).bind (·.performAll ops) := rfl

/-- The pointer is the sum of the moves modulo the length, and what happens at other cells has no effect on a cell. -/
theorem performAll_eq_ok (h : t.At n) (hperform : t.performAll ops = .ok t') :
    t'.length = t.length ∧ t'.At (n + total ops) ∧
      ∀ i, t'.cell i = (operationsAt t.length i n ops).foldl Operation.act (t.cell i) := by
  induction ops generalizing t n with
  | nil =>
    cases hperform
    exact ⟨rfl, by rwa [total, List.map_nil, List.sum_nil, Int.add_zero], fun i => rfl⟩
  | cons op ops ih =>
    rw [performAll_cons] at hperform
    cases hfirst : t.perform op with
    | error f =>
      rw [hfirst] at hperform
      cases hperform
    | ok u =>
      rw [hfirst] at hperform
      obtain ⟨hlength, hat, hcell⟩ := perform_eq_ok h hfirst
      obtain ⟨hlength', hat', hcell'⟩ := ih hat hperform
      refine ⟨hlength'.trans hlength, ?_, fun i => ?_⟩
      · rwa [total, List.map_cons, List.sum_cons, ← Int.add_assoc]
      · rw [hcell', hlength, hcell, operationsAt, List.foldl_append]
        by_cases hi : i = t.pointer
        · rw [if_pos hi, if_pos (h.pointer_eq_iff.1 hi)]
          rfl
        · rw [if_neg hi, if_neg fun hn => hi (h.pointer_eq_iff.2 hn)]
          rfl

theorem overruns_cons {length : Nat} :
    Overruns length n (op :: ops) ↔
      (∃ d, op = .move d ∧ 2 ^ 63 ≤ n % length + d.toInt) ∨ Overruns length (n + op.delta) ops := by
  constructor
  · rintro ⟨_ | ⟨first, before⟩, d, after, hops, hsum⟩
    · rw [total, List.map_nil, List.sum_nil, Int.add_zero] at hsum
      exact .inl ⟨d, (List.cons.inj hops).1, hsum⟩
    · obtain ⟨rfl, rfl⟩ := List.cons.inj hops
      rw [total, List.map_cons, List.sum_cons, ← Int.add_assoc] at hsum
      exact .inr ⟨before, d, after, rfl, hsum⟩
  · rintro (⟨d, rfl, hsum⟩ | ⟨before, d, after, rfl, hsum⟩)
    · exact ⟨[], d, ops, rfl, by rwa [total, List.map_nil, List.sum_nil, Int.add_zero]⟩
    · exact ⟨op :: before, d, after, rfl, by rwa [total, List.map_cons, List.sum_cons, ← Int.add_assoc]⟩

/-- A sequence faults at the first of its moves that leaves the signed range, if there is one. -/
theorem performAll_eq_error_iff (h : t.At n) :
    t.performAll ops = .error f ↔ f = .overflow ∧ Overruns t.length n ops := by
  induction ops generalizing t n with
  | nil =>
    refine iff_of_false (by simp [performAll, pure, Except.pure]) ?_
    rintro ⟨-, before, d, after, hops, -⟩
    simp at hops
  | cons op ops ih =>
    rw [performAll_cons, overruns_cons, ← h]
    cases hfirst : t.perform op with
    | error g =>
      obtain ⟨rfl, hmove⟩ := perform_eq_error_iff.1 hfirst
      simp only [Except.bind, Except.error.injEq, hmove, true_or, and_true, eq_comm]
    | ok u =>
      obtain ⟨hlength, hat, -⟩ := perform_eq_ok h hfirst
      have hno : ¬ ∃ d, op = .move d ∧ 2 ^ 63 ≤ (t.pointer : Int) + d.toInt := fun hmove => by
        have := perform_eq_error_iff.2 ⟨rfl, hmove⟩
        rw [hfirst] at this
        cases this
      simp only [hno, false_or, ← hlength]
      exact ih hat

/-- Moves that go forward by no more than what the length leaves of the signed range never leave it. -/
theorem not_overruns {length : Nat} (hpos : 0 < length) (hshort : ∀ op ∈ ops, op.delta ≤ 2 ^ 63 - length) :
    ¬ Overruns length n ops := by
  rintro ⟨before, d, after, rfl, hsum⟩
  have hd : d.toInt ≤ 2 ^ 63 - length := hshort (.move d) (by simp)
  have hlt := Int.emod_lt_of_pos (n + total before) (b := length) (by omega)
  omega

/-- What a sequence of operations makes of a zeroed tape of less than `2 ^ 63` cells, which there always is. The
sequence faults exactly if it has a move whose sum with the pointer leaves the signed range, and it has none if no move
goes far forward. If it does not fault, then the length has stayed, the pointer is the sum of the moves modulo the
length, and so on the tape, each cell holds the balance of the operations at it, and the next operation has no effect on
other cells than that under the pointer. The length is a divisor with which every remainder exists. -/
theorem performAll_modular {size : UInt64} (hsize : size.toNat < 2 ^ 63) (ops : List Operation) :
    ∃ start, blank size = .ok start ∧
      (∀ t, start.performAll ops = .ok t →
        t.length = max size.toNat 1 ∧ t.pointer < t.length ∧ (t.pointer : Int) = total ops % t.length ∧
        (∀ i, ((t.cell i).toNat : Int) = balance (operationsAt t.length i 0 ops) % 256) ∧
        (∀ op t', t.perform op = .ok t' → ∀ i, i ≠ t.pointer → t'.cell i = t.cell i) ∧
        ∀ n, residue64? n (signed64 t.length) = some (n % t.length)) ∧
      (∀ f, start.performAll ops = .error f ↔ f = .overflow ∧ Overruns (max size.toNat 1) 0 ops) ∧
      ((∀ op ∈ ops, op.delta ≤ 2 ^ 63 - (max size.toNat 1 : Nat)) → ∃ t, start.performAll ops = .ok t) := by
  obtain ⟨start, hblank⟩ := exists_blank hsize
  obtain ⟨hlength, hpointer, hzero⟩ := of_blank hblank
  have hstart : start.At 0 := by rw [At, hpointer]; rfl
  have hfault (f : Fault) : start.performAll ops = .error f ↔ f = .overflow ∧ Overruns (max size.toNat 1) 0 ops := by
    rw [performAll_eq_error_iff hstart, hlength]
  refine ⟨start, hblank, fun t ht => ?_, hfault, fun hshort => ?_⟩
  · obtain ⟨hkept, hat, hcell⟩ := performAll_eq_ok hstart ht
    rw [Int.zero_add] at hat
    refine ⟨hkept.trans hlength, hat.pointer_lt, hat, fun i => ?_, fun op t' hop i hi => ?_, fun n => ?_⟩
    · rw [hcell, hzero, hkept]
      exact toNat_foldl_act _
    · rw [(perform_eq_ok hat hop).2.2, if_neg hi]
    · have hpos := t.length_pos
      have hbound := t.length_lt_two_pow
      rw [signed64_of_lt (by omega) (by omega)]
      exact if_neg (by omega)
  · cases hall : start.performAll ops with
    | ok t => exact ⟨t, rfl⟩
    | error f => exact absurd ((hfault f).1 hall).2 (not_overruns (by omega) hshort)

end

/-- Around both ends of three cells and of the values of a cell. -/
theorem performAll_modular_around :
    let ops : List Operation := [.set 255, .increment, .move (-1), .decrement, .move 2]
    ∃ start t, blank 3 = .ok start ∧ start.performAll ops = .ok t ∧ t.length = 3 ∧ t.pointer = 1 ∧
      (t.cell 0).toNat = 0 ∧ (t.cell 2).toNat = 255 := by
  intro ops
  obtain ⟨start, hblank, hok, -, hshort⟩ := performAll_modular (show (3 : UInt64).toNat < 2 ^ 63 by decide) ops
  obtain ⟨t, ht⟩ := hshort (by decide)
  obtain ⟨hlength, -, hpointer, hcells, -⟩ := hok t ht
  have hlength : t.length = 3 := hlength
  have hsum : total ops % (3 : Nat) = 1 := by decide
  have hfirst : balance (operationsAt 3 0 0 ops) % 256 = 0 := by decide
  have hlast : balance (operationsAt 3 2 0 ops) % 256 = 255 := by decide
  rw [hlength] at hpointer hcells
  refine ⟨start, t, hblank, ht, hlength, ?_, ?_, ?_⟩
  · exact Int.ofNat.inj (hpointer.trans hsum)
  · exact Int.ofNat.inj ((hcells 0).trans hfirst)
  · exact Int.ofNat.inj ((hcells 2).trans hlast)

/-- On three cells the longest move forward from the second cell is a fault, where the sum of the moves leads to the
third. -/
theorem performAll_of_long_move :
    ∃ start, blank 3 = .ok start ∧ start.performAll [.move 1, .move .maxValue] = .error .overflow ∧
      total [.move 1, .move .maxValue] % 3 = 2 := by
  obtain ⟨start, hblank⟩ := exists_blank (show (3 : UInt64).toNat < 2 ^ 63 by decide)
  obtain ⟨hlength, hpointer, -⟩ := of_blank hblank
  have hstart : start.At 0 := by rw [At, hpointer]; rfl
  have hoverruns : Overruns start.length 0 [.move 1, .move .maxValue] := by
    refine ⟨[.move 1], .maxValue, [], rfl, ?_⟩
    rw [hlength]
    decide
  exact ⟨start, hblank, (performAll_eq_error_iff hstart).2 ⟨rfl, hoverruns⟩, by decide⟩

end TapeLang.Tape
