import Mathlib.Algebra.Ring.Int.Defs
import Mathlib.Algebra.Ring.Nat
import TapeLang.Tape

/-!
# Cells and the pointer of a tape

The forward distance takes the length of the tape for a signed 64-bit number, which from `2 ^ 63` cells on is negative
(`signed64_tapeLength`, `pointerStep_eq_emod`); such a tape cannot be made (`blank_eq_error_iff`). Writing changes the
cell under the pointer only (`cell_set`). A move turns the pointer to the sum modulo the length, unless the sum leaves
the signed range (`move_eq`). It never does for a move by one cell (`move_unit`), which leads where the forward distance
`pointerStep` leads (`pointer_turn_eq_step`).
-/

namespace TapeLang

theorem signed64_of_lt {n : Int} (hlow : -2 ^ 63 ≤ n) (hhigh : n < 2 ^ 63) : signed64 n = n := by
  apply Int.bmod_eq_of_le
  · simpa [Number.bound] using hlow
  · simpa [Number.bound] using hhigh

theorem signed64_of_ge {n : Int} (hlow : 2 ^ 63 ≤ n) (hhigh : n < 2 ^ 64 + 2 ^ 63) : signed64 n = n - 2 ^ 64 := by
  have hwrap : signed64 (n - 2 ^ 64) = signed64 n := Int.sub_bmod_right n (Number.bound 64)
  rw [← hwrap, signed64_of_lt (by omega) (by omega)]

theorem signed64_bounds (n : Int) : -2 ^ 63 ≤ signed64 n ∧ signed64 n < 2 ^ 63 := by
  have hbound : Number.bound 64 = 2 ^ 64 := rfl
  have hlow := Int.le_bmod (x := n) (m := 2 ^ 64) (by decide)
  have hhigh := Int.bmod_lt (x := n) (m := 2 ^ 64) (by decide)
  rw [signed64, hbound]
  omega

/-! ### The forward distance -/

section

variable {size : Nat}

/-- What the forward distance of a move is a residue of. -/
def modulus (size : Nat) : Nat := if size < 2 ^ 63 then size else 2 ^ 64 - size

theorem signed64_tapeLength (hlow : 1 ≤ size) (hhigh : size < 2 ^ 64) :
    signed64 (tapeLength size) = if size < 2 ^ 63 then (modulus size : Int) else -(modulus size : Int) := by
  have hlen : tapeLength size = size := Nat.max_eq_left hlow
  rw [hlen]
  unfold modulus
  by_cases h : size < 2 ^ 63
  · simp only [if_pos h]
    exact signed64_of_lt (by omega) (by omega)
  · simp only [if_neg h]
    rw [signed64_of_ge (by omega) (by omega)]
    omega

theorem modulus_pos (hlow : 1 ≤ size) (hhigh : size < 2 ^ 64) : 1 ≤ modulus size := by
  unfold modulus
  split <;> omega

theorem modulus_le (size : Nat) : modulus size ≤ size := by
  unfold modulus
  split <;> omega

/-- The forward distance is the residue modulo `modulus`. -/
theorem pointerStep_eq_emod (delta : Int) (hlow : 1 ≤ size) (hhigh : size < 2 ^ 64) :
    (pointerStep delta size : Int) = delta % modulus size := by
  have hpos := modulus_pos hlow hhigh
  have hemod : delta.emod (signed64 (tapeLength size)) = delta % modulus size := by
    rw [signed64_tapeLength hlow hhigh]
    by_cases h : size < 2 ^ 63
    · rw [if_pos h]
      rfl
    · rw [if_neg h]
      exact Int.emod_neg ..
  rw [pointerStep, hemod, Int.toNat_of_nonneg (Int.emod_nonneg _ (by omega))]

theorem pointerStep_lt (delta : Int) (hlow : 1 ≤ size) (hhigh : size < 2 ^ 64) :
    pointerStep delta size < size := by
  have hpos := modulus_pos hlow hhigh
  have hle := modulus_le size
  have hstep := pointerStep_eq_emod delta hlow hhigh
  have hlt := Int.emod_lt_of_pos delta (b := modulus size) (by omega)
  omega

/-- A forward distance is again a signed 64-bit number. -/
theorem pointerStep_lt_bound (delta : Int64) (size : Nat) : pointerStep delta.toInt size < 2 ^ 63 := by
  have hdivisor := signed64_bounds (tapeLength size)
  have hdelta := delta.toInt_lt
  show (delta.toInt % signed64 (tapeLength size)).toNat < 2 ^ 63
  by_cases hzero : signed64 (tapeLength size) = 0
  · rw [hzero, Int.emod_zero]
    omega
  · have := Int.emod_lt delta.toInt hzero
    omega

theorem pointerStep_eq (delta : Int) (hlow : 1 ≤ size) (hhigh : size < 2 ^ 63) :
    (pointerStep delta size : Int) = delta % size := by
  have hmodulus : modulus size = size := if_pos hhigh
  rw [pointerStep_eq_emod delta hlow (by omega), hmodulus]

end

/-! ### Tapes -/

theorem addSigned_eq {a b : Int} (hlow : -2 ^ 63 ≤ a + b) :
    addSigned a b = if a + b < 2 ^ 63 then .ok (a + b) else .error .overflow := by
  have hbound : ((Number.bound 63 : Nat) : Int) = 2 ^ 63 := rfl
  simp only [addSigned, hbound, hlow, true_and]

theorem toInt_of_unit {d : Int64} (h : d = 1 ∨ d = -1) : d.toInt = 1 ∨ d.toInt = -1 := by
  rcases h with rfl | rfl
  · exact .inl rfl
  · exact .inr rfl

namespace Tape

variable {t t' : Tape} {v : UInt8} {i : Nat} {size : UInt64} {delta : Int64} {n : Int} {f : Fault}

/-- A new tape has zeros only, and its pointer on the first of them. -/
theorem of_blank (h : blank size = .ok t) :
    t.length = max size.toNat 1 ∧ t.pointer = 0 ∧ ∀ i, t.cell i = 0 := by
  unfold blank at h
  split at h
  · cases h
    exact ⟨rfl, rfl, fun i => by simp [cell]⟩
  · cases h

theorem length_lt_two_pow (t : Tape) : t.length < 2 ^ 63 := t.length_lt

private theorem fits_iff : tapeLength size.toNat < Number.bound 63 ↔ size.toNat < 2 ^ 63 := by
  show max size.toNat 1 < 2 ^ 63 ↔ size.toNat < 2 ^ 63
  omega

theorem exists_blank (h : size.toNat < 2 ^ 63) : ∃ t, blank size = .ok t :=
  ⟨_, dif_pos (fits_iff.2 h)⟩

/-- From `2 ^ 63` cells on there is no tape. -/
theorem blank_eq_error_iff : blank size = .error f ↔ f = .capacity ∧ 2 ^ 63 ≤ size.toNat := by
  unfold blank
  split
  · next hfits =>
    have hsize := fits_iff.1 hfits
    simp
    omega
  · next hlong =>
    have hsize := mt fits_iff.2 hlong
    simp [eq_comm (a := f)]
    omega

@[simp] theorem pointer_set : (t.set v).pointer = t.pointer := rfl

@[simp] theorem length_set : (t.set v).length = t.length := rfl

@[simp] theorem cell_set : (t.set v).cell i = if i = t.pointer then v else t.cell i := by
  simp only [cell, set, Std.HashMap.getD_insert, beq_iff_eq, eq_comm (a := i)]

@[simp] theorem get_set : (t.set v).get = v := by
  simp [get]

/-- The tape with its pointer turned by `n` around the ring. -/
def turn (t : Tape) (n : Int) : Tape := { t with pointer := ((t.pointer + n) % t.length).toNat }

@[simp] theorem length_turn : (t.turn n).length = t.length := rfl

@[simp] theorem cell_turn : (t.turn n).cell i = t.cell i := rfl

theorem pointer_turn (t : Tape) (n : Int) : ((t.turn n).pointer : Int) = (t.pointer + n) % t.length := by
  have hpos := t.length_pos
  exact Int.toNat_of_nonneg (Int.emod_nonneg _ (by omega))

theorem pointer_turn_lt (t : Tape) (n : Int) : (t.turn n).pointer < (t.turn n).length := by
  have hpos := t.length_pos
  have hturn := t.pointer_turn n
  have hlt := Int.emod_lt_of_pos (t.pointer + n) (b := t.length) (by omega)
  rw [length_turn]
  omega

/-- A move turns the pointer, unless the sum leaves the signed range. -/
theorem move_eq (t : Tape) (delta : Int64) :
    t.move delta = if t.pointer + delta.toInt < 2 ^ 63 then .ok (t.turn delta.toInt) else .error .overflow := by
  have hlow := delta.le_toInt
  rw [move, addSigned_eq (by omega)]
  split
  · rfl
  · rfl

theorem move_eq_ok_iff : t.move delta = .ok t' ↔ t.pointer + delta.toInt < 2 ^ 63 ∧ t' = t.turn delta.toInt := by
  rw [move_eq]
  split
  · next h => simp only [Except.ok.injEq, h, true_and, eq_comm]
  · next h => simp only [reduceCtorEq, h, false_and]

theorem move_eq_error_iff : t.move delta = .error f ↔ f = .overflow ∧ 2 ^ 63 ≤ t.pointer + delta.toInt := by
  rw [move_eq]
  split
  · next h =>
    simp
    omega
  · next h =>
    simp [eq_comm (a := f)]
    omega

/-- A move by no more than the length leaves of the signed range is made. -/
theorem move_of_le (h : t.pointer < t.length) (hdelta : delta.toInt ≤ 2 ^ 63 - t.length) :
    t.move delta = .ok (t.turn delta.toInt) :=
  move_eq_ok_iff.2 ⟨by omega, rfl⟩

/-- A move by one cell is always made. -/
theorem move_unit (h : t.pointer < t.length) (hdelta : delta = 1 ∨ delta = -1) :
    t.move delta = .ok (t.turn delta.toInt) := by
  have hlen := t.length_lt_two_pow
  have hunit := toInt_of_unit hdelta
  exact move_of_le h (by omega)

/-- A turn leads where the forward distance does. -/
theorem pointer_turn_eq_step (t : Tape) (n : Int) :
    (t.turn n).pointer = (t.pointer + pointerStep n t.length) % t.length := by
  have hstep : (pointerStep n t.length : Int) = n % t.length := pointerStep_eq n t.length_pos t.length_lt_two_pow
  have hturn := t.pointer_turn n
  have : ((t.pointer + pointerStep n t.length : Nat) : Int) % t.length = (t.pointer + n) % t.length := by
    rw [Int.natCast_add, hstep, Int.add_emod_emod]
  omega

end Tape

end TapeLang
