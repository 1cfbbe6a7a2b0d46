import TapeLang.Proofs.Reading.Targets
import TapeLang.Proofs.Ring
import TapeLang.Settings

/-!
# Where 64 bits do not suffice

The forward distance of a move is its residue modulo `modulus`, which is the length of the tape up to `2 ^ 63` cells,
and beyond that what the length leaves of `2 ^ 64`. So on longer tapes the distance is right for short forward moves
alone (`emod_modulus_eq_iff`). `residue64?` tells where the remainder has a result at all.
-/

namespace TapeLang

/-! ### Checked arithmetic -/

/-- The Euclidean remainder of two signed 64-bit numbers, unless the division fails or its quotient is none. -/
def residue64? (a b : Int) : Option Int :=
  if b = 0 ∨ a = -2 ^ 63 ∧ b = -1 then none else some (a % b)

/-- `pointerStep`, if its remainder exists. -/
def pointerStep? (delta : Int) (size : Nat) : Option Nat :=
  (residue64? delta (signed64 (tapeLength size))).map Int.toNat

/-! ### The forward distance -/

section

variable {size : Nat}

/-- The remainder exists but for the least number on the longest tape. -/
theorem pointerStep?_eq (delta : Int) (hlow : 1 ≤ size) (hhigh : size < 2 ^ 64) :
    pointerStep? delta size =
      if delta = -2 ^ 63 ∧ size = 2 ^ 64 - 1 then none else some (pointerStep delta size) := by
  have hdivisor := signed64_tapeLength hlow hhigh
  have hpos := modulus_pos hlow hhigh
  have hzero : signed64 (tapeLength size) ≠ 0 := by
    rw [hdivisor]
    split <;> omega
  have hone : signed64 (tapeLength size) = -1 ↔ size = 2 ^ 64 - 1 := by
    rw [hdivisor]
    unfold modulus
    split <;> omega
  unfold pointerStep? residue64?
  simp only [hzero, hone, false_or]
  split <;> rfl

/-- The moves whose forward distance is right: all of them on a tape of at most `2 ^ 63` cells, else the short ones
that go forward. -/
def StepExact (size : Nat) (delta : Int) : Prop :=
  size ≤ 2 ^ 63 ∨ 0 ≤ delta ∧ delta < 2 ^ 64 - size

/-- A backward move has different residues modulo two numbers that make up `2 ^ 64`, unless they are equal. -/
theorem emod_ne_add {delta m n : Int} (hsum : m + n = 2 ^ 64) (hpos : 0 < m) (hless : m < n)
    (hlow : -2 ^ 63 ≤ delta) : delta % m ≠ delta + n := by
  intro h
  have hresidue := Int.emod_lt_of_pos delta hpos
  obtain ⟨k, hk⟩ : m ∣ n := by
    have hdvd : m ∣ delta - (delta + n) := Int.dvd_self_sub_of_emod_eq h
    have hdifference : delta - (delta + n) = -n := by omega
    rwa [hdifference, Int.dvd_neg] at hdvd
  -- `n` is not twice `m` either, as three does not divide `2 ^ 64`
  have hk3 : 3 ≤ k := by
    by_contra hk2
    have hcases : k ≤ 0 ∨ k = 1 ∨ k = 2 := by omega
    rcases hcases with hneg | rfl | rfl
    · have hproduct : m * k ≤ 0 := Int.mul_nonpos_of_nonneg_of_nonpos (by omega) hneg
      omega
    · omega
    · omega
  have hproduct : m * 3 ≤ m * k := Int.mul_le_mul_of_nonneg_left hk3 (by omega)
  omega

/-- Residues modulo `modulus` are residues modulo the length for these moves only. -/
theorem emod_modulus_eq_iff {delta : Int} (hlow : -2 ^ 63 ≤ delta) (hhigh : delta < 2 ^ 63) (hsize : size < 2 ^ 64) :
    delta % modulus size = delta % size ↔ StepExact size delta := by
  unfold StepExact
  by_cases hshort : size ≤ 2 ^ 63
  · have hmodulus : modulus size = size := by
      unfold modulus
      split <;> omega
    rw [hmodulus]
    exact iff_of_true rfl (.inl hshort)
  have hsum : (modulus size : Int) + size = 2 ^ 64 := by
    unfold modulus
    split <;> omega
  have hresidue := Int.emod_lt_of_pos delta (b := modulus size) (by omega)
  by_cases hforward : 0 ≤ delta
  · have hself : delta % size = delta := Int.emod_eq_of_lt hforward (by omega)
    rw [hself]
    constructor
    · intro h
      omega
    · intro h
      exact Int.emod_eq_of_lt hforward (by omega)
  · have hback : delta % size = delta + size := by
      rw [← Int.add_emod_right, Int.emod_eq_of_lt (by omega) (by omega)]
    rw [hback]
    exact iff_of_false (emod_ne_add hsum (by omega) (by omega) hlow) (by omega)

end

/-! ### Printed moves -/

section

open Reading (dialect legend)

theorem one_le_tapeSize_of_check {s : Settings} (h : s.check = .ok ()) : 1 ≤ s.tapeSize := by
  by_contra hzero
  have hcells : s.tapeSize = 0 := by omega
  simp [Settings.check, hcells] at h

/-- A move under accepted settings is printed with its forward distance, but for the least number on the longest tape,
where there is none. The distance is less than the length. It is congruent to the move, and so the printed line takes
every pointer where the move does, exactly if the move is a `StepExact` one. -/
theorem printed_step_exact {s : Settings} (delta : Int64) (hs : s.check = .ok ()) (hsize : s.tapeSize < 2 ^ 64) :
    (pointerStep? delta.toInt s.tapeSize = none ↔ delta.toInt = -2 ^ 63 ∧ s.tapeSize = 2 ^ 64 - 1) ∧
    ∀ step, pointerStep? delta.toInt s.tapeSize = some step →
      (∀ t, (dialect t).statement s.options.tapeSize (.move delta) =
        [⟨0, (legend t).front ++ toString step ++ (legend t).back⟩]) ∧
      step < s.tapeSize ∧
      ((step : Int) % s.tapeSize = delta.toInt % s.tapeSize ↔ StepExact s.tapeSize delta.toInt) ∧
      ∀ ptr < s.tapeSize, (((ptr + step) % s.tapeSize : Nat) : Int) = (ptr + delta.toInt) % s.tapeSize ↔
        StepExact s.tapeSize delta.toInt := by
  have hpos := one_le_tapeSize_of_check hs
  have hdefined := pointerStep?_eq delta.toInt hpos hsize
  refine ⟨by rw [hdefined]; simp, fun step hstep => ?_⟩
  obtain rfl : pointerStep delta.toInt s.tapeSize = step := by
    rw [hdefined] at hstep
    split at hstep
    · cases hstep
    · exact Option.some.inj hstep
  have hlt := pointerStep_lt delta.toInt hpos hsize
  have hcongr : (pointerStep delta.toInt s.tapeSize : Int) % s.tapeSize = delta.toInt % s.tapeSize ↔
      StepExact s.tapeSize delta.toInt := by
    rw [← emod_modulus_eq_iff delta.le_toInt delta.toInt_lt hsize, ← pointerStep_eq_emod delta.toInt hpos hsize,
      Int.emod_eq_of_lt (by omega) (by omega)]
  refine ⟨fun t => ?_, hlt, hcongr, fun ptr _ => ?_⟩
  · cases t <;> rfl
  · rw [← hcongr, Int.natCast_emod, Int.natCast_add, Int.emod_add_cancel_left]

/-- The longest tape on which every move is printed right, where a step back is the longest step forward. -/
theorem printed_step_exact_back :
    Settings.check ⟨.java, "BF", 2 ^ 63, "bf", true, true⟩ = .ok () ∧
    pointerStep? (-1) (2 ^ 63) = some (2 ^ 63 - 1) ∧
    ∀ ptr < 2 ^ 63, (((ptr + (2 ^ 63 - 1)) % 2 ^ 63 : Nat) : Int) = (ptr + -1) % (2 ^ 63 : Nat) := by
  have hcheck : Settings.check ⟨.java, "BF", 2 ^ 63, "bf", true, true⟩ = .ok () := by decide
  have hstep : pointerStep? (-1) (2 ^ 63) = some (2 ^ 63 - 1) := by decide
  obtain ⟨-, hprinted⟩ := printed_step_exact (-1) hcheck (by decide)
  obtain ⟨-, -, -, hmoves⟩ := hprinted _ hstep
  exact ⟨hcheck, hstep, fun ptr hptr => (hmoves ptr hptr).2 (.inl (Nat.le_refl _))⟩

/-- On the longest tape a step to the right is printed as none, and the least number has no forward distance. -/
theorem printed_step_of_longest_tape :
    Settings.check ⟨.python, "BF", 2 ^ 64 - 1, "bf", true, true⟩ = .ok () ∧
    pointerStep? 1 (2 ^ 64 - 1) = some 0 ∧
    (0 : Int) % (2 ^ 64 - 1 : Nat) ≠ 1 % (2 ^ 64 - 1 : Nat) ∧
    pointerStep? (-2 ^ 63) (2 ^ 64 - 1) = none := by
  decide

end

end TapeLang
