import TapeLang.Proofs.Overflow
import TapeLang.Proofs.SourceNames
import TapeLang.Proofs.Reading.Steps

/-!
# Where 32 bits do not suffice

The pointer of C# and of Java code is a signed 32-bit number, and the check of the settings does not bound the tape. A
step to the left is printed as one to the right by one cell less than the tape has, so the sum that the remainder is
taken of comes close to twice the length. Code with such a step needs a tape of at most `2 ^ 30` cells, other code one
whose length is a 32-bit number (`fitsInt_iff`). On a longer tape there is a cell from which the step to the left leads
to a negative index (`index32_neg`).
-/

namespace TapeLang

/-! ### Signed 32-bit numbers -/

/-- The greatest signed 32-bit number. -/
def maxInt : Nat := 2 ^ 31 - 1

/-- The signed 32-bit number with the bits of `n`. -/
def signed32 (n : Int) : Int := n.bmod (2 ^ 32)

/-- Where a step from the cell `ptr` leads in 32-bit code: the sum wraps around, and the remainder has its sign. -/
def index32 (size ptr step : Nat) : Int := (signed32 (ptr + step)).tmod size

theorem signed32_of_le {n : Nat} (h : n ≤ maxInt) : signed32 n = n := by
  unfold maxInt at h
  apply Int.bmod_eq_of_le <;> omega

section

variable {size ptr step : Nat}

/-- Without an overflow the index is exact. -/
theorem index32_eq (h : ptr + step ≤ maxInt) : index32 size ptr step = ((ptr + step) % size : Nat) := by
  have hsum : signed32 (ptr + step) = (ptr + step : Nat) := signed32_of_le h
  rw [index32, hsum, Int.tmod_eq_emod_of_nonneg (Int.natCast_nonneg _), Int.natCast_emod]

/-- The least sum that overflows becomes the least number, which no length above `2 ^ 30` divides. -/
theorem index32_neg (hlow : 2 ^ 30 < size) (hhigh : size ≤ maxInt) (hsum : ptr + step = 2 ^ 31) :
    index32 size ptr step < 0 := by
  unfold maxInt at hhigh
  have hwrap : signed32 ((ptr : Int) + step) = -(2 ^ 31 : Nat) := by
    have hcast : (ptr : Int) + step = 2 ^ 31 := by omega
    rw [hcast]
    decide
  have hremainder : 2 ^ 31 % size = 2 ^ 31 - size := by
    rw [Nat.mod_eq_sub_mod (by omega), Nat.mod_eq_of_lt (by omega)]
  rw [index32, hwrap, Int.neg_tmod, Int.tmod_eq_emod_of_nonneg (Int.natCast_nonneg _), ← Int.natCast_emod, hremainder]
  omega

/-! ### The steps of one cell -/

variable (hlow : 1 ≤ size) (hhigh : size < 2 ^ 64)
include hlow hhigh

theorem pointerStep_left : pointerStep (-1) size = modulus size - 1 := by
  have hpos := modulus_pos hlow hhigh
  have hstep := pointerStep_eq_emod (-1) hlow hhigh
  have hresidue : (-1 : Int) % modulus size = modulus size - 1 := by
    rw [← Int.add_emod_right, Int.emod_eq_of_lt (by omega) (by omega)]
    omega
  omega

theorem pointerStep_right_le : pointerStep 1 size ≤ 1 := by
  have hpos := modulus_pos hlow hhigh
  have hstep := pointerStep_eq_emod 1 hlow hhigh
  have hle : (1 : Int) % modulus size ≤ 1 := mod_cast Nat.mod_le 1 (modulus size)
  omega

/-- From the last cell a step to the left adds up to two cells less than twice the length. -/
theorem left_le_maxInt_iff : (∀ ptr < size, ptr + pointerStep (-1) size ≤ maxInt) ↔ size ≤ 2 ^ 30 := by
  rw [pointerStep_left hlow hhigh]
  have hpos := modulus_pos hlow hhigh
  unfold maxInt
  constructor
  · intro h
    have hlast := h (size - 1) (by omega)
    unfold modulus at hlast
    split at hlast <;> omega
  · intro h ptr hptr
    have hle := modulus_le size
    omega

end

namespace Code

open Reading (Prints prints_iff functionLines)

/-! ### Functions -/

section

variable {t : Target} {o : Options} {f : Function} {s : Source}

/-- The length of the tape is a 32-bit number, and so is every sum of a pointer and a step of the function. -/
def FitsInt (t : Target) (o : Options) (f : Function) : Prop :=
  o.tapeSize ≤ maxInt ∧ ∀ step, Prints t o f step → ∀ ptr < o.tapeSize, ptr + step ≤ maxInt

/-- No step of the function leads off the tape in 32-bit code. -/
def StaysOnTape (t : Target) (o : Options) (f : Function) : Prop :=
  ∀ step, Prints t o f step → ∀ ptr < o.tapeSize,
    0 ≤ index32 o.tapeSize ptr step ∧ index32 o.tapeSize ptr step < o.tapeSize

variable (hs : compile s = .ok f) (hlow : 1 ≤ o.tapeSize) (hhigh : o.tapeSize < 2 ^ 64)
include hs hlow hhigh

/-- Only steps to the left ask for more than a length that fits. -/
theorem fitsInt_iff :
    FitsInt t o f ↔ o.tapeSize ≤ maxInt ∧ (.move (-1) ∈ f.body → o.tapeSize ≤ 2 ^ 30) := by
  have hbody := flattenAll_nest_body hs
  refine and_congr_right fun hfits => ⟨fun h hleft => ?_, fun h step hstep ptr hptr => ?_⟩
  · exact (left_le_maxInt_iff hlow hhigh).1 (h _ ((prints_iff hbody).2 ⟨-1, hleft, rfl⟩))
  · obtain ⟨d, hmove, rfl⟩ := (prints_iff hbody).1 hstep
    rw [(body_of_compile hs).1] at hmove
    rcases unit_of_mem_emit hmove with rfl | rfl
    · have hright : pointerStep (Int64.toInt 1) o.tapeSize ≤ 1 := pointerStep_right_le hlow hhigh
      omega
    · rw [(body_of_compile hs).1] at h
      exact (left_le_maxInt_iff hlow hhigh).2 (h hmove) ptr hptr

/-- If the length fits, then an overflow anywhere leads off the tape somewhere. -/
theorem staysOnTape_iff (hfits : o.tapeSize ≤ maxInt) : StaysOnTape t o f ↔ FitsInt t o f := by
  constructor
  · intro h
    rw [fitsInt_iff hs hlow hhigh]
    refine ⟨hfits, fun hleft => ?_⟩
    by_contra hlong
    have hmax : maxInt = 2 ^ 31 - 1 := rfl
    have hstep : pointerStep (-1) o.tapeSize = o.tapeSize - 1 := by
      rw [pointerStep_left hlow hhigh, modulus, if_pos (by omega)]
    have hprints := (prints_iff (t := t) (flattenAll_nest_body hs)).2 ⟨-1, hleft, hstep⟩
    -- the first cell from which the step to the left overflows
    obtain ⟨hindex, -⟩ := h _ hprints (2 ^ 31 + 1 - o.tapeSize) (by omega)
    have hneg : index32 o.tapeSize (2 ^ 31 + 1 - o.tapeSize) (o.tapeSize - 1) < 0 :=
      index32_neg (by omega) hfits (by omega)
    omega
  · intro h step hstep ptr hptr
    rw [index32_eq (h.2 step hstep ptr hptr)]
    have hmod := Nat.mod_lt (ptr + step) hlow
    omega

end

/-! ### Files -/

/-- How a target declares the length of the tape, if it does so as a 32-bit number. -/
def intConstant? : Target → Option String
  | .csharp => some "public const int TapeSize = "
  | .java => some "public static final int TAPE_SIZE = "
  | _ => none

/-- The line of that declaration. -/
def lengthLine (front : String) (o : Options) : Line := ⟨1, front ++ toString o.tapeSize ++ ";"⟩

section

variable {t : Target} {front : String} (ht : intConstant? t = some front)
include ht

theorem lengthLine_mem_fileLines (o : Options) (functions : List Function) :
    lengthLine front o ∈ fileLines t o functions := by
  cases t with
  | csharp =>
    cases ht
    exact List.mem_append_left _ (List.mem_append_left _ (List.mem_append_right _ (List.mem_singleton_self _)))
  | java =>
    cases ht
    exact List.mem_append_left _ (List.mem_append_left _ (List.mem_cons_of_mem _ (List.mem_cons_self ..)))
  | _ => cases ht

/-- The rendering has the declaration and all lines of every function. -/
theorem exists_render_int (o : Options) (sources : List Source) :
    ∃ text, render t o (compileAll sources).functions = .ok text ∧
      (writeLines fixedIndent [lengthLine front o]).toList <:+: text.toList ∧
      ∀ f ∈ (compileAll sources).functions,
        (writeLines fixedIndent (functionLines t o f)).toList <:+: text.toList := by
  have hscript : t ≠ .typescript := by
    rintro rfl
    cases ht
  have hreflow : t = .rust → o.reflow = false := by
    rintro rfl
    cases ht
  have hindent : Reading.indentOf t o = fixedIndent := by
    cases t with
    | csharp | java => rfl
    | _ => cases ht
  have hrender := render_eq hscript hreflow (compileAll sources).functions
  rw [← hindent]
  refine ⟨_, hrender, infix_of_mem_fileLines hscript hreflow hrender (lengthLine_mem_fileLines ht o _), fun f hf => ?_⟩
  obtain ⟨s, -, hs⟩ := exists_source_of_mem hf
  exact Reading.infix_functionLines hreflow (flattenAll_nest_body hs) hf hrender

end

/-- C# and Java code under accepted settings declares the length of the tape as a 32-bit number. A function fits
exactly if the length does, and is at most `2 ^ 30` if the function goes to the left anywhere. If the length fits, then
this is also exactly when no index is off the tape. The indices of a function that fits are those of exact arithmetic.
-/
theorem int_pointer_exact {s : Settings} (hs : s.check = .ok ()) (hsize : s.tapeSize < 2 ^ 64) {front : String}
    (ht : intConstant? s.target = some front) (sources : List Source) :
    (∃ text, render s.target s.options (compileAll sources).functions = .ok text ∧
      (writeLines fixedIndent [lengthLine front s.options]).toList <:+: text.toList ∧
      ∀ f ∈ (compileAll sources).functions,
        (writeLines fixedIndent (functionLines s.target s.options f)).toList <:+: text.toList) ∧
    ∀ f ∈ (compileAll sources).functions,
      (FitsInt s.target s.options f ↔ s.tapeSize ≤ maxInt ∧ (.move (-1) ∈ f.body → s.tapeSize ≤ 2 ^ 30)) ∧
      (s.tapeSize ≤ maxInt → (StaysOnTape s.target s.options f ↔ FitsInt s.target s.options f)) ∧
      (FitsInt s.target s.options f → ∀ step, Prints s.target s.options f step → ∀ ptr < s.tapeSize,
        index32 s.tapeSize ptr step = ((ptr + step) % s.tapeSize : Nat)) := by
  refine ⟨exists_render_int ht s.options sources, fun f hf => ?_⟩
  obtain ⟨source, -, hsource⟩ := exists_source_of_mem hf
  have hlow : 1 ≤ s.options.tapeSize := one_le_tapeSize_of_check hs
  exact ⟨fitsInt_iff hsource hlow hsize, staysOnTape_iff hsource hlow hsize,
    fun hfits step hstep ptr hptr => index32_eq (hfits.2 step hstep ptr hptr)⟩

/-- The longest tape on which a step to the left fits. -/
theorem int_pointer_exact_left :
    Settings.check ⟨.java, "BF", 2 ^ 30, "bf", true, true⟩ = .ok () ∧
    ∀ ptr < 2 ^ 30, ptr + (2 ^ 30 - 1) ≤ maxInt ∧
      index32 (2 ^ 30) ptr (2 ^ 30 - 1) = ((ptr + (2 ^ 30 - 1)) % 2 ^ 30 : Nat) := by
  have hcheck : Settings.check ⟨.java, "BF", 2 ^ 30, "bf", true, true⟩ = .ok () := by decide
  obtain ⟨-, hfunctions⟩ := int_pointer_exact hcheck (by decide) rfl [.ofText "a.bf" "<"]
  obtain ⟨f, hf, hbody⟩ : ∃ f ∈ (compileAll [.ofText "a.bf" "<"]).functions, f.body = [.move (-1)] :=
    ⟨_, List.mem_singleton_self _, rfl⟩
  obtain ⟨source, -, hsource⟩ := exists_source_of_mem hf
  obtain ⟨hfits, -, hexact⟩ := hfunctions f hf
  have hleft := hfits.2 ⟨by decide, fun _ => Nat.le_refl _⟩
  have hprints : Prints .java (Settings.options ⟨.java, "BF", 2 ^ 30, "bf", true, true⟩) f (2 ^ 30 - 1) :=
    (prints_iff (flattenAll_nest_body hsource)).2 ⟨-1, by simp [hbody], by decide⟩
  exact ⟨hcheck, fun ptr hptr => ⟨hleft.2 _ hprints ptr hptr, hexact hleft _ hprints ptr hptr⟩⟩

/-- A length that the check accepts and that is no 32-bit number, and a length that is one, on which the step to the
left from the last cell leads to a negative index. -/
theorem int_pointer_overflows :
    let java : Settings := ⟨.java, "BF", 2 ^ 31, "bf", false, true⟩
    let csharp : Settings := ⟨.csharp, "BF", 2 ^ 30 + 1, "bf", false, true⟩
    let functions := (compileAll [.ofText "a.bf" "<"]).functions
    (java.check = .ok () ∧ ∃ text, render .java java.options functions = .ok text ∧
      "    public static final int TAPE_SIZE = 2147483648;\n".toList <:+: text.toList ∧ maxInt < 2147483648) ∧
    csharp.check = .ok () ∧ csharp.tapeSize ≤ maxInt ∧
      ∃ f ∈ functions, Prints .csharp csharp.options f (2 ^ 30) ∧ maxInt < 2 ^ 30 + 2 ^ 30 ∧
        index32 csharp.tapeSize (2 ^ 30) (2 ^ 30) = 1 - 2 ^ 30 := by
  intro java csharp functions
  obtain ⟨text, htext, hline, -⟩ := @exists_render_int .java _ rfl java.options [.ofText "a.bf" "<"]
  obtain ⟨f, hf, hbody⟩ : ∃ f ∈ functions, f.body = [.move (-1)] := ⟨_, List.mem_singleton_self _, rfl⟩
  obtain ⟨source, -, hsource⟩ := exists_source_of_mem hf
  refine ⟨⟨by decide, text, htext, ?_, by decide⟩, by decide, by decide, f, hf, ?_, by decide, by decide⟩
  · have hlength : writeLines fixedIndent [lengthLine "public static final int TAPE_SIZE = " java.options] =
        "    public static final int TAPE_SIZE = 2147483648;\n" := by
      decide +kernel
    rw [← hlength]
    exact hline
  · exact (prints_iff (flattenAll_nest_body hsource)).2 ⟨-1, by simp [hbody], by decide⟩

end Code

end TapeLang
