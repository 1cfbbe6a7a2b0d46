import TapeLang.Proofs.Name.Canonical
import TapeLang.Proofs.Yaml.PlainScalar
import TapeLang.Yaml.Value

/-!
# Words and numbers as scalars

Letters, digits and underscores make a plain scalar (`IsPlain.of_word`), and the decimal digits of a number are read as
the number (`nat?_toString`).
-/

namespace TapeLang.Yaml

open Text (isAsciiAlphanum)

/-! ### Words -/

/-- Whether `c` is a letter, a digit or an underscore. -/
def isWordChar (c : Char) : Bool := c = '_' || isAsciiAlphanum c

/-- What holds of the first 128 characters holds of the characters of words. -/
theorem forall_wordChar {p : Char → Prop} (h : ∀ n < 128, isWordChar (Char.ofNat n) → p (Char.ofNat n)) {c : Char}
    (hc : isWordChar c) : p c := by
  by_cases hunderscore : c = '_'
  · subst hunderscore
    exact h 95 (by decide) (by decide)
  · have halphanum : isAsciiAlphanum c := by simpa [isWordChar, hunderscore] using hc
    exact Name.forall_alphanum (p := fun c => isWordChar c → p c) h halphanum hc

theorem IsPlain.of_word {cs : List Char} (hne : cs ≠ []) (hword : ∀ c ∈ cs, isWordChar c) (next : Char) :
    IsPlain next cs := by
  have hblank : ∀ c ∈ cs, isBlank c = false := fun c hc =>
    forall_wordChar (p := (isBlank · = false)) (by decide) (hword c hc)
  have hcolon : ∀ c ∈ cs, c ≠ ':' := fun c hc => forall_wordChar (p := (· ≠ ':')) (by decide) (hword c hc)
  refine ⟨?_, ?_, ?_, hne, ?_, ?_⟩
  · exact fun c hc => forall_wordChar (p := (Document.isAllowed ·)) (by decide) (hword c hc)
  · exact fun c hc => forall_wordChar (p := (isBreak · = false)) (by decide) (hword c hc)
  · clear hne hword
    induction cs with
    | nil => exact .singleton next
    | cons c cs ih =>
      refine List.isChain_cons.mpr ⟨?_, ih (fun d hd => hblank d (by simp [hd])) fun d hd => hcolon d (by simp [hd])⟩
      intro d _
      simp [Joined, hblank c, hcolon c]
  · intro c hc
    have hmem := List.mem_of_mem_head? hc
    have hindicator : c ∉ indicators := forall_wordChar (p := (· ∉ indicators)) (by decide) (hword c hmem)
    exact ⟨hblank c hmem, fun h => absurd h hindicator⟩
  · exact fun c hc => hblank c (List.mem_of_getLast? hc)

/-! ### Numbers -/

theorem isWordChar_of_isDigit {c : Char} (hc : c.isDigit) : isWordChar c := by
  have hdigit : Text.isAsciiDigit c := by
    simpa [Char.isDigit, Text.isAsciiDigit, Char.le_def, UInt32.le_iff_toNat_le] using hc
  simp [isWordChar, isAsciiAlphanum, hdigit]

theorem digit?_of_isDigit {c : Char} (hc : c.isDigit) : digit? 10 c = some (c.toNat - 48) :=
  forall_wordChar (p := fun c => c.isDigit → digit? 10 c = some (c.toNat - 48)) (by decide)
    (isWordChar_of_isDigit hc) hc

theorem digitsFrom?_of_isDigit {cs : List Char} (hcs : ∀ c ∈ cs, c.isDigit) (value : Nat) :
    digitsFrom? 10 value cs = some (Nat.ofDigitChars 10 cs value) := by
  induction cs generalizing value with
  | nil => rfl
  | cons c cs ih =>
    rw [digitsFrom?, digit?_of_isDigit (hcs c (by simp))]
    exact ih (fun d hd => hcs d (by simp [hd])) _

/-- A positive number is not written with a leading zero. -/
theorem head?_toDigits_ne {n : Nat} (hn : 0 < n) : (Nat.toDigits 10 n).head? ≠ some '0' := by
  induction n using Nat.strongRecOn with
  | ind n ih =>
    by_cases hlt : n < 10
    · have hdigit : ∀ k < 10, 0 < k → k.digitChar ≠ '0' := by decide
      rw [Nat.toDigits_of_lt_base hlt]
      simpa using hdigit n hlt hn
    · rw [Nat.toDigits_of_base_le (by decide) (by omega), List.head?_append_of_ne_nil _ Nat.toDigits_ne_nil]
      exact ih (n / 10) (by omega) (by omega)

theorem nat?_toString {n bound : Nat} (hn : 0 < n) (hbound : n < bound) : nat? bound (toString n).toList = some n := by
  have hchars : (toString n).toList = Nat.toDigits 10 n := by simp [toString, Nat.repr]
  have hdigits : ∀ c ∈ Nat.toDigits 10 n, c.isDigit := fun c hc =>
    Nat.isDigit_of_mem_toDigits (by decide) (by decide) hc
  have hnumber : digits? 10 (Nat.toDigits 10 n) = some n := by
    rw [digits?, if_neg Nat.toDigits_ne_nil, digitsFrom?_of_isDigit hdigits, Nat.ofDigitChars_ten_toDigits]
  have hzero := head?_toDigits_ne hn
  rw [hchars]
  obtain ⟨c, cs, hcs⟩ := List.exists_cons_of_ne_nil (Nat.toDigits_ne_nil : Nat.toDigits 10 n ≠ [])
  have hc : c.isDigit := hdigits c (by simp [hcs])
  have hsign : c ≠ '+' ∧ c ≠ '-' ∧ c ≠ '0' := by
    refine ⟨?_, ?_, ?_⟩
    · rintro rfl
      exact absurd hc (by decide)
    · rintro rfl
      exact absurd hc (by decide)
    · rintro rfl
      exact hzero (by rw [hcs]; rfl)
  rw [hcs] at hnumber ⊢
  simp [nat?, hasLeadingZero, magnitude?, hsign, hnumber, hbound]

end TapeLang.Yaml
