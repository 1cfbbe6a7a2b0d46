import TapeLang.Proofs.Name.Declared
import TapeLang.Proofs.Name.Derived

/-!
# When names clash

In Pascal case a capital marks where a word with a letter in front begins, while a word that begins with a digit
leaves no mark. So a name is known from its Pascal case up to the underscores before digits (`Words.restore_pascal`),
and two names clash exactly if they are equal without these (`pascal_eq_iff`), or in Pascal case, or in camel case. In a
batch a source that compiles is turned away exactly if its name is that of an earlier function in some casing.
-/

namespace TapeLang.Name

open Text (isAsciiLower isAsciiUpper isAsciiDigit toAsciiLower toAsciiUpper upperOf)
open Code (casedName clashKey_of_casedName)

/-- The characters without the underscores that stand right before a digit. -/
def joinDigits : List Char → List Char
  | [] => []
  | c :: cs => if c = '_' ∧ cs.head?.any isAsciiDigit then joinDigits cs else c :: joinDigits cs

/-- An underscore before every capital, and all in lower case. -/
def restore (cs : List Char) : List Char :=
  cs.flatMap fun c => if isAsciiUpper c then ['_', toAsciiLower c] else [c]

/-! ### Pascal case forgets the underscores before digits -/

theorem toAsciiUpper_of_digit {c : Char} (hc : isAsciiDigit c) : toAsciiUpper c = c := by
  have halphanum : Text.isAsciiAlphanum c := by simp [Text.isAsciiAlphanum, hc]
  exact forall_alphanum (p := fun c => isAsciiDigit c → toAsciiUpper c = c) (by decide) halphanum hc

/-- A digit looks the same at the beginning of a word and inside. -/
theorem pascalFrom_digit {c : Char} (hc : isAsciiDigit c) (fresh : Bool) (cs : List Char) :
    pascalFrom fresh (c :: cs) = c :: pascalFrom false cs := by
  have hword : isWordChar c := by simp [isWordChar, hc]
  have hupper : upperOf c = [c] := by
    rw [upperOf_of_alphanum (isAlphanum_of_wordChar hword), toAsciiUpper_of_digit hc]
  rw [pascalFrom, if_neg (ne_underscore_of_wordChar hword)]
  cases fresh with
  | true => rw [if_pos rfl, hupper, List.singleton_append]
  | false => rw [if_neg Bool.false_ne_true]

theorem pascalFrom_joinDigits (fresh : Bool) (cs : List Char) :
    pascalFrom fresh (joinDigits cs) = pascalFrom fresh cs := by
  induction cs generalizing fresh with
  | nil => rfl
  | cons c cs ih =>
    unfold joinDigits
    by_cases h : c = '_' ∧ cs.head?.any isAsciiDigit
    · rw [if_pos h, ih]
      obtain ⟨rfl, hdigit⟩ := h
      -- the word behind the underscore begins with a digit, where `fresh` makes no difference
      cases cs with
      | nil => simp at hdigit
      | cons d ds =>
        have hd : isAsciiDigit d := by simpa using hdigit
        rw [pascalFrom_digit hd, pascalFrom, if_pos rfl, pascalFrom_digit hd]
    · rw [if_neg h, pascalFrom, pascalFrom, ih, ih]

/-! ### Capitals mark all other words -/

section

variable {w : List Char}

theorem joinDigits_append (hw : ∀ c ∈ w, isWordChar c) (cs : List Char) :
    joinDigits (w ++ cs) = w ++ joinDigits cs := by
  induction w with
  | nil => rfl
  | cons c w ih =>
    obtain ⟨hc, hw⟩ := List.forall_mem_cons.1 hw
    have hne : ¬ (c = '_' ∧ (w ++ cs).head?.any isAsciiDigit) := fun h => ne_underscore_of_wordChar hc h.1
    rw [List.cons_append, joinDigits, if_neg hne, ih hw, List.cons_append]

theorem pascalFrom_append (hw : ∀ c ∈ w, isWordChar c) (cs : List Char) :
    pascalFrom false (w ++ cs) = w ++ pascalFrom false cs := by
  induction w with
  | nil => rfl
  | cons c w ih =>
    obtain ⟨hc, hw⟩ := List.forall_mem_cons.1 hw
    rw [List.cons_append, pascalFrom, if_neg (ne_underscore_of_wordChar hc), if_neg Bool.false_ne_true, ih hw,
      List.cons_append]

theorem restore_append (hw : ∀ c ∈ w, isWordChar c) (cs : List Char) : restore (w ++ cs) = w ++ restore cs := by
  have hself : restore w = w := by
    induction w with
    | nil => rfl
    | cons c w ih =>
      obtain ⟨hc, hw⟩ := List.forall_mem_cons.1 hw
      have hrest : restore w = w := ih hw
      rw [restore, List.flatMap_cons, ← restore, hrest, isAsciiUpper_of_wordChar hc]
      rfl
  unfold restore at hself ⊢
  rw [List.flatMap_append, hself]

/-- A word is known from its Pascal case, but for an underscore before a digit. -/
theorem restore_pascalFrom_word (hw : IsWord w) {cs : List Char} (hcs : restore (pascalFrom false cs) = joinDigits cs) :
    restore (pascalFrom true (w ++ cs)) = joinDigits ('_' :: (w ++ cs)) := by
  obtain ⟨hne, hchars⟩ := hw
  obtain ⟨c, w, rfl⟩ := List.exists_cons_of_ne_nil hne
  obtain ⟨hc, hw⟩ := List.forall_mem_cons.1 hchars
  have hinside : restore (pascalFrom false (w ++ cs)) = joinDigits (w ++ cs) := by
    rw [pascalFrom_append hw, restore_append hw, hcs, joinDigits_append hw]
  have hstay : joinDigits (c :: (w ++ cs)) = c :: joinDigits (w ++ cs) :=
    joinDigits_append (w := [c]) (by simpa using hc) (w ++ cs)
  rw [List.cons_append, joinDigits, hstay, List.head?_cons, Option.any_some]
  by_cases hdigit : isAsciiDigit c = true
  · have hkeep : restore (c :: pascalFrom false (w ++ cs)) = c :: restore (pascalFrom false (w ++ cs)) :=
      restore_append (w := [c]) (by simpa using hc) _
    rw [pascalFrom_digit hdigit, hkeep, hinside, if_pos ⟨rfl, hdigit⟩]
  · have hlower : isAsciiLower c := by simpa [isWordChar, hdigit] using hc
    have hmark : restore (toAsciiUpper c :: pascalFrom false (w ++ cs)) =
        '_' :: c :: restore (pascalFrom false (w ++ cs)) := by
      rw [restore, List.flatMap_cons, if_pos (isAsciiUpper_toAsciiUpper hlower), toAsciiLower_toAsciiUpper hlower]
      rfl
    rw [pascalFrom_true_cons hc, hmark, hinside, if_neg fun h => hdigit h.2]

/-- The words of a name are known from its Pascal case, but for the underscores before digits. -/
theorem Words.restore_pascal {a : List Char} (h : Words a) : restore (pascalFrom true a) = joinDigits ('_' :: a) := by
  induction h with
  | @single w hw =>
    rw [← List.append_nil w]
    exact restore_pascalFrom_word hw rfl
  | @cons w rest hw hrest ih =>
    have hfresh : pascalFrom false ('_' :: rest) = pascalFrom true rest := by rw [pascalFrom, if_pos rfl]
    exact restore_pascalFrom_word hw (by rw [hfresh, ih])

end

/-! ### Names of texts -/

section

variable {a b : String}

theorem Canonical.joinDigits_cons (ha : Canonical a.toList) :
    joinDigits ('_' :: a.toList) = '_' :: joinDigits a.toList := by
  obtain ⟨-, c, rest, hcons, hc⟩ := ha
  rw [joinDigits, hcons, List.head?_cons, Option.any_some, isAsciiDigit_of_lower hc, if_neg (by simp)]

/-- Names are equal in Pascal case exactly if they are equal without the underscores before digits. -/
theorem pascal_eq_iff (ha : Canonical a.toList) (hb : Canonical b.toList) :
    pascal a = pascal b ↔ joinDigits a.toList = joinDigits b.toList := by
  constructor
  · intro h
    have hchars : pascalFrom true a.toList = pascalFrom true b.toList := String.ofList_injective h
    have hrestore := congrArg restore hchars
    rw [ha.1.restore_pascal, hb.1.restore_pascal, ha.joinDigits_cons, hb.joinDigits_cons] at hrestore
    exact (List.cons.inj hrestore).2
  · intro h
    have hchars := congrArg (pascalFrom true) h
    rw [pascalFrom_joinDigits, pascalFrom_joinDigits] at hchars
    rw [pascal, pascal, hchars]

/-- Names clash exactly if they are equal in the casing of some target. -/
theorem exists_casedName_iff (ha : Canonical a.toList) (hb : Canonical b.toList) :
    (∃ t, casedName t a = casedName t b) ↔ clashKey a = clashKey b := by
  constructor
  · rintro ⟨t, h⟩
    exact clashKey_of_casedName t ha hb h
  · intro h
    exact ⟨.csharp, h⟩

end

/-- Names of texts clash exactly if they are equal without the underscores before digits, if they are equal in Pascal
case, and if they are equal in camel case. A source of a batch that compiles is turned away exactly if an earlier
function has the same name in the casing of some target, and this function is the one complained of. -/
theorem clashKey_exact :
    (∀ t u a b, identifier? t = some a → identifier? u = some b →
      (clashKey a = clashKey b ↔ joinDigits a.toList = joinDigits b.toList) ∧
      (clashKey a = clashKey b ↔ pascal a = pascal b) ∧
      (clashKey a = clashKey b ↔ camel a = camel b) ∧
      (a = b → clashKey a = clashKey b)) ∧
    ∀ sources : List Source, ∃ verdicts : List (Except Rejection Function), Judged [] sources verdicts ∧
      (compileAll sources).functions = verdicts.filterMap Except.toOption ∧
      (compileAll sources).rejections = verdicts.filterMap Batch.rejection? ∧
      ∀ (i : Nat) (s : Source) (f : Function), sources[i]? = some s → compile s = .ok f → ∀ first,
        verdicts[i]? = some (.error ⟨s.name, .nameTaken f.name first⟩) ↔
          ∃ j < i, ∃ g, verdicts[j]? = some (.ok g) ∧ g.source = first ∧
            ∃ t, casedName t f.name = casedName t g.name := by
  constructor
  · intro t u a b ha hb
    have ha := canonical_identifier ha
    have hb := canonical_identifier hb
    exact ⟨pascal_eq_iff ha hb, Iff.rfl, (camel_eq_iff ha hb).symm, congrArg clashKey⟩
  · intro sources
    obtain ⟨verdicts, hjudged, hbatch⟩ := exists_verdicts_compileAll sources
    have hcanonical {s : Source} {f : Function} (hf : compile s = .ok f) : Canonical f.name.toList := by
      obtain ⟨-, name, hname, rfl⟩ := compile_eq_ok.1 hf
      exact canonical_identifier hname
    refine ⟨verdicts, hjudged, ?_, ?_, ?_⟩
    · rw [hbatch, Batch.functions_foldr_add]
    · rw [hbatch, Batch.rejections_foldr_add]
    · intro i s f hs hf first
      rw [hjudged.nameTaken_iff hs hf]
      refine exists_congr fun j => and_congr_right fun _ => exists_congr fun g => and_congr_right fun hg => ?_
      obtain ⟨t, -, ht, -⟩ := hjudged.source_of_ok hg
      rw [exists_casedName_iff (hcanonical hf) (hcanonical ht)]

/-- Only the underscore before a digit is forgotten. -/
example : clashKey "a_1" = clashKey "a1" ∧ clashKey "ab_c" ≠ clashKey "a_bc" := by decide

end TapeLang.Name
