import TapeLang.Proofs.Name.Canonical

/-!
# Names derived from texts

Deriving a name loses no letter or digit of the text and adds only underscores, besides `bf` in front of a digit:
cutting the text into words keeps its letters and digits (`flatten_wordsFrom`), and snake case and joining insert
underscores among them (`filter_snakeFrom`, `filter_intercalate`). A canonical name is cut into its own words and stays
as it is (`identifier?_of_canonical`), so the canonical names are exactly the names that texts give.
-/

namespace TapeLang.Name

open Text (isAsciiLower isAsciiUpper isAsciiDigit isAsciiAlphanum toAsciiLower)

/-- The letters and digits of a text. -/
def lettersOf (text : String) : List Char := text.toList.filter isAsciiAlphanum

/-- The letters and digits of a text in lower case, behind `bf` if the first is a digit. -/
def spelling (text : String) : List Char :=
  (if (lettersOf text).head?.any isAsciiDigit then ['b', 'f'] else []) ++ (lettersOf text).map toAsciiLower

theorem toAsciiLower_of_not_upper {c : Char} (hc : isAsciiUpper c = false) : toAsciiLower c = c := by
  simp [toAsciiLower, hc]

theorem isAsciiUpper_of_wordChar {c : Char} (hc : isWordChar c) : isAsciiUpper c = false := by
  have key := forall_alphanum (p := fun c => isWordChar c → isAsciiUpper c = false) (by decide)
    (isAlphanum_of_wordChar hc)
  exact key hc

theorem isAsciiDigit_toAsciiLower {c : Char} (hc : isAsciiAlphanum c) :
    isAsciiDigit (toAsciiLower c) = isAsciiDigit c :=
  forall_alphanum (p := fun c => isAsciiAlphanum c → isAsciiDigit (toAsciiLower c) = isAsciiDigit c) (by decide) hc hc

theorem toAsciiLower_ne_underscore {c : Char} (hc : isAsciiAlphanum c) : toAsciiLower c ≠ '_' :=
  forall_alphanum (p := fun c => isAsciiAlphanum c → toAsciiLower c ≠ '_') (by decide) hc hc

/-! ### No letter is lost -/

/-- The words of a text hold its letters and digits in order. -/
theorem flatten_wordsFrom (word cs : List Char) :
    (wordsFrom word cs).flatten = word.reverse ++ cs.filter isAsciiAlphanum := by
  fun_induction wordsFrom word cs with
  | case1 => rfl
  | case2 word hne => simp
  | case3 word c cs hc ih => simp [ih, hc]
  | case4 c cs hc ih => simp [ih, hc]
  | case5 word c cs hc hne ih => simp [ih, hc]

/-- Snake case puts the letters of a word in lower case, with underscores among them. -/
theorem filter_snakeFrom {w : List Char} (h : ∀ c ∈ w, isAsciiAlphanum c) (prev : Option Char) :
    (snakeFrom prev w).filter (· != '_') = w.map toAsciiLower := by
  induction w generalizing prev with
  | nil => rfl
  | cons c w ih =>
    obtain ⟨hc, hw⟩ := List.forall_mem_cons.1 h
    have hne := toAsciiLower_ne_underscore hc
    unfold snakeFrom
    by_cases hupper : isAsciiUpper c = true
    · by_cases hboundary : boundary prev w.head? = true
      · simp [hupper, hboundary, hne, ih hw]
      · simp [hupper, hboundary, hne, ih hw]
    · rw [toAsciiLower_of_not_upper (by simpa using hupper)] at hne
      simp [hupper, hne, ih hw, toAsciiLower_of_not_upper]

theorem filter_intercalate (ws : List (List Char)) :
    (['_'].intercalate ws).filter (· != '_') = (ws.map (·.filter (· != '_'))).flatten := by
  induction ws with
  | nil => rfl
  | cons w ws ih =>
    cases ws with
    | nil => simp
    | cons v ws =>
      rw [List.intercalate_cons_cons, List.append_assoc, List.filter_append, List.filter_append, ih]
      rfl

theorem filter_joined (cs : List Char) :
    (joined cs).filter (· != '_') = (cs.filter isAsciiAlphanum).map toAsciiLower := by
  have hsnake : ∀ w ∈ wordsFrom [] cs, (snakeFrom none w).filter (· != '_') = w.map toAsciiLower := fun w hw =>
    filter_snakeFrom (mem_wordsFrom (by simp) hw).2 none
  calc (joined cs).filter (· != '_')
      = ((wordsFrom [] cs).map fun w => (snakeFrom none w).filter (· != '_')).flatten := by
        rw [joined, filter_intercalate, List.map_map]
        rfl
    _ = ((wordsFrom [] cs).map (·.map toAsciiLower)).flatten := by rw [List.map_congr_left hsnake]
    _ = (cs.filter isAsciiAlphanum).map toAsciiLower := by
        rw [← List.map_flatten, flatten_wordsFrom, List.reverse_nil, List.nil_append]

theorem joined_eq_nil_iff {cs : List Char} : joined cs = [] ↔ cs.filter isAsciiAlphanum = [] := by
  constructor
  · intro h
    have hfilter := filter_joined cs
    rw [h] at hfilter
    exact List.map_eq_nil_iff.1 hfilter.symm
  · intro h
    have hwords : wordsFrom [] cs = [] := by
      have hflatten := flatten_wordsFrom [] cs
      rw [h, List.reverse_nil, List.nil_append, List.flatten_eq_nil_iff] at hflatten
      refine List.eq_nil_iff_forall_not_mem.2 fun w hw => ?_
      exact (mem_wordsFrom (by simp) hw).1 (hflatten w hw)
    rw [joined, hwords]
    rfl

theorem identifier?_eq (text : String) : identifier? text =
    if joined text.toList = [] then none else some (String.ofList (identifierChars text.toList)) := by
  unfold identifier?
  simp only [← identifierChars_eq_nil_iff_joined]
  cases identifierChars text.toList <;> rfl

theorem toList_of_identifier {text name : String} (h : identifier? text = some name) :
    name.toList = identifierChars text.toList := by
  rw [identifier?_eq] at h
  split at h
  · cases h
  · obtain rfl := Option.some.inj h
    exact String.toList_ofList

theorem identifier?_eq_none_iff {text : String} : identifier? text = none ↔ lettersOf text = [] := by
  rw [lettersOf, ← joined_eq_nil_iff, identifier?_eq]
  split <;> simp_all

theorem head?_joined (cs : List Char) :
    (joined cs).head? = (cs.filter isAsciiAlphanum).head?.map toAsciiLower := by
  rw [← List.head?_map, ← filter_joined]
  cases hcons : joined cs with
  | nil => rfl
  | cons c rest =>
    have hne : joined cs ≠ [] := by simp [hcons]
    obtain ⟨_, _, hcons', hc⟩ := (words_joined hne).exists_cons
    obtain ⟨rfl, -⟩ := List.cons.inj (hcons.symm.trans hcons')
    simp [ne_underscore_of_wordChar hc]

theorem filter_identifier {text name : String} (h : identifier? text = some name) :
    name.toList.filter (· != '_') = spelling text := by
  have hdigit : (joined text.toList).head?.any isAsciiDigit = (lettersOf text).head?.any isAsciiDigit := by
    rw [head?_joined, ← lettersOf, Option.any_map]
    cases hhead : (lettersOf text).head? with
    | none => rfl
    | some c => exact isAsciiDigit_toAsciiLower (List.mem_filter.1 (List.mem_of_head? hhead)).2
  rw [toList_of_identifier h, identifierChars_eq, List.filter_append, filter_joined, hdigit, spelling]
  split <;> rfl

/-! ### Canonical names are names of texts -/

/-- Snake case passes over characters that are no capitals. -/
theorem snakeFrom_append {w : List Char} (h : ∀ c ∈ w, isAsciiUpper c = false) (prev : Option Char) (cs : List Char) :
    snakeFrom prev (w ++ cs) = w ++ snakeFrom (w.getLast?.or prev) cs := by
  induction w generalizing prev with
  | nil => rfl
  | cons c w ih =>
    obtain ⟨hc, hw⟩ := List.forall_mem_cons.1 h
    have hlast : (c :: w).getLast?.or prev = w.getLast?.or (some c) := by
      rw [List.getLast?_cons, Option.some_or, Option.or_some]
    rw [List.cons_append, snakeFrom, hc, if_neg Bool.false_ne_true, ih hw, hlast, List.cons_append]

theorem snakeFrom_of_not_upper {w : List Char} (h : ∀ c ∈ w, isAsciiUpper c = false) (prev : Option Char) :
    snakeFrom prev w = w := by
  have happend := snakeFrom_append h prev []
  rwa [List.append_nil, snakeFrom, List.append_nil] at happend

theorem IsWord.not_upper {w : List Char} (hw : IsWord w) : ∀ c ∈ w, isAsciiUpper c = false := fun c hc =>
  isAsciiUpper_of_wordChar (hw.2 c hc)

theorem wordsFrom_append {w : List Char} (h : ∀ c ∈ w, isAsciiAlphanum c) (word rest : List Char) :
    wordsFrom word (w ++ rest) = wordsFrom (w.reverse ++ word) rest := by
  induction w generalizing word with
  | nil => rfl
  | cons c w ih =>
    obtain ⟨hc, hw⟩ := List.forall_mem_cons.1 h
    rw [List.cons_append, wordsFrom, if_pos hc, ih hw, List.reverse_cons, List.append_assoc, List.singleton_append]

/-- Words joined by underscores are cut into themselves. -/
theorem Words.joined_eq {a : List Char} (h : Words a) : joined a = a := by
  have halphanum {w : List Char} (hw : IsWord w) : ∀ c ∈ w, isAsciiAlphanum c := fun c hc =>
    isAlphanum_of_wordChar (hw.2 c hc)
  induction h with
  | @single w hw =>
    have hcut : wordsFrom [] w = [w] := by
      rw [← List.append_nil w, wordsFrom_append (halphanum hw), wordsFrom]
      simp [hw.1]
    simp [joined, hcut, snakeFrom_of_not_upper hw.not_upper]
  | @cons w rest hw hrest ih =>
    have hcut : wordsFrom [] (w ++ '_' :: rest) = w :: wordsFrom [] rest := by
      rw [wordsFrom_append (halphanum hw), wordsFrom]
      simp [hw.1, isAsciiAlphanum, isAsciiUpper, isAsciiLower, isAsciiDigit]
    obtain ⟨v, vs, hwords⟩ : ∃ v vs, wordsFrom [] rest = v :: vs := by
      refine List.exists_cons_of_ne_nil fun hnil => ?_
      obtain ⟨c, cs, hcons, -⟩ := hrest.exists_cons
      rw [joined, hnil] at ih
      exact absurd (ih.trans hcons) (by simp)
    rw [joined, hwords, List.map_cons] at ih
    rw [joined, hcut, hwords, List.map_cons, List.map_cons, List.intercalate_cons_cons, ih,
      snakeFrom_of_not_upper hw.not_upper, List.append_assoc, List.singleton_append]

theorem identifier?_of_canonical {name : String} (h : Canonical name.toList) : identifier? name = some name := by
  obtain ⟨hwords, c, rest, hcons, hlower⟩ := h
  have hchars : identifierChars name.toList = name.toList := by
    rw [identifierChars_eq, hwords.joined_eq, hcons, List.head?_cons, Option.any_some, isAsciiDigit_of_lower hlower]
    rfl
  have hne : joined name.toList ≠ [] := by
    rw [hwords.joined_eq, hcons]
    exact List.cons_ne_nil _ _
  rw [identifier?_eq, if_neg hne, hchars, String.ofList_toList]

/-- Texts give exactly the canonical names: a text without letters and digits gives none, any other gives a canonical
name that spells it, and a canonical name gives itself. -/
theorem identifier_exact :
    (∀ text, identifier? text = none ↔ ∀ c ∈ text.toList, ¬ isAsciiAlphanum c) ∧
    (∀ text name, identifier? text = some name →
      Canonical name.toList ∧ name.toList.filter (· != '_') = spelling text) ∧
    (∀ name, Canonical name.toList → identifier? name = some name) ∧
    (∀ text, (identifier? text).bind identifier? = identifier? text) ∧
    (∀ name, (∃ text, identifier? text = some name) ↔ Canonical name.toList) := by
  refine ⟨fun text => ?_, fun text name h => ⟨canonical_identifier h, filter_identifier h⟩,
    fun name => identifier?_of_canonical, fun text => ?_, fun name => ⟨?_, fun h => ⟨name, identifier?_of_canonical h⟩⟩⟩
  · rw [identifier?_eq_none_iff, lettersOf, List.filter_eq_nil_iff]
  · cases h : identifier? text with
    | none => rfl
    | some name => exact identifier?_of_canonical (canonical_identifier h)
  · rintro ⟨text, h⟩
    exact canonical_identifier h

/-- A name from a text with a leading digit and a run of capitals. -/
example : identifier? "9 HTTPServers" = some "bf_9_http_servers" := by decide

end TapeLang.Name
