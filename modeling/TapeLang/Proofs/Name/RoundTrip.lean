import TapeLang.Proofs.Name.Clash

/-!
# Names read back from Pascal case

Snake case reads a name in Pascal case word by word and puts an underscore where it sees a boundary
(`snakeFrom_pascalFrom_word`). Behind a word that begins with a letter it sees the boundary before the next one exactly
if the two are `Told` apart: capitals of single letters run together, and a word with a digit in front has no capital.
So a name comes back exactly if every two neighbouring words in it are told apart, from camel case too if the first word
is no single letter (`snake_pascal_exact`).
-/

namespace TapeLang.Name

open Text (isAsciiLower isAsciiUpper isAsciiDigit toAsciiLower toAsciiUpper)

/-- Of two neighbouring words of a name the second begins with a letter, and either the first has at least two
characters or the second goes on with a letter. -/
def Told (v w : List Char) : Prop :=
  w.head?.any isAsciiLower ∧ (2 ≤ v.length ∨ w[1]?.any isAsciiLower)

instance : DecidableRel Told := fun _ _ => inferInstanceAs (Decidable (_ ∧ _))

/-- What snake case puts in front of a word in Pascal case that stands behind the character `prev`. -/
def mark (prev : Option Char) (w : List Char) : List Char :=
  if w.head?.any isAsciiLower ∧ boundary prev w[1]? then ['_'] else []

theorem isWordChar_of_upper {c : Char} (hc : isAsciiUpper c) : isWordChar c = false := by
  by_contra h
  rw [Bool.not_eq_false] at h
  rw [isAsciiUpper_of_wordChar h] at hc
  cases hc

theorem isAsciiLower_of_digit {c : Char} (hc : isAsciiDigit c) : isAsciiLower c = false := by
  by_contra h
  rw [Bool.not_eq_false] at h
  rw [isAsciiDigit_of_lower h] at hc
  cases hc

theorem toAsciiLower_of_lower {c : Char} (hc : isAsciiLower c) : toAsciiLower c = c :=
  toAsciiLower_of_not_upper (isAsciiUpper_of_wordChar (by simp [isWordChar, hc]))

/-! ### A word in Pascal case -/

section

variable {w : List Char} {c : Char} {prev : Option Char} {cs : List Char}

/-- Pascal case changes the first character of a word only. -/
theorem pascalFrom_word_append (hw : IsWord (c :: w)) (cs : List Char) :
    pascalFrom true (c :: (w ++ cs)) = toAsciiUpper c :: (w ++ pascalFrom false cs) := by
  obtain ⟨hc, hw⟩ := List.forall_mem_cons.1 hw.2
  rw [pascalFrom_true_cons hc, pascalFrom_append hw]

theorem pascalFrom_word (hw : IsWord (c :: w)) : pascalFrom true (c :: w) = toAsciiUpper c :: w := by
  simpa [pascalFrom] using pascalFrom_word_append hw []

theorem boundary_eq (prev next : Option Char) :
    boundary prev next = (prev.any isWordChar || (prev.any isAsciiUpper && next.any isAsciiLower)) := rfl

/-- What stands behind a word makes no boundary in it, unless it begins with a lower-case letter. -/
theorem boundary_head?_append (hcs : cs.head?.any isAsciiLower = false) :
    boundary prev (w ++ cs).head? = boundary prev w.head? := by
  cases w with
  | nil => simp [boundary, hcs]
  | cons d w => rfl

/-- Snake case puts a word in Pascal case back into lower case, behind an underscore if it sees a boundary. -/
theorem snakeFrom_pascalFrom_word (hw : IsWord w) (hcs : (pascalFrom false cs).head?.any isAsciiLower = false)
    (prev : Option Char) :
    snakeFrom prev (pascalFrom true (w ++ cs)) =
      mark prev w ++ (w ++ snakeFrom (pascalFrom true w).getLast? (pascalFrom false cs)) := by
  obtain ⟨c, w, rfl⟩ := List.exists_cons_of_ne_nil hw.1
  obtain ⟨hc, hrest⟩ := List.forall_mem_cons.1 hw.2
  have hlast : (pascalFrom true (c :: w)).getLast? = w.getLast?.or (some (toAsciiUpper c)) := by
    rw [pascalFrom_word hw, List.getLast?_cons, Option.or_some]
  have hbehind : snakeFrom (some (toAsciiUpper c)) (w ++ pascalFrom false cs) =
      w ++ snakeFrom (pascalFrom true (c :: w)).getLast? (pascalFrom false cs) := by
    rw [snakeFrom_append (fun d hd => isAsciiUpper_of_wordChar (hrest d hd)), hlast]
  rw [List.cons_append, pascalFrom_word_append hw, snakeFrom, hbehind, boundary_head?_append hcs, mark, List.head?_cons,
    Option.any_some, List.getElem?_cons_succ, ← List.head?_eq_getElem?]
  by_cases hdigit : isAsciiDigit c = true
  · have hlower := isAsciiLower_of_digit hdigit
    have hupper := isAsciiUpper_of_wordChar hc
    simp [toAsciiUpper_of_digit hdigit, hupper, hlower]
  · have hlower : isAsciiLower c := by simpa [isWordChar, hdigit] using hc
    rw [if_pos (isAsciiUpper_toAsciiUpper hlower), toAsciiLower_toAsciiUpper hlower]
    by_cases hboundary : boundary prev w.head? = true
    · simp [hboundary, hlower]
    · simp [hboundary]

/-- Behind a word that begins with a letter the boundary before the next word is seen exactly if they are told apart. -/
theorem mark_getLast?_pascalFrom {v : List Char} (hv : IsWord v) (hletter : v.head?.any isAsciiLower) (w : List Char) :
    mark (pascalFrom true v).getLast? w = if Told v w then ['_'] else [] := by
  obtain ⟨c, v, rfl⟩ := List.exists_cons_of_ne_nil hv.1
  have hlower : isAsciiLower c := by simpa using hletter
  have hupper := isAsciiUpper_toAsciiUpper hlower
  have hseen : boundary (pascalFrom true (c :: v)).getLast? w[1]? = true ↔
      2 ≤ (c :: v).length ∨ w[1]?.any isAsciiLower := by
    rw [pascalFrom_word hv, boundary_eq]
    rcases List.eq_nil_or_concat v with rfl | ⟨v, d, rfl⟩
    -- a single letter is a capital, which ends a run of capitals only in front of a lower-case letter
    · simp [hupper, isWordChar_of_upper hupper]
    · have hd : isWordChar d := hv.2 d (by simp)
      simp [List.getLast?_cons, hd]
  exact if_congr (and_congr_right fun _ => hseen) rfl rfl

/-- No word begins with a lower-case letter in Pascal case. -/
theorem head?_pascalFrom_word (hw : IsWord w) (cs : List Char) :
    (pascalFrom true (w ++ cs)).head?.any isAsciiLower = false := by
  obtain ⟨c, w, rfl⟩ := List.exists_cons_of_ne_nil hw.1
  have hc : isWordChar c := hw.2 c (List.mem_cons_self ..)
  rw [List.cons_append, pascalFrom_word_append hw, List.head?_cons, Option.any_some]
  exact forall_alphanum (p := fun c => isAsciiLower (toAsciiUpper c) = false) (by decide) (isAlphanum_of_wordChar hc)

end

/-! ### Names in Pascal case -/

/-- Words with an underscore in front of each. -/
def behindFirst (ws : List (List Char)) : List Char := ws.flatMap ('_' :: ·)

theorem intercalate_cons (w : List Char) (ws : List (List Char)) :
    ['_'].intercalate (w :: ws) = w ++ behindFirst ws := by
  induction ws generalizing w with
  | nil => simp [behindFirst]
  | cons v vs ih =>
    rw [List.intercalate_cons_cons, ih, List.append_assoc]
    rfl

theorem pascalFrom_behindFirst (v : List Char) (vs : List (List Char)) :
    pascalFrom false (behindFirst (v :: vs)) = pascalFrom true (v ++ behindFirst vs) := by
  rw [behindFirst, List.flatMap_cons, List.cons_append, pascalFrom, if_pos rfl, behindFirst]

theorem head?_pascalFrom_behindFirst {ws : List (List Char)} (hws : ∀ v ∈ ws, IsWord v) :
    (pascalFrom false (behindFirst ws)).head?.any isAsciiLower = false := by
  cases ws with
  | nil => rfl
  | cons v vs =>
    rw [pascalFrom_behindFirst]
    exact head?_pascalFrom_word (hws v (List.mem_cons_self ..)) _

section

variable {w : List Char} {ws : List (List Char)}

/-- A name in Pascal case comes back exactly if its words are told apart, whatever is in front of it. -/
theorem snakeFrom_pascalFrom_eq_iff (hw : IsWord w) (hws : ∀ v ∈ ws, IsWord v) (hletter : w.head?.any isAsciiLower)
    (prev : Option Char) :
    snakeFrom prev (pascalFrom true (w ++ behindFirst ws)) = mark prev w ++ (w ++ behindFirst ws) ↔
      (w :: ws).IsChain Told := by
  induction ws generalizing w prev with
  | nil =>
    rw [snakeFrom_pascalFrom_word hw rfl]
    simp [behindFirst, pascalFrom, snakeFrom]
  | cons v vs ih =>
    obtain ⟨hv, hvs⟩ := List.forall_mem_cons.1 hws
    rw [snakeFrom_pascalFrom_word hw (head?_pascalFrom_behindFirst hws), List.append_cancel_left_eq,
      List.append_cancel_left_eq, pascalFrom_behindFirst, List.isChain_cons_cons]
    have hmark := mark_getLast?_pascalFrom hw hletter v
    by_cases htold : Told w v
    · rw [if_pos htold] at hmark
      have ih := ih hv hvs htold.1 (pascalFrom true w).getLast?
      rw [hmark] at ih
      rw [← ih]
      exact (and_iff_right htold).symm
    · -- without its boundary the next word follows at once, and it does not begin with an underscore
      rw [if_neg htold] at hmark
      obtain ⟨c, v, rfl⟩ := List.exists_cons_of_ne_nil hv.1
      have hc : c ≠ '_' := ne_underscore_of_wordChar (hv.2 c (List.mem_cons_self ..))
      rw [snakeFrom_pascalFrom_word hv (head?_pascalFrom_behindFirst hvs), hmark]
      simp [behindFirst, hc, htold]

/-- Behind a first word of at least two characters, snake case reads camel case as Pascal case. -/
theorem snake_camel_eq {name : String} {c d : Char} {rest : List Char} (hname : name.toList = c :: d :: rest)
    (hc : isAsciiLower c) (hd : isWordChar d) : snake (camel name) = snake (pascal name) := by
  have hinside : pascalFrom false (d :: rest) = d :: pascalFrom false rest :=
    pascalFrom_append (w := [d]) (by simpa using hd) rest
  have hupper := isAsciiUpper_of_wordChar hd
  rw [snake, snake, camel_eq hname hc, pascal_eq hname hc, String.toList_ofList, String.toList_ofList,
    snakeFrom_none_cons, snakeFrom_none_cons, toAsciiLower_toAsciiUpper hc, toAsciiLower_of_lower hc, hinside,
    snakeFrom, snakeFrom, hupper]
  rfl

end

/-! ### Snake case -/

/-- Snake case leaves no capitals. -/
theorem not_upper_of_mem_snakeFrom {cs : List Char} {prev : Option Char} {d : Char} (hd : d ∈ snakeFrom prev cs) :
    isAsciiUpper d = false := by
  induction cs generalizing prev with
  | nil => cases hd
  | cons c cs ih =>
    unfold snakeFrom at hd
    by_cases hupper : isAsciiUpper c = true
    · have hlower : isWordChar (toAsciiLower c) := by simp [isWordChar, isAsciiLower_toAsciiLower hupper]
      rw [if_pos hupper, List.mem_append] at hd
      rcases hd with hd | hd
      · have hcase : d = '_' ∨ d = toAsciiLower c := by
          split at hd
          · simpa using hd
          · exact .inr (List.mem_singleton.1 hd)
        rcases hcase with rfl | rfl
        · decide
        · exact isAsciiUpper_of_wordChar hlower
      · exact ih hd
    · rw [if_neg hupper] at hd
      rcases List.mem_cons.1 hd with rfl | hd
      · simpa using hupper
      · exact ih hd

theorem snake_snake (s : String) : snake (snake s) = snake s := by
  have hself : snakeFrom none (snakeFrom none s.toList) = snakeFrom none s.toList :=
    snakeFrom_of_not_upper (fun _ => not_upper_of_mem_snakeFrom) none
  rw [snake, snake, String.toList_ofList, hself]

/-- A name comes back from Pascal case exactly if every two neighbouring words of it are told apart, and from camel case
likewise if its first word has at least two characters. Snake case leaves as it is what is in snake case. -/
theorem snake_pascal_exact :
    (∀ (w : List Char) (ws : List (List Char)), (∀ v ∈ w :: ws, IsWord v) → w.head?.any isAsciiLower →
      let name := String.ofList (['_'].intercalate (w :: ws))
      (snake (pascal name) = name ↔ (w :: ws).IsChain Told) ∧
      (2 ≤ w.length → (snake (camel name) = name ↔ (w :: ws).IsChain Told))) ∧
    ∀ s, snake (snake s) = snake s := by
  refine ⟨fun w ws hwords hletter => ?_, snake_snake⟩
  intro name
  obtain ⟨hw, hws⟩ := List.forall_mem_cons.1 hwords
  have hname : name.toList = w ++ behindFirst ws := by
    rw [String.toList_ofList, intercalate_cons]
  have hpascal : snake (pascal name) = name ↔ (w :: ws).IsChain Told := by
    have hmark : mark none w = [] := by simp [mark, boundary]
    rw [← snakeFrom_pascalFrom_eq_iff hw hws hletter none, hmark, List.nil_append, snake, pascal, String.toList_ofList,
      hname, ← String.toList_inj, String.toList_ofList, hname]
  refine ⟨hpascal, fun hlength => ?_⟩
  rcases w with _ | ⟨c, _ | ⟨d, rest⟩⟩
  · simp at hlength
  · simp at hlength
  · have hc : isAsciiLower c := by simpa using hletter
    rw [snake_camel_eq hname hc (hw.2 d (by simp)), hpascal]

/-- The first of two names comes back, a digit after the single letter loses a boundary in the second. -/
theorem snake_pascal_exact_ray :
    snake (pascal "http_v2_x_ray") = "http_v2_x_ray" ∧ snake (camel "http_v2_x_ray") = "http_v2_x_ray" ∧
      snake (pascal "x_y2") ≠ "x_y2" := by
  obtain ⟨hexact, -⟩ := snake_pascal_exact
  have hray := hexact "http".toList ["v2".toList, "x".toList, "ray".toList] (by decide) (by decide)
  have hlost := hexact "x".toList ["y2".toList] (by decide) (by decide)
  exact ⟨hray.1.2 (by decide), (hray.2 (by decide)).2 (by decide), fun h => absurd (hlost.1.1 h) (by decide)⟩

end TapeLang.Name
