import TapeLang.Name

/-!
# Canonical names

A canonical name is made of words of lower-case letters and digits, joined by single underscores, and begins with a
letter. Every name that a text gives is canonical (`canonical_identifier`), so it never ends in an underscore
(`Words.getLast?_ne`). Pascal case takes the underscores out of such a name, and camel case differs from it in the
first letter only (`pascal_eq`, `camel_eq`).
-/

namespace TapeLang.Name

open Text (isAsciiLower isAsciiUpper isAsciiDigit isAsciiAlphanum toAsciiLower toAsciiUpper upperOf lowerOf)

/-! ### ASCII letters -/

theorem toNat_lt_of_alphanum {c : Char} (hc : isAsciiAlphanum c) : c.toNat < 128 := by
  have hZ : 'Z'.val.toNat = 90 := rfl
  have hz : 'z'.val.toNat = 122 := rfl
  have h9 : '9'.val.toNat = 57 := rfl
  simp only [isAsciiAlphanum, isAsciiUpper, isAsciiLower, isAsciiDigit, Bool.or_eq_true, Bool.and_eq_true,
    decide_eq_true_eq, Char.le_def, UInt32.le_iff_toNat_le] at hc
  simp only [Char.toNat]
  omega

/-- What holds of the first 128 characters holds of every letter and digit. -/
theorem forall_alphanum {p : Char → Prop} (h : ∀ n < 128, p (Char.ofNat n)) {c : Char} (hc : isAsciiAlphanum c) :
    p c := by
  have := h c.toNat (toNat_lt_of_alphanum hc)
  rwa [Char.ofNat_toNat] at this

/-- A character of a word in snake case. -/
def isWordChar (c : Char) : Bool := isAsciiLower c || isAsciiDigit c

theorem isAlphanum_of_lower {c : Char} (hc : isAsciiLower c) : isAsciiAlphanum c := by
  simp [isAsciiAlphanum, hc]

theorem isAlphanum_of_upper {c : Char} (hc : isAsciiUpper c) : isAsciiAlphanum c := by
  simp [isAsciiAlphanum, hc]

theorem isAlphanum_of_wordChar {c : Char} (hc : isWordChar c) : isAsciiAlphanum c := by
  rcases Bool.or_eq_true_iff.1 hc with hc | hc <;> simp [isAsciiAlphanum, hc]

theorem ne_underscore_of_wordChar {c : Char} (hc : isWordChar c) : c ≠ '_' := by
  rintro rfl
  simp [isWordChar, isAsciiLower, isAsciiDigit] at hc

theorem isAsciiDigit_of_lower {c : Char} (hc : isAsciiLower c) : isAsciiDigit c = false :=
  forall_alphanum (p := fun c => isAsciiLower c → isAsciiDigit c = false) (by decide) (isAlphanum_of_lower hc) hc

theorem isAsciiLower_toAsciiLower {c : Char} (hc : isAsciiUpper c) : isAsciiLower (toAsciiLower c) :=
  forall_alphanum (p := fun c => isAsciiUpper c → isAsciiLower (toAsciiLower c)) (by decide)
    (isAlphanum_of_upper hc) hc

theorem isAsciiUpper_toAsciiUpper {c : Char} (hc : isAsciiLower c) : isAsciiUpper (toAsciiUpper c) :=
  forall_alphanum (p := fun c => isAsciiLower c → isAsciiUpper (toAsciiUpper c)) (by decide)
    (isAlphanum_of_lower hc) hc

theorem isAlphanum_toAsciiUpper {c : Char} (hc : isAsciiAlphanum c) : isAsciiAlphanum (toAsciiUpper c) :=
  forall_alphanum (p := fun c => isAsciiAlphanum c → isAsciiAlphanum (toAsciiUpper c)) (by decide) hc hc

theorem toAsciiLower_toAsciiUpper {c : Char} (hc : isAsciiLower c) : toAsciiLower (toAsciiUpper c) = c :=
  forall_alphanum (p := fun c => isAsciiLower c → toAsciiLower (toAsciiUpper c) = c) (by decide)
    (isAlphanum_of_lower hc) hc

theorem upperOf_of_alphanum {c : Char} (hc : isAsciiAlphanum c) : upperOf c = [toAsciiUpper c] := by
  rw [upperOf, if_pos (toNat_lt_of_alphanum hc)]

theorem lowerOf_of_alphanum {c : Char} (hc : isAsciiAlphanum c) : lowerOf c = [toAsciiLower c] := by
  rw [lowerOf, if_pos (toNat_lt_of_alphanum hc)]

/-! ### Words and names -/

/-- A word of a name in snake case. -/
def IsWord (w : List Char) : Prop :=
  w ≠ [] ∧ ∀ c ∈ w, isWordChar c

instance : DecidablePred IsWord := fun w =>
  decidable_of_iff (w ≠ [] ∧ w.all isWordChar) (by rw [IsWord, List.all_eq_true])

/-- Words joined by single underscores. -/
inductive Words : List Char → Prop where
  | single {w : List Char} (hw : IsWord w) : Words w
  | cons {w rest : List Char} (hw : IsWord w) (hrest : Words rest) : Words (w ++ '_' :: rest)

/-- Words joined by single underscores, the first of which begins with a letter. -/
def Canonical (name : List Char) : Prop :=
  Words name ∧ ∃ c rest, name = c :: rest ∧ isAsciiLower c

namespace Words

variable {a b : List Char}

theorem append (ha : Words a) (hb : Words b) : Words (a ++ '_' :: b) := by
  induction ha with
  | single hw => exact .cons hw hb
  | cons hw _ ih =>
    rw [List.append_assoc, List.cons_append]
    exact .cons hw ih

theorem cons_char {c : Char} (hc : isWordChar c) (h : Words a) : Words (c :: a) := by
  have hword : ∀ {w : List Char}, IsWord w → IsWord (c :: w) := fun hw =>
    ⟨List.cons_ne_nil _ _, List.forall_mem_cons.2 ⟨hc, hw.2⟩⟩
  cases h with
  | single hw => exact .single (hword hw)
  | cons hw hrest => exact .cons (hword hw) hrest

theorem exists_cons (h : Words a) : ∃ c rest, a = c :: rest ∧ isWordChar c := by
  have key : ∀ {w : List Char}, IsWord w → ∃ c rest, w = c :: rest ∧ isWordChar c := fun {w} hw => by
    obtain ⟨c, rest, rfl⟩ := List.exists_cons_of_ne_nil hw.1
    exact ⟨c, rest, rfl, hw.2 c (List.mem_cons_self ..)⟩
  cases h with
  | single hw => exact key hw
  | cons hw _ =>
    obtain ⟨c, rest, rfl, hc⟩ := key hw
    exact ⟨c, _, rfl, hc⟩

theorem mem (h : Words a) {c : Char} (hc : c ∈ a) : c = '_' ∨ isWordChar c := by
  induction h with
  | single hw => exact .inr (hw.2 c hc)
  | cons hw _ ih =>
    rcases List.mem_append.1 hc with hc | hc
    · exact .inr (hw.2 c hc)
    · exact (List.mem_cons.1 hc).elim .inl ih

theorem getLast?_ne (h : Words a) : a.getLast? ≠ some '_' := by
  induction h with
  | single hw =>
    intro hlast
    exact ne_underscore_of_wordChar (hw.2 '_' (List.mem_of_getLast? hlast)) rfl
  | cons hw hrest ih =>
    obtain ⟨c, rest, rfl, -⟩ := hrest.exists_cons
    rw [List.getLast?_append, List.getLast?_cons_cons]
    simpa using ih

/-- Names joined by underscores are a name. -/
theorem intercalate {parts : List (List Char)} (hne : parts ≠ []) (h : ∀ p ∈ parts, Words p) :
    Words (['_'].intercalate parts) := by
  induction parts with
  | nil => exact absurd rfl hne
  | cons p rest ih =>
    cases rest with
    | nil => simpa using h p (List.mem_cons_self ..)
    | cons q rest =>
      rw [List.intercalate_cons_cons, List.append_assoc]
      exact (h p (List.mem_cons_self ..)).append (ih (List.cons_ne_nil _ _) fun r hr => h r (List.mem_cons_of_mem _ hr))

end Words

/-! ### Names from texts -/

theorem mem_wordsFrom {word cs w : List Char} (hword : ∀ c ∈ word, isAsciiAlphanum c) (hw : w ∈ wordsFrom word cs) :
    w ≠ [] ∧ ∀ c ∈ w, isAsciiAlphanum c := by
  fun_induction wordsFrom word cs with
  | case1 => cases hw
  | case2 word hne =>
    obtain rfl := List.mem_singleton.1 hw
    exact ⟨by simpa using hne, by simpa using hword⟩
  | case3 word c cs hc ih => exact ih (List.forall_mem_cons.2 ⟨hc, hword⟩) hw
  | case4 c cs _ ih => exact ih hword hw
  | case5 word c cs _ hne ih =>
    rcases List.mem_cons.1 hw with rfl | hw
    · exact ⟨by simpa using hne, by simpa using hword⟩
    · exact ih (by simp) hw

theorem mem_snakeFrom {cs : List Char} (h : ∀ c ∈ cs, c = '_' ∨ isAsciiAlphanum c) (prev : Option Char) :
    ∀ d ∈ snakeFrom prev cs, d = '_' ∨ isAsciiAlphanum d := by
  induction cs generalizing prev with
  | nil => exact fun _ => (nomatch ·)
  | cons c cs ih =>
    obtain ⟨hc, hcs⟩ := List.forall_mem_cons.1 h
    intro d hd
    unfold snakeFrom at hd
    split at hd
    · next hupper =>
      have hlower := isAlphanum_of_lower (isAsciiLower_toAsciiLower hupper)
      rcases List.mem_append.1 hd with hd | hd
      · split at hd
        · rcases List.mem_cons.1 hd with rfl | hd
          · exact .inl rfl
          · exact .inr (List.mem_singleton.1 hd ▸ hlower)
        · exact .inr (List.mem_singleton.1 hd ▸ hlower)
      · exact ih hcs _ d hd
    · rcases List.mem_cons.1 hd with rfl | hd
      · exact hc
      · exact ih hcs _ d hd

/-- Snake case begins with the first character in lower case. -/
theorem snakeFrom_none_cons (c : Char) (cs : List Char) :
    snakeFrom none (c :: cs) = toAsciiLower c :: snakeFrom (some c) cs := by
  have hboundary : boundary none cs.head? = false := rfl
  rw [snakeFrom]
  split
  · rw [hboundary]
    rfl
  · next hupper => rw [toAsciiLower, if_neg hupper]

/-- Snake case splits a run of letters and digits into words. A boundary may stand in front of its first letter if
something precedes it. -/
theorem exists_words_snakeFrom {cs : List Char} (hne : cs ≠ []) (h : ∀ c ∈ cs, isAsciiAlphanum c)
    (prev : Option Char) :
    ∃ name, Words name ∧ (snakeFrom prev cs = name ∨ prev ≠ none ∧ snakeFrom prev cs = '_' :: name) := by
  induction cs generalizing prev with
  | nil => exact absurd rfl hne
  | cons c cs ih =>
    rw [List.forall_mem_cons] at h
    -- whatever stands for `c`, the words of the rest follow it with or without a boundary
    have hrest : ∀ d, isWordChar d → ∃ name, Words name ∧ d :: snakeFrom (some c) cs = name := by
      intro d hd
      have hsingle : IsWord [d] := ⟨List.cons_ne_nil _ _, by simpa using hd⟩
      cases cs with
      | nil => exact ⟨_, .single hsingle, rfl⟩
      | cons c' cs =>
        obtain ⟨name, hname, heq | ⟨-, heq⟩⟩ := ih (List.cons_ne_nil _ _) h.2 (some c)
        · exact ⟨_, hname.cons_char hd, by rw [heq]⟩
        · exact ⟨_, .cons hsingle hname, by rw [heq]; rfl⟩
    by_cases hupper : isAsciiUpper c = true
    · obtain ⟨name, hname, heq⟩ := hrest (toAsciiLower c) (by simp [isWordChar, isAsciiLower_toAsciiLower hupper])
      refine ⟨name, hname, ?_⟩
      by_cases hboundary : boundary prev cs.head? = true
      · have hprev : prev ≠ none := by
          rintro rfl
          simp [boundary] at hboundary
        right
        simp [snakeFrom, hupper, hboundary, heq, hprev]
      · left
        simp [snakeFrom, hupper, hboundary, heq]
    · obtain ⟨name, hname, heq⟩ := hrest c (by simpa [isWordChar, isAsciiAlphanum, hupper] using h.1)
      exact ⟨name, hname, .inl (by simp [snakeFrom, hupper, heq])⟩

theorem words_snakeFrom_none {cs : List Char} (hne : cs ≠ []) (h : ∀ c ∈ cs, isAsciiAlphanum c) :
    Words (snakeFrom none cs) := by
  obtain ⟨name, hname, heq | ⟨habsurd, -⟩⟩ := exists_words_snakeFrom hne h none
  · rwa [heq]
  · exact absurd rfl habsurd

/-- The words of a text in snake case, joined by underscores. -/
def joined (cs : List Char) : List Char := ['_'].intercalate ((wordsFrom [] cs).map (snakeFrom none))

theorem words_joined {cs : List Char} (hne : joined cs ≠ []) : Words (joined cs) := by
  refine .intercalate ?_ fun p hp => ?_
  · intro hnil
    exact hne (by simp [joined, hnil])
  · obtain ⟨w, hw, rfl⟩ := List.mem_map.1 hp
    obtain ⟨hwne, hchars⟩ := mem_wordsFrom (by simp) hw
    exact words_snakeFrom_none hwne hchars

/-- The name of a text is its words, behind `bf_` if they begin with a digit. -/
theorem identifierChars_eq (cs : List Char) :
    identifierChars cs = (if (joined cs).head?.any isAsciiDigit then ['b', 'f', '_'] else []) ++ joined cs := by
  unfold identifierChars
  rw [← joined]
  cases joined cs with
  | nil => rfl
  | cons c rest =>
    rw [List.head?_cons, Option.any_some]
    by_cases hdigit : isAsciiDigit c = true <;> simp [hdigit]

theorem identifierChars_eq_nil_iff_joined {cs : List Char} : identifierChars cs = [] ↔ joined cs = [] := by
  rw [identifierChars_eq, List.append_eq_nil_iff]
  constructor
  · exact And.right
  · intro h
    simp [h]

theorem canonical_identifierChars {cs : List Char} (hne : identifierChars cs ≠ []) :
    Canonical (identifierChars cs) := by
  have hname := words_joined fun h => hne (identifierChars_eq_nil_iff_joined.2 h)
  rw [identifierChars_eq]
  obtain ⟨c, rest, hcons, hchar⟩ := hname.exists_cons
  rw [hcons] at hname ⊢
  rw [List.head?_cons, Option.any_some]
  by_cases hdigit : isAsciiDigit c = true
  · rw [if_pos hdigit]
    have hfront : IsWord ['b', 'f'] := ⟨List.cons_ne_nil _ _, by simp [isWordChar, isAsciiLower]⟩
    exact ⟨.cons hfront hname, _, _, rfl, by decide⟩
  · rw [if_neg hdigit]
    exact ⟨hname, _, _, rfl, by simpa [isWordChar, hdigit] using hchar⟩

/-- The name that a text gives is canonical. -/
theorem canonical_identifier {text name : String} (h : identifier? text = some name) : Canonical name.toList := by
  unfold identifier? at h
  split at h
  · cases h
  · next hne =>
    obtain rfl := Option.some.inj h
    rw [String.toList_ofList]
    exact canonical_identifierChars hne

/-! ### Casings of canonical names -/

/-- Pascal case has no underscores. -/
theorem isAlphanum_of_mem_pascalFrom {cs : List Char} (h : ∀ c ∈ cs, c = '_' ∨ isWordChar c) {fresh : Bool} {d : Char}
    (hd : d ∈ pascalFrom fresh cs) : isAsciiAlphanum d := by
  induction cs generalizing fresh with
  | nil => cases hd
  | cons c cs ih =>
    obtain ⟨hc, hcs⟩ := List.forall_mem_cons.1 h
    unfold pascalFrom at hd
    split at hd
    · exact ih hcs hd
    · next hunderscore =>
      have hchar := isAlphanum_of_wordChar (hc.resolve_left hunderscore)
      split at hd
      · rw [upperOf_of_alphanum hchar, List.singleton_append] at hd
        rcases List.mem_cons.1 hd with rfl | hd
        · exact isAlphanum_toAsciiUpper hchar
        · exact ih hcs hd
      · rcases List.mem_cons.1 hd with rfl | hd
        · exact hchar
        · exact ih hcs hd

variable {name : String} {c : Char} {rest : List Char}

theorem pascalFrom_true_cons (hc : isWordChar c) (rest : List Char) :
    pascalFrom true (c :: rest) = toAsciiUpper c :: pascalFrom false rest := by
  rw [pascalFrom, if_neg (ne_underscore_of_wordChar hc), if_pos rfl, upperOf_of_alphanum (isAlphanum_of_wordChar hc),
    List.singleton_append]

/-- Pascal case puts the first letter in upper case. -/
theorem pascal_eq (hname : name.toList = c :: rest) (hc : isAsciiLower c) :
    pascal name = String.ofList (toAsciiUpper c :: pascalFrom false rest) := by
  rw [pascal, hname, pascalFrom_true_cons (by simp [isWordChar, hc])]

/-- Camel case leaves the first letter in lower case. -/
theorem camel_eq (hname : name.toList = c :: rest) (hc : isAsciiLower c) :
    camel name = String.ofList (c :: pascalFrom false rest) := by
  have hpascal : pascalFrom true name.toList = toAsciiUpper c :: pascalFrom false rest := by
    rw [← String.toList_ofList (l := pascalFrom true name.toList), ← pascal, pascal_eq hname hc, String.toList_ofList]
  have hlower : lowerOf (toAsciiUpper c) = [c] := by
    rw [lowerOf_of_alphanum (isAlphanum_of_upper (isAsciiUpper_toAsciiUpper hc)), toAsciiLower_toAsciiUpper hc]
  rw [camel, hpascal]
  simp only [hlower, List.singleton_append]

/-- Camel case keeps apart what Pascal case does. -/
theorem camel_eq_iff {a b : String} (ha : Canonical a.toList) (hb : Canonical b.toList) :
    camel a = camel b ↔ pascal a = pascal b := by
  obtain ⟨-, c, rest, hac, hc⟩ := ha
  obtain ⟨-, d, rest', hbd, hd⟩ := hb
  rw [camel_eq hac hc, camel_eq hbd hd, pascal_eq hac hc, pascal_eq hbd hd]
  constructor
  · intro h
    obtain ⟨rfl, hrest⟩ := List.cons.inj (String.ofList_injective h)
    rw [hrest]
  · intro h
    obtain ⟨hcapital, hrest⟩ := List.cons.inj (String.ofList_injective h)
    have hletter := congrArg toAsciiLower hcapital
    rw [toAsciiLower_toAsciiUpper hc, toAsciiLower_toAsciiUpper hd] at hletter
    rw [hletter, hrest]

end TapeLang.Name
