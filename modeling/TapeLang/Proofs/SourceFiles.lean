import TapeLang.Settings

/-!
# Which files are sources

A file is a source if its whole name, directories included, is a text that is not empty, a dot and the extension
(`isSource_iff`). For a file in a directory this is a property of its own name except in two cases: a file whose name is
the dot and the extension is a source in every directory but none outside of them, and an extension may have slashes
and then begin in the name of a directory (`isSource_directory_iff`).
-/

namespace TapeLang.Settings

variable {s : Settings} {file directory : String}

/-! ### The end of a name -/

theorem beforeEnding?_eq_some {ending text front : List Char} :
    beforeEnding? ending text = some front ↔ text = front ++ ending := by
  unfold beforeEnding?
  split
  · next hsuffix =>
    obtain ⟨front', rfl⟩ := List.isSuffixOf_iff_suffix.1 hsuffix
    simp
  · next hsuffix =>
    refine iff_of_false (by simp) ?_
    rintro rfl
    exact hsuffix (List.isSuffixOf_iff_suffix.2 (List.suffix_append ..))

theorem isSource_iff_toList :
    s.isSource file = true ↔ ∃ base, base ≠ [] ∧ file.toList = base ++ '.' :: s.extension.toList := by
  unfold isSource
  rw [Option.any_eq_true]
  constructor
  · rintro ⟨front, hfront, hdot⟩
    simp only [Bool.and_eq_true, decide_eq_true_eq] at hdot
    obtain ⟨base, rfl⟩ := List.getLast?_eq_some_iff.1 hdot.1
    refine ⟨base, ?_, ?_⟩
    · rintro rfl
      simp at hdot
    · rw [beforeEnding?_eq_some.1 hfront, List.append_assoc, List.singleton_append]
  · rintro ⟨base, hbase, hfile⟩
    refine ⟨base ++ ['.'], beforeEnding?_eq_some.2 ?_, ?_⟩
    · rw [hfile, List.append_assoc, List.singleton_append]
    · have hlength := List.length_pos_iff.2 hbase
      simp
      omega

/-- A source has a name that is not empty, a dot and the extension. -/
theorem isSource_iff : s.isSource file = true ↔ ∃ base, base ≠ "" ∧ file = base ++ "." ++ s.extension := by
  rw [isSource_iff_toList]
  constructor
  · rintro ⟨base, hbase, hfile⟩
    refine ⟨String.ofList base, by simpa using hbase, String.toList_injective ?_⟩
    rw [hfile]
    simp
  · rintro ⟨base, hbase, rfl⟩
    exact ⟨base.toList, by simpa using hbase, by simp⟩

/-! ### Files in directories -/

/-- The name of the file is the dot and the extension. -/
def HiddenName (s : Settings) (file : String) : Prop := file = "." ++ s.extension

/-- The extension begins in the directory, behind a dot that is not its first character. -/
def ExtensionReaches (s : Settings) (directory file : String) : Prop :=
  ∃ front rest, front ≠ "" ∧ directory = front ++ "." ++ rest ∧ s.extension = rest ++ "/" ++ file

theorem not_isSource_of_hiddenName (h : HiddenName s file) : s.isSource file = false := by
  rw [← Bool.not_eq_true, isSource_iff]
  rintro ⟨base, hbase, hfile⟩
  have hlength := congrArg String.length (h.symm.trans hfile)
  rw [String.append_assoc] at hlength
  exact hbase (by simpa using hlength)

/-- An extension that begins in a directory is longer than the name of the file. -/
theorem not_isSource_of_extensionReaches (h : ExtensionReaches s directory file) : s.isSource file = false := by
  obtain ⟨front, rest, -, -, hextension⟩ := h
  rw [← Bool.not_eq_true, isSource_iff]
  rintro ⟨base, -, hfile⟩
  have hextended := congrArg String.length hextension
  have hlength := congrArg String.length hfile
  simp only [String.length_append] at hextended hlength
  have hslash : "/".length = 1 := rfl
  omega

/-- Where the dot of a source in a directory can be. -/
theorem isSource_join_iff : s.isSource (directory ++ "/" ++ file) = true ↔
    s.isSource file = true ∨ HiddenName s file ∨ ExtensionReaches s directory file := by
  constructor
  · intro h
    obtain ⟨base, hbase, hname⟩ := isSource_iff.1 h
    have hsplit : directory.toList ++ '/' :: file.toList = base.toList ++ '.' :: s.extension.toList := by
      simpa using congrArg String.toList hname
    rcases List.append_eq_append_iff.1 hsplit with ⟨middle, -, hfile⟩ | ⟨middle, hdirectory, hextension⟩
    · -- the dot is behind the slash
      cases middle with
      | nil => simp at hfile
      | cons _ front =>
        obtain ⟨-, hfile⟩ := List.cons_eq_cons.1 hfile
        by_cases hfront : front = []
        · exact .inr (.inl (String.toList_injective (by simp [hfile, hfront])))
        · exact .inl (isSource_iff_toList.2 ⟨front, hfront, hfile⟩)
    · cases middle with
      | nil => simp at hextension
      | cons _ rest =>
        obtain ⟨rfl, hextension⟩ := List.cons_eq_cons.1 hextension
        refine .inr (.inr ⟨base, String.ofList rest, hbase, ?_, ?_⟩) <;> apply String.toList_injective
        · simp [hdirectory]
        · simpa using hextension
  · rintro (h | h | ⟨front, rest, hfront, rfl, hextension⟩)
    · obtain ⟨base, -, rfl⟩ := isSource_iff.1 h
      exact isSource_iff.2 ⟨directory ++ "/" ++ base, by simp, by simp only [String.append_assoc]⟩
    · rw [h]
      exact isSource_iff.2 ⟨directory ++ "/", by simp, by simp only [String.append_assoc]⟩
    · exact isSource_iff.2 ⟨front, hfront, by simp only [hextension, String.append_assoc]⟩

/-- A file is a source if its name is a text that is not empty, a dot and the extension. In a directory it is one, or
none, just as it is outside of it, unless its name is the dot and the extension, or the extension begins in the
directory. -/
theorem isSource_directory_iff (s : Settings) (directory file : String) :
    (s.isSource file = true ↔ ∃ base, base ≠ "" ∧ file = base ++ "." ++ s.extension) ∧
    (s.isSource (directory ++ "/" ++ file) = s.isSource file ↔
      ¬ HiddenName s file ∧ ¬ ExtensionReaches s directory file) := by
  refine ⟨isSource_iff, ?_⟩
  rw [Bool.eq_iff_iff, isSource_join_iff, ← not_or]
  constructor
  · intro h hcases
    have hsource := h.1 (.inr hcases)
    rcases hcases with hname | hreaches
    · simp [not_isSource_of_hiddenName hname] at hsource
    · simp [not_isSource_of_extensionReaches hreaches] at hsource
  · intro h
    exact ⟨(·.resolve_right h), .inl⟩

/-- A hidden file is a source in a directory only, and so is a file whose directory has a part of the extension. -/
theorem isSource_of_directory :
    (Settings.check .default = .ok () ∧
      isSource .default ("x" ++ "/" ++ ".bf") = true ∧ isSource .default ".bf" = false) ∧
    Settings.check { Settings.default with extension := "a/b" } = .ok () ∧
      isSource { Settings.default with extension := "a/b" } ("x.a" ++ "/" ++ "b") = true ∧
      isSource { Settings.default with extension := "a/b" } "b" = false :=
  ⟨⟨rfl, by decide, by decide⟩, rfl, by decide, by decide⟩

end TapeLang.Settings
