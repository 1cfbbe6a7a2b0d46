import TapeLang.Proofs.Batch
import TapeLang.Proofs.Name.Canonical
import TapeLang.Proofs.Reading.Rendered

/-!
# The names of rendered functions

A target declares a function under its name in the casing of the target, with an underscore behind it if it is
reserved there (`declaredName`). Functions of one batch have different names in every casing, casings do not end in an
underscore, and so the declared names are different and none of them is reserved (`declaredNames_legal`). There is one
exception: in a C# class named `TapeSize_`, a function `tape_size` is named like its class.
-/

namespace TapeLang.Code

open Text (isAsciiLower isAsciiUpper isAsciiDigit isAsciiAlphanum)

/-! ### Declarations -/

/-- The name of a function in the casing of a target. -/
def casedName : Target → String → String
  | .rust, name => name
  | .python, name => name
  | .typescript, name => Name.camel name
  | .java, name => Name.camel name
  | .csharp, name => Name.pascal name
  | .go, name => Name.pascal name

/-- The words that a function may not be named with. -/
def reservedWords (t : Target) (o : Options) : List String :=
  match t with
  | .rust => rustKeywords
  | .python => pythonKeywords
  | .typescript => typescriptReserved
  | .java => javaKeywords
  | .csharp => [o.container, "TapeSize"]
  | .go => ["TapeSize"]

/-- The name under which a function is declared. -/
def declaredName (t : Target) (o : Options) (name : String) : String :=
  escapeWord (reservedWords t o) (casedName t name)

/-- The line that declares a function. -/
def declaration (t : Target) (name : String) : Line :=
  match t with
  | .rust => ⟨1, s!"pub fn {name}(input: &str) -> String \x7b"⟩
  | .python => ⟨1, s!"def {name}(input: str = \"\") -> str:"⟩
  | .typescript => ⟨1, "static " ++ name ++ "(input: string = \"\"): string \x7b"⟩
  | .java => ⟨1, s!"public static String {name}(String input) \x7b"⟩
  | .csharp => ⟨1, s!"public static string {name}(string input = \"\")"⟩
  | .go => ⟨0, s!"func {name}(input string) string \x7b"⟩

theorem head?_opening (t : Target) (o : Options) (f : Function) :
    (Reading.opening t o f).head? = some (declaration t (declaredName t o f.name)) := by
  cases t <;> rfl

theorem infix_writeLines_of_mem {unit : String} {l : Line} {lines : List Line} (hl : l ∈ lines) :
    l.text.toList <:+: (writeLines unit lines).toList := by
  have hline : l.text.toList <:+: l.chars unit := by
    unfold Line.chars
    split
    · next hempty => simp [hempty]
    · exact List.infix_append ..
  obtain ⟨before, after, rfl⟩ := List.append_of_mem hl
  rw [writeLines, String.toList_ofList, List.flatMap_append, List.flatMap_cons, ← List.append_assoc]
  exact hline.trans (List.infix_append ..)

/-! ### Escaping -/

section

variable {words : List String} {a b : String}

/-- A name that does not end in an underscore. -/
def Unmarked (name : String) : Prop := name.toList.getLast? ≠ some '_'

theorem not_unmarked_append (a : String) : ¬ Unmarked (a ++ "_") := by
  simp [Unmarked]

theorem escapeWord_cases (words : List String) (a : String) :
    escapeWord words a = a ∧ a ∉ words ∨ escapeWord words a = a ++ "_" ∧ a ∈ words := by
  unfold escapeWord
  by_cases h : a ∈ words <;> simp [h]

/-- Escaping keeps names apart. -/
theorem escapeWord_inj (ha : Unmarked a) (hb : Unmarked b) (h : escapeWord words a = escapeWord words b) : a = b := by
  rcases escapeWord_cases words a with ⟨hea, -⟩ | ⟨hea, -⟩ <;>
    rcases escapeWord_cases words b with ⟨heb, -⟩ | ⟨heb, -⟩ <;> rw [hea, heb] at h
  · exact h
  · exact absurd ha (h ▸ not_unmarked_append b)
  · exact absurd hb (h ▸ not_unmarked_append a)
  · simpa using h

/-- An escaped name is a reserved word only if the word that it escapes stands beside it. -/
theorem mem_of_escapeWord_mem (h : escapeWord words a ∈ words) :
    a ∈ words ∧ escapeWord words a = a ++ "_" := by
  rcases escapeWord_cases words a with ⟨hea, hmem⟩ | ⟨hea, hmem⟩
  · rw [hea] at h
    exact absurd h hmem
  · exact ⟨hmem, hea⟩

end

/-! ### Cased names -/

def isLetter (c : Char) : Bool := isAsciiUpper c || isAsciiLower c

theorem isAlphanum_of_letter {c : Char} (hc : isLetter c) : isAsciiAlphanum c := by
  rw [isAsciiAlphanum, ← isLetter, hc, Bool.true_or]

/-- A letter followed by letters, digits and underscores. -/
def StartsWithLetter (name : String) : Prop :=
  ∃ c rest, name.toList = c :: rest ∧ isLetter c ∧ ∀ d ∈ rest, d = '_' ∨ isAsciiAlphanum d

section

variable {a b : String}

theorem StartsWithLetter.isIdentifier (h : StartsWithLetter a) : Name.isIdentifier a = true := by
  obtain ⟨c, rest, ha, hc, hrest⟩ := h
  have hletter : isAsciiAlphanum c && !isAsciiDigit c :=
    Name.forall_alphanum (p := fun c => isLetter c → isAsciiAlphanum c && !isAsciiDigit c) (by decide)
      (isAlphanum_of_letter hc) hc
  rw [Name.isIdentifier, ha]
  simpa [hletter] using hrest

theorem StartsWithLetter.append (h : StartsWithLetter a) : StartsWithLetter (a ++ "_") := by
  obtain ⟨c, rest, ha, hc, hrest⟩ := h
  refine ⟨c, rest ++ ['_'], by simp [ha], hc, fun d hd => ?_⟩
  rcases List.mem_append.1 hd with hd | hd
  · exact hrest d hd
  · exact .inl (List.mem_singleton.1 hd)

/-- A letter and what else is left of a name in Pascal or camel case. -/
private theorem shape_of_recased {c d : Char} {rest : List Char} (hname : a.toList = c :: rest)
    (ha : Name.Words a.toList) (hd : isLetter d) :
    StartsWithLetter (String.ofList (d :: Name.pascalFrom false rest)) ∧
      Unmarked (String.ofList (d :: Name.pascalFrom false rest)) := by
  have hchars : ∀ e ∈ d :: Name.pascalFrom false rest, isAsciiAlphanum e := by
    refine List.forall_mem_cons.2 ⟨isAlphanum_of_letter hd, fun e he => ?_⟩
    exact Name.isAlphanum_of_mem_pascalFrom (fun c' hc' => ha.mem (hname ▸ List.mem_cons_of_mem _ hc')) he
  refine ⟨⟨d, _, String.toList_ofList, hd, fun e he => .inr (hchars e (List.mem_cons_of_mem _ he))⟩, fun hlast => ?_⟩
  rw [String.toList_ofList] at hlast
  exact absurd (hchars _ (List.mem_of_getLast? hlast)) (by decide)

theorem shape_casedName (t : Target) (ha : Name.Canonical a.toList) :
    StartsWithLetter (casedName t a) ∧ Unmarked (casedName t a) := by
  obtain ⟨hwords, c, rest, hname, hc⟩ := ha
  have hsnake : StartsWithLetter a ∧ Unmarked a := by
    refine ⟨⟨c, rest, hname, by simp [isLetter, hc], fun d hd => ?_⟩, hwords.getLast?_ne⟩
    exact (hwords.mem (hname ▸ List.mem_cons_of_mem _ hd)).imp_right Name.isAlphanum_of_wordChar
  have hcamel : StartsWithLetter (Name.camel a) ∧ Unmarked (Name.camel a) := by
    rw [Name.camel_eq hname hc]
    exact shape_of_recased hname hwords (by simp [isLetter, hc])
  have hpascal : StartsWithLetter (Name.pascal a) ∧ Unmarked (Name.pascal a) := by
    rw [Name.pascal_eq hname hc]
    exact shape_of_recased hname hwords (by simp [isLetter, Name.isAsciiUpper_toAsciiUpper hc])
  cases t with
  | rust => exact hsnake
  | python => exact hsnake
  | typescript => exact hcamel
  | java => exact hcamel
  | csharp => exact hpascal
  | go => exact hpascal

/-- Names with different clash keys are different in every casing. -/
theorem clashKey_of_casedName (t : Target) (ha : Name.Canonical a.toList) (hb : Name.Canonical b.toList)
    (h : casedName t a = casedName t b) : clashKey a = clashKey b := by
  cases t with
  | rust => exact congrArg clashKey h
  | python => exact congrArg clashKey h
  | typescript => exact (Name.camel_eq_iff ha hb).1 h
  | java => exact (Name.camel_eq_iff ha hb).1 h
  | csharp => exact h
  | go => exact h

end

/-! ### Reserved words -/

/-- No declared name is reserved, except for that of a C# function `tape_size` in a class named `TapeSize_`. -/
theorem declared_mem_reservedWords_iff {t : Target} {o : Options} {a : String} :
    escapeWord (reservedWords t o) a ∈ reservedWords t o ↔
      t = .csharp ∧ o.container = "TapeSize_" ∧ escapeWord (reservedWords t o) a = "TapeSize_" := by
  constructor
  · intro h
    obtain ⟨hmem, heq⟩ := mem_of_escapeWord_mem h
    rw [heq] at h ⊢
    -- the words of the fixed tables do not end in an underscore
    have hfixed : ∀ words : List String, (∀ w ∈ words, w.toList.getLast? ≠ some '_') → a ++ "_" ∉ words :=
      fun words hwords h => not_unmarked_append a (hwords _ h)
    cases t with
    | csharp =>
      have hsize : a ++ "_" ≠ "TapeSize" := fun h => hfixed ["TapeSize"] (by decide) (by simp [h])
      have hcontainer : a ++ "_" = o.container := by simpa [reservedWords, hsize] using h
      have ha : a = "TapeSize" := by
        have hne : a ≠ o.container := fun h => by
          simpa using congrArg String.length (h.trans hcontainer.symm)
        simpa [reservedWords, hne] using hmem
      subst ha
      exact ⟨rfl, hcontainer.symm, rfl⟩
    | rust => exact absurd h (hfixed rustKeywords (by decide))
    | python => exact absurd h (hfixed pythonKeywords (by decide))
    | typescript => exact absurd h (hfixed typescriptReserved (by decide))
    | java => exact absurd h (hfixed javaKeywords (by decide))
    | go => exact absurd h (hfixed ["TapeSize"] (by decide))
  · rintro ⟨rfl, hcontainer, hname⟩
    rw [hname]
    simp [reservedWords, hcontainer]

/-! ### Batches -/

section

variable {sources : List Source} {f : Function}

theorem canonical_of_mem (hf : f ∈ (compileAll sources).functions) : Name.Canonical f.name.toList := by
  obtain ⟨s, -, hs⟩ := exists_source_of_mem hf
  obtain ⟨-, name, hname, rfl⟩ := compile_eq_ok.1 hs
  exact Name.canonical_identifier hname

theorem nodup_declaredNames (t : Target) (o : Options) (sources : List Source) :
    ((compileAll sources).functions.map fun f => declaredName t o f.name).Nodup := by
  rw [List.Nodup, List.pairwise_map]
  refine (pairwise_clashKey sources).imp_of_mem fun {f g} hf hg hne heq => hne ?_
  have hf := canonical_of_mem hf
  have hg := canonical_of_mem hg
  have hcased : casedName t f.name = casedName t g.name :=
    escapeWord_inj (shape_casedName t hf).2 (shape_casedName t hg).2 heq
  exact clashKey_of_casedName t hf hg hcased

theorem startsWithLetter_declaredName (t : Target) (o : Options) (hf : f ∈ (compileAll sources).functions) :
    StartsWithLetter (declaredName t o f.name) := by
  have hcased := (shape_casedName t (canonical_of_mem hf)).1
  unfold declaredName
  rcases escapeWord_cases (reservedWords t o) (casedName t f.name) with ⟨heq, -⟩ | ⟨heq, -⟩ <;> rw [heq]
  · exact hcased
  · exact hcased.append

/-- The declaration of a function stands in the rendered file. -/
theorem infix_declaration {t : Target} {o : Options} (hreflow : t = .rust → o.reflow = false) {text : String}
    (htext : render t o (compileAll sources).functions = .ok text) (hf : f ∈ (compileAll sources).functions) :
    (declaration t (declaredName t o f.name)).text.toList <:+: text.toList := by
  obtain ⟨s, -, hs⟩ := exists_source_of_mem hf
  have hfunction := Reading.infix_functionLines hreflow (flattenAll_nest_body hs) hf htext
  have hmem : declaration t (declaredName t o f.name) ∈ Reading.functionLines t o f := by
    simp only [Reading.functionLines, List.mem_append]
    exact .inl (.inl (List.mem_of_head? (head?_opening t o f)))
  exact (infix_writeLines_of_mem hmem).trans hfunction

end

/-- The names under which the functions of a batch are declared: they stand in the rendered file, no two of them are
equal, each is an identifier that begins with a letter, and none is reserved but for a C# function `TapeSize_` in a
class of this name. -/
theorem declaredNames_legal (t : Target) (o : Options) (sources : List Source) :
    let functions := (compileAll sources).functions
    let names := functions.map fun f => declaredName t o f.name
    ((t = .rust → o.reflow = false) → ∀ text, render t o functions = .ok text → ∀ n ∈ names,
      (declaration t n).text.toList <:+: text.toList) ∧
    names.Nodup ∧
    ∀ n ∈ names, Name.isIdentifier n = true ∧ (∃ c, n.toList.head? = some c ∧ isLetter c) ∧
      (n ∈ reservedWords t o ↔ t = .csharp ∧ o.container = "TapeSize_" ∧ n = "TapeSize_") := by
  refine ⟨fun hreflow text htext n hn => ?_, nodup_declaredNames t o sources, fun n hn => ?_⟩ <;>
    obtain ⟨f, hf, rfl⟩ := List.mem_map.1 hn
  · exact infix_declaration hreflow htext hf
  · have hletter := startsWithLetter_declaredName t o hf
    refine ⟨hletter.isIdentifier, ?_, declared_mem_reservedWords_iff⟩
    obtain ⟨c, rest, hname, hc, -⟩ := hletter
    exact ⟨c, by rw [hname, List.head?_cons], hc⟩

/-- The C# class `TapeSize_` with a function `tape_size`: the method is named like its class. -/
theorem declared_name_of_class :
    Name.isIdentifier "TapeSize_" = true ∧
    ∃ f ∈ (compileAll [.ofText "tape_size.bf" ""]).functions,
      declaredName .csharp ⟨"TapeSize_", 256, false, true, "    "⟩ f.name = "TapeSize_" ∧
      "TapeSize_" ∈ reservedWords .csharp ⟨"TapeSize_", 256, false, true, "    "⟩ := by
  have hfunctions : (compileAll [.ofText "tape_size.bf" ""]).functions =
      [⟨"tape_size", "tape_size.bf", Digest.ofText "", []⟩] := rfl
  rw [hfunctions]
  exact ⟨by decide, _, List.mem_singleton_self _, by decide, by decide⟩

end TapeLang.Code
