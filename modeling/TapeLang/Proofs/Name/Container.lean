import TapeLang.Settings
import TapeLang.Proofs.SourceNames

/-!
# The names of containers

A container is declared in a line of its own under the name in its settings, which Rust writes in snake case and Go in
lower case (`containerName`). The check of the settings makes sure that this is an identifier in every target, but only
Rust puts an underscore behind a keyword: every other target has a container that passes the check and is declared
under a keyword (`never_keyword_iff`). In Rust the one name that passes and may not be declared is the underscore, with
which no Rust code can be laid out.
-/

namespace TapeLang.Code

def csharpKeywords : List String := [
  "abstract", "as", "base", "bool", "break", "byte", "case", "catch", "char", "checked", "class", "const", "continue",
  "decimal", "default", "delegate", "do", "double", "else", "enum", "event", "explicit", "extern", "false", "finally",
  "fixed", "float", "for", "foreach", "goto", "if", "implicit", "in", "int", "interface", "internal", "is", "lock",
  "long", "namespace", "new", "null", "object", "operator", "out", "override", "params", "private", "protected",
  "public", "readonly", "ref", "return", "sbyte", "sealed", "short", "sizeof", "stackalloc", "static", "string",
  "struct", "switch", "this", "throw", "true", "try", "typeof", "uint", "ulong", "unchecked", "unsafe", "ushort",
  "using", "virtual", "void", "volatile", "while"]

def goKeywords : List String := [
  "break", "case", "chan", "const", "continue", "default", "defer", "else", "fallthrough", "for", "func", "go", "goto",
  "if", "import", "interface", "map", "package", "range", "return", "select", "struct", "switch", "type", "var"]

/-- The reserved words of TypeScript, with those that are reserved in modules and classes only. -/
def typescriptKeywords : List String := [
  "await", "break", "case", "catch", "class", "const", "continue", "debugger", "default", "delete", "do", "else",
  "enum", "export", "extends", "false", "finally", "for", "function", "if", "implements", "import", "in", "instanceof",
  "interface", "let", "new", "null", "package", "private", "protected", "public", "return", "static", "super", "switch",
  "this", "throw", "true", "try", "typeof", "var", "void", "while", "with", "yield"]

/-- The keywords of a target. -/
def keywordsOf : Target → List String
  | .rust => rustKeywords
  | .python => pythonKeywords
  | .java => javaKeywords
  | .csharp => csharpKeywords
  | .go => goKeywords
  | .typescript => typescriptKeywords

/-- The name of a container in the casing of a target. -/
def casedContainer : Target → String → String
  | .rust, container => Name.snake container
  | .go, container => Text.lower container
  | _, container => container

/-- The name under which a container is declared. -/
def containerName (t : Target) (container : String) : String :=
  match t with
  | .rust => escapeWord rustKeywords (casedContainer .rust container)
  | t => casedContainer t container

/-- The line that declares a container. -/
def containerLine (t : Target) (name : String) : String :=
  match t with
  | .rust => "pub mod " ++ name ++ " \x7b"
  | .python => "class " ++ name ++ ":"
  | .csharp => spacedWord "public static class" name
  | .go => spacedWord "package" name
  | .java => spacedWord "public final class" name ++ " \x7b"
  | .typescript => "export class " ++ name ++ " \x7b"

/-! ### Identifiers in other casings -/

section

variable {a : String} {c : Char} {cs : List Char}

theorem isIdentifier_iff : Name.isIdentifier a = true ↔ ∃ c rest, a.toList = c :: rest ∧
    (c = '_' ∨ Text.isAsciiAlphanum c ∧ Text.isAsciiDigit c = false) ∧
    ∀ d ∈ rest, d = '_' ∨ Text.isAsciiAlphanum d := by
  unfold Name.isIdentifier
  cases a.toList with
  | nil => simp
  | cons c rest => simp

/-- Lower case keeps what may stand in an identifier, and what may begin one. -/
theorem identifierChar_toAsciiLower (hc : c = '_' ∨ Text.isAsciiAlphanum c) :
    (Text.toAsciiLower c = '_' ∨ Text.isAsciiAlphanum (Text.toAsciiLower c)) ∧
      (Text.isAsciiDigit c = false → Text.isAsciiDigit (Text.toAsciiLower c) = false) := by
  rcases hc with rfl | hc
  · decide
  · exact Name.forall_alphanum (p := fun c => Text.isAsciiAlphanum c →
      (Text.toAsciiLower c = '_' ∨ Text.isAsciiAlphanum (Text.toAsciiLower c)) ∧
      (Text.isAsciiDigit c = false → Text.isAsciiDigit (Text.toAsciiLower c) = false)) (by decide) hc hc

/-- On the characters of identifiers lower case is that of ASCII. -/
theorem lowerFrom_eq (h : ∀ c ∈ cs, c = '_' ∨ Text.isAsciiAlphanum c) (before : List Char) :
    Text.lowerFrom before cs = cs.map Text.toAsciiLower := by
  have hlower : ∀ {c : Char}, c = '_' ∨ Text.isAsciiAlphanum c → c ≠ 'Σ' ∧ Text.lowerOf c = [Text.toAsciiLower c] := by
    rintro c (rfl | hc)
    · decide
    · refine ⟨?_, Name.lowerOf_of_alphanum hc⟩
      rintro rfl
      revert hc
      decide
  induction cs generalizing before with
  | nil => rfl
  | cons c cs ih =>
    rw [List.forall_mem_cons] at h
    obtain ⟨hsigma, hc⟩ := hlower h.1
    rw [Text.lowerFrom, if_neg hsigma, hc, ih h.2, List.map_cons, List.singleton_append]

/-- Both casings of an identifier begin with its first character in lower case. -/
private theorem isIdentifier_of_lower {rest : List Char} {b : String}
    (hb : b.toList = Text.toAsciiLower c :: rest) (hc : c = '_' ∨ Text.isAsciiAlphanum c ∧ Text.isAsciiDigit c = false)
    (hrest : ∀ d ∈ rest, d = '_' ∨ Text.isAsciiAlphanum d) : Name.isIdentifier b = true := by
  obtain ⟨hlower, hdigit⟩ := identifierChar_toAsciiLower (hc.imp_right (·.1))
  refine isIdentifier_iff.2 ⟨_, rest, hb, ?_, hrest⟩
  rcases hc with rfl | ⟨-, hc⟩
  · decide
  · exact hlower.imp_right fun h => ⟨h, hdigit hc⟩

theorem isIdentifier_snake (h : Name.isIdentifier a = true) : Name.isIdentifier (Name.snake a) = true := by
  obtain ⟨c, rest, ha, hc, hrest⟩ := isIdentifier_iff.1 h
  have hsnake : (Name.snake a).toList = Text.toAsciiLower c :: Name.snakeFrom (some c) rest := by
    rw [Name.snake, ha, Name.snakeFrom_none_cons, String.toList_ofList]
  exact isIdentifier_of_lower hsnake hc (Name.mem_snakeFrom hrest _)

theorem isIdentifier_lower (h : Name.isIdentifier a = true) : Name.isIdentifier (Text.lower a) = true := by
  obtain ⟨c, rest, ha, hc, hrest⟩ := isIdentifier_iff.1 h
  have hlower : (Text.lower a).toList = Text.toAsciiLower c :: rest.map Text.toAsciiLower := by
    rw [Text.lower, ha, String.toList_ofList, lowerFrom_eq (List.forall_mem_cons.2 ⟨hc.imp_right (·.1), hrest⟩),
      List.map_cons]
  refine isIdentifier_of_lower hlower hc (List.forall_mem_map.2 fun d hd => ?_)
  exact (identifierChar_toAsciiLower (hrest d hd)).1

theorem isIdentifier_escapeWord (words : List String) (h : Name.isIdentifier a = true) :
    Name.isIdentifier (escapeWord words a) = true := by
  rcases escapeWord_cases words a with ⟨heq, -⟩ | ⟨heq, -⟩ <;> rw [heq]
  · exact h
  · obtain ⟨c, rest, ha, hc, hrest⟩ := isIdentifier_iff.1 h
    refine isIdentifier_iff.2 ⟨c, rest ++ ['_'], by simp [ha], hc, List.forall_mem_append.2 ⟨hrest, ?_⟩⟩
    exact List.forall_mem_singleton.2 (.inl rfl)

theorem isIdentifier_containerName (t : Target) (h : Name.isIdentifier a = true) :
    Name.isIdentifier (containerName t a) = true := by
  cases t with
  | rust => exact isIdentifier_escapeWord rustKeywords (isIdentifier_snake h)
  | go => exact isIdentifier_lower h
  | _ => exact h

theorem unbroken_of_isIdentifier (h : Name.isIdentifier a = true) : Unbroken a := by
  obtain ⟨c, rest, ha, hc, hrest⟩ := isIdentifier_iff.1 h
  rw [Unbroken, ha]
  intro hfeed
  have hchar : ('\n' = '_') ∨ Text.isAsciiAlphanum '\n' :=
    (List.forall_mem_cons.2 ⟨hc.imp_right (·.1), hrest⟩ : ∀ d ∈ c :: rest, d = '_' ∨ Text.isAsciiAlphanum d) _ hfeed
  revert hchar
  decide

end

/-! ### Keywords -/

/-- A container is declared under a keyword if its name in the casing of the target is one, except in Rust, where it
never is. -/
theorem containerName_mem_keywordsOf_iff {t : Target} {container : String} :
    containerName t container ∈ keywordsOf t ↔ t ≠ .rust ∧ casedContainer t container ∈ keywordsOf t := by
  cases t with
  | rust =>
    have hescaped : escapeWord rustKeywords (Name.snake container) ∉ rustKeywords := by
      intro h
      obtain ⟨-, heq⟩ := mem_of_escapeWord_mem h
      have hmarked : ∀ w ∈ rustKeywords, w.toList.getLast? ≠ some '_' := by decide
      exact not_unmarked_append _ (heq ▸ hmarked _ h)
    exact iff_of_false hescaped fun h => h.1 rfl
  | _ => exact ⟨fun h => ⟨by decide, h⟩, And.right⟩

theorem isIdentifier_of_check {s : Settings} (h : s.check = .ok ()) : Name.isIdentifier s.container = true := by
  unfold Settings.check at h
  split at h
  · cases h
  · split at h
    · cases h
    · next hcontainer => simpa using hcontainer

/-- Rust is the one target whose containers are never declared under a keyword if their settings pass the check. -/
theorem never_keyword_iff {t : Target} :
    (∀ s : Settings, s.target = t → s.check = .ok () → containerName t s.container ∉ keywordsOf t) ↔ t = .rust := by
  constructor
  · intro h
    by_contra ht
    have hname : ∀ word, Name.isIdentifier word = true → containerName t word ∉ keywordsOf t := fun word hword =>
      h ⟨t, word, 1, "bf", true, true⟩ rfl (by simp [Settings.check, hword])
    cases t with
    | rust => exact ht rfl
    | go => exact hname "func" (by decide) (by decide +kernel)
    | _ => exact hname "class" (by decide) (by decide)
  · rintro rfl s - - hmem
    exact (containerName_mem_keywordsOf_iff.1 hmem).1 rfl

/-- The Rust module is the underscore only if the container is. -/
theorem containerName_rust_eq_underscore_iff {container : String} (h : Name.isIdentifier container = true) :
    containerName .rust container = "_" ↔ container = "_" := by
  constructor
  · intro hname
    by_contra hne
    have hkeyword := ((varies_container h).2 hne).notKeyword
    have hunderscore : escapeWord rustKeywords (Name.snake container) = "_" := hname
    rw [hunderscore] at hkeyword
    revert hkeyword
    decide
  · rintro rfl
    decide

/-! ### The line of a container -/

section

variable {cs : List Char} {line : List Char} {unit : String} {o : Options} {functions : List Function}

/-- A line that follows another one, and is followed by others. -/
theorem mem_splitOn_between (hline : '\n' ∉ line) (front back : List Char) :
    line ∈ (front ++ '\n' :: (line ++ '\n' :: back)).splitOn '\n' := by
  rw [List.splitOn_append_cons_self, List.splitOn_append_cons_self, List.splitOn_eq_singleton hline]
  simp

theorem mem_splitOn_first (hline : '\n' ∉ line) (back : List Char) : line ∈ (line ++ '\n' :: back).splitOn '\n' := by
  rw [List.splitOn_append_cons_self, List.splitOn_eq_singleton hline]
  simp

/-- Lines of code in front of a text keep its lines. -/
theorem mem_splitOn_append_of_mem (lines : List Line) (h : line ∈ cs.splitOn '\n') :
    line ∈ (lines.flatMap (·.chars unit) ++ cs).splitOn '\n' := by
  induction lines with
  | nil => exact h
  | cons l lines ih =>
    obtain ⟨text, htext⟩ := exists_chars_eq_concat unit l
    rw [List.flatMap_cons, htext, List.append_assoc, List.append_assoc, List.singleton_append,
      List.splitOn_append_cons_self]
    exact List.mem_append_right _ ih

theorem mem_splitOn_withHeader {text : String} (marker : String) (h : line ∈ text.toList.splitOn '\n') :
    line ∈ (withHeader o marker functions text).toList.splitOn '\n' := by
  rw [withHeader, String.toList_append, writeLines, String.toList_ofList]
  exact mem_splitOn_append_of_mem _ h

/-- A line of code without an indent is a line of the text. -/
theorem mem_splitOn_writeLines {l : Line} {lines : List Line} (hl : l ∈ lines) (hdepth : l.depth = 0)
    (hne : l.text ≠ "") (hunbroken : Unbroken l.text) :
    l.text.toList ∈ (writeLines unit lines).toList.splitOn '\n' := by
  obtain ⟨before, after, rfl⟩ := List.append_of_mem hl
  have hchars : l.chars unit = l.text.toList ++ ['\n'] := by simp [Line.chars, hne, hdepth]
  rw [writeLines, String.toList_ofList, List.flatMap_append, List.flatMap_cons, hchars, List.append_assoc,
    List.singleton_append]
  exact mem_splitOn_append_of_mem before (mem_splitOn_first hunbroken _)

theorem unbroken_containerLine (t : Target) {name : String} (h : Unbroken name) : Unbroken (containerLine t name) := by
  have hword : ∀ {front : String}, Unbroken front → Unbroken (spacedWord front name) := by
    intro front hfront
    unfold spacedWord
    split
    · exact hfront
    · exact .append (.append hfront (by decide)) h
  cases t <;> dsimp only [containerLine]
  case csharp => exact hword (by decide)
  case go => exact hword (by decide)
  case java => exact .append (hword (by decide)) (by decide)
  all_goals exact .append (.append (by decide) h) (by decide)

theorem containerLine_ne_empty (t : Target) (name : String) : containerLine t name ≠ "" := by
  have hword : ∀ {front : String}, front ≠ "" → spacedWord front name ≠ "" := by
    intro front hfront
    unfold spacedWord
    split
    · exact hfront
    · simp
  cases t <;> dsimp only [containerLine]
  case csharp => exact hword (by decide)
  case go => exact hword (by decide)
  all_goals simp

theorem containerLine_mem_fileLines {t : Target} (ht : t ≠ .typescript) :
    ⟨0, containerLine t (containerName t o.container)⟩ ∈ fileLines t o functions := by
  cases t with
  | rust => exact List.mem_cons_self ..
  | python => exact List.mem_append_left _ (List.mem_of_getElem? (i := 3) rfl)
  | csharp => exact List.mem_cons_self ..
  | go => exact List.mem_cons_self ..
  | java => exact List.mem_cons_self ..
  | typescript => exact absurd rfl ht

/-- A class template declares its container in a line of its own. -/
theorem containerLine_mem_typescript {text : String} (hline : Unbroken o.container)
    (h : render .typescript o functions = .ok text) :
    (containerLine .typescript (containerName .typescript o.container)).toList ∈ text.toList.splitOn '\n' := by
  have hmodule : Template.render (typescriptContext o functions) = .ok text := by
    rw [render] at h
    cases hresult : Template.render (typescriptContext o functions) with
    | error e => simp [hresult] at h
    | ok module => simpa [hresult] using h
  rw [Template.render_eq] at hmodule
  obtain ⟨top, -, hrest⟩ := bind_eq_ok.1 hmodule
  obtain ⟨items, -, hrest⟩ := bind_eq_ok.1 hrest
  obtain ⟨body, -, htext⟩ := bind_eq_ok.1 hrest
  obtain rfl := Except.ok.inj htext
  have hcontainer : Value.written ((typescriptContext o functions).field? "container") = o.container := by
    simp [typescriptContext, Value.field?, Value.written]
  have hbetween := mem_splitOn_between (unbroken_containerLine .typescript hline)
    (top ++ "export const TAPE_SIZE = " ++ Value.written ((typescriptContext o functions).field? "tape_size") ++
      ";\n").toList (body ++ "\x7d\n").toList
  rw [hcontainer]
  simpa [containerLine, containerName, casedContainer] using hbetween

/-- Rust code in the standard layout begins with the line of its module. -/
theorem layout_headTokens (name : String) (rest : List Reflow.Token) :
    ∃ back, Reflow.layout (Reflow.headTokens name ++ (Reflow.attributeTokens ++ rest)) =
      (containerLine .rust name).toList ++ '\n' :: back := by
  have hrows : Reflow.rowsFrom 0 0 [] (Reflow.headTokens name ++ (Reflow.attributeTokens ++ rest)) =
      ⟨0, Reflow.headTokens name⟩ :: Reflow.rowsFrom 1 0 [] (Reflow.attributeTokens ++ rest) := rfl
  have hchars : Reflow.rowChars none (Reflow.headTokens name) =
      "pub mod ".toList ++ (name.toList ++ " \x7b".toList) := by
    have hbrace : Reflow.rowChars (some (Reflow.nameToken name)) [.opening .brace] = " \x7b".toList := rfl
    rw [← hbrace]
    rfl
  have hline : Reflow.rowLines ⟨0, Reflow.headTokens name⟩ = (containerLine .rust name).toList ++ ['\n'] := by
    have hfunction : Reflow.beginsFunction (Reflow.headTokens name) = false := rfl
    rw [Reflow.rowLines]
    simp only [hfunction, Bool.false_and, Bool.false_eq_true, if_false, hchars]
    simp [Reflow.spaces, containerLine]
  refine ⟨(Reflow.rowsFrom 1 0 [] (Reflow.attributeTokens ++ rest)).flatMap Reflow.rowLines, ?_⟩
  rw [Reflow.layout, hrows, List.flatMap_cons, hline, List.append_assoc, List.singleton_append]

end

/-! ### Rendered batches -/

section

variable {sources : List Source} {o : Options}

/-- The code of a batch is laid out behind the line of its module, unless the module is the underscore. -/
theorem exists_reflow_module (hcontainer : Name.isIdentifier o.container = true)
    (hindent : ∀ c ∈ o.indent.toList, Reflow.isSpace c)
    (hsources : ∀ f ∈ (compileAll sources).functions, '\n' ∉ f.source.toList) :
    ∃ back, Reflow.reflow (writeLines o.indent (rustModule o (compileAll sources).functions)) =
      if o.container = "_" then .error (.expected (.identifierNot ['_']) false)
      else .ok (String.ofList ((containerLine .rust (containerName .rust o.container)).toList ++ '\n' :: back)) := by
  obtain ⟨ts, ⟨rest, hts⟩, hbalanced, hcheck, -, hspells⟩ := @exists_batchTokens sources o hcontainer
  have hreflow := (hspells _ (List.forall₂_same.2 fun _ _ => ⟨rfl, rfl⟩) hsources).reflow_eq hbalanced hindent
  obtain ⟨back, hback⟩ := layout_headTokens (escapeWord rustKeywords (Name.snake o.container)) rest
  refine ⟨back, ?_⟩
  rw [hreflow]
  split
  · next hunderscore =>
    have hname : escapeWord rustKeywords (Name.snake o.container) = "_" :=
      (containerName_rust_eq_underscore_iff hcontainer).2 hunderscore
    rw [hts, hname, Reflow.checkFile_of_isKeyword (by decide)]
    rfl
  · next hne =>
    rw [hcheck hne, hts, hback]
    rfl

/-- The line of the container stands in the file of a batch. -/
theorem containerLine_mem_render {t : Target} (hcontainer : Name.isIdentifier o.container = true)
    (hindent : ∀ c ∈ o.indent.toList, Reflow.isSpace c)
    (hsources : ∀ f ∈ (compileAll sources).functions, '\n' ∉ f.source.toList) {text : String}
    (h : render t o (compileAll sources).functions = .ok text) :
    (containerLine t (containerName t o.container)).toList ∈ text.toList.splitOn '\n' := by
  have hunbroken : Unbroken (containerLine t (containerName t o.container)) :=
    unbroken_containerLine t (unbroken_of_isIdentifier (isIdentifier_containerName t hcontainer))
  by_cases ht : t = .typescript
  · subst ht
    exact containerLine_mem_typescript (unbroken_of_isIdentifier hcontainer) h
  by_cases hrust : t = .rust ∧ o.reflow = true
  · obtain ⟨rfl, hlayout⟩ := hrust
    obtain ⟨back, hreflow⟩ := exists_reflow_module hcontainer hindent hsources
    rw [render_rust, if_pos hlayout, hreflow] at h
    split at h
    · cases h
    · obtain rfl := Except.ok.inj h
      refine mem_splitOn_withHeader "//" ?_
      rw [String.toList_ofList]
      exact mem_splitOn_first hunbroken back
  · have hplain : t = .rust → o.reflow = false := fun h => by simpa [h] using hrust
    rw [render_eq ht hplain] at h
    obtain rfl := Except.ok.inj h
    exact mem_splitOn_withHeader _ <|
      mem_splitOn_writeLines (containerLine_mem_fileLines ht) rfl (containerLine_ne_empty t _) hunbroken

/-- Rendering fails for Rust code that is to be laid out in a module named by the underscore only. -/
theorem exists_render_iff {t : Target} (hcontainer : Name.isIdentifier o.container = true)
    (hindent : ∀ c ∈ o.indent.toList, Reflow.isSpace c)
    (hsources : ∀ f ∈ (compileAll sources).functions, '\n' ∉ f.source.toList)
    (hlength : t = .typescript → ∀ f ∈ (compileAll sources).functions, f.body.length < 2 ^ 62) :
    (∃ text, render t o (compileAll sources).functions = .ok text) ↔
      ¬(t = .rust ∧ o.reflow = true ∧ o.container = "_") := by
  have hbody : ∀ f ∈ (compileAll sources).functions, flattenAll (nest f.body) = f.body := fun f hf => by
    obtain ⟨s, -, hs⟩ := exists_source_of_mem hf
    exact flattenAll_nest_body hs
  by_cases ht : t = .typescript
  · subst ht
    exact iff_of_true (Reading.exists_render (nomatch ·) hbody (hlength rfl)) (nomatch ·.1)
  by_cases hrust : t = .rust ∧ o.reflow = true
  · obtain ⟨rfl, hlayout⟩ := hrust
    obtain ⟨back, hreflow⟩ := exists_reflow_module hcontainer hindent hsources
    rw [render]
    simp only [hlayout, if_true, hreflow]
    by_cases hunderscore : o.container = "_" <;> simp [hunderscore]
  · have hplain : t = .rust → o.reflow = false := fun h => by simpa [h] using hrust
    exact iff_of_true ⟨_, render_eq ht hplain _⟩ fun h => hrust ⟨h.1, h.2.1⟩

end

/-- Under settings that pass the check the container is declared in a line of the file, under an identifier. This
is a keyword of the target exactly if the target is not Rust and the name in the casing of the target is a keyword; in
Rust it is the underscore exactly if the settings say so, and then, and only then, no file is rendered in the standard
layout. -/
theorem container_declared {s : Settings} (hs : s.check = .ok ()) {sources : List Source}
    (hsources : ∀ f ∈ (compileAll sources).functions, '\n' ∉ f.source.toList) :
    let functions := (compileAll sources).functions
    let name := containerName s.target s.container
    (∀ text, render s.target s.options functions = .ok text →
      (containerLine s.target name).toList ∈ text.toList.splitOn '\n') ∧
    Name.isIdentifier name = true ∧
    (name ∈ keywordsOf s.target ↔ s.target ≠ .rust ∧ casedContainer s.target s.container ∈ keywordsOf s.target) ∧
    (s.target = .rust → (name = "_" ↔ s.container = "_")) ∧
    ((s.target = .typescript → ∀ f ∈ functions, f.body.length < 2 ^ 62) →
      ((∃ text, render s.target s.options functions = .ok text) ↔
        ¬(s.target = .rust ∧ s.autoFormat = true ∧ s.container = "_"))) := by
  have hcontainer := isIdentifier_of_check hs
  have hindent : ∀ c ∈ s.options.indent.toList, Reflow.isSpace c :=
    List.all_eq_true.1 (by decide : Options.standard.indent.toList.all Reflow.isSpace = true)
  refine ⟨fun text => containerLine_mem_render hcontainer hindent hsources,
    isIdentifier_containerName s.target hcontainer, containerName_mem_keywordsOf_iff, fun ht => ?_,
    exists_render_iff hcontainer hindent hsources⟩
  rw [ht]
  exact containerName_rust_eq_underscore_iff hcontainer

/-- A Rust module that is named by a keyword in the settings. -/
theorem container_declared_of_type :
    let s : Settings := ⟨.rust, "Type", 256, "bf", true, true⟩
    ∃ text, render .rust s.options (compileAll [.ofText "a.bf" "+"]).functions = .ok text ∧
      "pub mod type_ \x7b".toList ∈ text.toList.splitOn '\n' := by
  intro s
  have hs : s.check = .ok () := by simp [s, Settings.check, (by decide : Name.isIdentifier "Type" = true)]
  obtain ⟨hline, -, -, -, hrender⟩ := @container_declared s hs [.ofText "a.bf" "+"] (by decide)
  obtain ⟨text, htext⟩ := (hrender (nomatch ·)).2 fun h => absurd h.2.2 (by decide)
  have hname : containerLine .rust (containerName .rust "Type") = "pub mod type_ \x7b" := by decide
  rw [← hname]
  exact ⟨text, htext, hline text htext⟩

/-- Settings that pass the check and do not give a legal name: a Python class named by a keyword, and a Rust module
named by the underscore, which cannot be laid out. -/
theorem container_illegal :
    let python : Settings := ⟨.python, "class", 256, "bf", false, true⟩
    let rust : Settings := ⟨.rust, "_", 256, "bf", false, true⟩
    let functions := (compileAll [.ofText "a.bf" "+"]).functions
    (python.check = .ok () ∧ "class" ∈ keywordsOf .python ∧
      ∃ text, render .python python.options functions = .ok text ∧ "class class:".toList ∈ text.toList.splitOn '\n') ∧
    rust.check = .ok () ∧
      render .rust rust.options functions = .error (.layout (.expected (.identifierNot ['_']) false)) := by
  intro python rust functions
  have hpython : python.check = .ok () := by
    simp [python, Settings.check, (by decide : Name.isIdentifier "class" = true)]
  have hrust : rust.check = .ok () := by simp [rust, Settings.check, (by decide : Name.isIdentifier "_" = true)]
  have hindent : ∀ c ∈ Options.standard.indent.toList, Reflow.isSpace c := List.all_eq_true.1 (by decide)
  have hsources : ∀ f ∈ functions, '\n' ∉ f.source.toList := by decide
  have hname : containerLine .python (containerName .python "class") = "class class:" := by decide
  refine ⟨⟨hpython, by decide, _, rfl, ?_⟩, hrust, ?_⟩
  · rw [← hname]
    exact @containerLine_mem_render [.ofText "a.bf" "+"] python.options .python (isIdentifier_of_check hpython) hindent
      hsources _ rfl
  · obtain ⟨back, hreflow⟩ := @exists_reflow_module [.ofText "a.bf" "+"] rust.options (isIdentifier_of_check hrust)
      hindent hsources
    have hunderscore : rust.options.container = "_" := rfl
    have hlayout : rust.options.reflow = true := rfl
    rw [if_pos hunderscore] at hreflow
    rw [render]
    simp only [hlayout, if_true, functions, hreflow]

end TapeLang.Code
