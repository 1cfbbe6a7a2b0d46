import Mathlib.Algebra.Ring.Nat
import TapeLang.Proofs.Bracket.Spans
import TapeLang.Proofs.Reading.Template

/-!
# Reading rendered functions

A function in a rendered file has the lines of its `opening`, then the lines of its statements, then the lines of
its `closing`. For each target the whole of them stands in the file (`infix_functionLines`), and the lines of the
statements are read back as the nested body with every move by its printed step (`readBlocks_bodyLines`).
-/

namespace TapeLang.Reading

open Code

/-! ### Functions and their lines -/

/-- How deep the statements of a function are. -/
def bodyDepth : Target → Nat
  | .go => 1
  | _ => 2

/-- The lines of the statements of a function. -/
def bodyLines (t : Target) (size : Nat) (body : List Statement) : List Line :=
  match t with
  | .rust => rustDialect.flatLines size 2 false body
  | .csharp => nestedLines csharpDialect size 2 body
  | .python => pythonDialect.flatLines size 2 false body
  | .typescript => typescriptDialect.flatLines size 2 false body
  | .go => nestedLines goDialect size 1 body
  | .java => nestedLines javaDialect size 2 body

/-- The lines of a function from its name down to its statements. -/
def opening (t : Target) (o : Options) (f : Function) : List Line :=
  match t with
  | .rust =>
    ⟨1, s!"pub fn {escapeWord rustKeywords f.name}(input: &str) -> String \x7b"⟩ ::
      linesAt 2 ["let input = input.as_bytes();", "let mut tape = [0u8; TAPE_SIZE];", "let mut ptr: usize = 0;",
        "let mut input_pos: usize = 0;", "let mut output = String::new();"]
  | .csharp =>
    linesAt 1 [s!"public static string {csharpName o f.name}(string input = \"\")", "\x7b"] ++
      linesAt 2 ["input ??= string.Empty;", "var tape = new byte[TapeSize];", "var ptr = 0;", "var inputPos = 0;",
        "var output = new System.Text.StringBuilder();"]
  | .python =>
    ⟨1, s!"def {escapeWord pythonKeywords f.name}(input: str = \"\") -> str:"⟩ ::
      linesAt 2 [s!"\"\"\"Compiled from {f.source}\"\"\"", "tape = bytearray(TAPE_SIZE)", "ptr = 0", "input_pos = 0",
        "output = []"]
  | .typescript =>
    ⟨1, "static " ++ escapeWord typescriptReserved (Name.camel f.name) ++ "(input: string = \"\"): string \x7b"⟩ ::
      linesAt 2 ["const tape = new Uint8Array(TAPE_SIZE);", "let ptr = 0;", "let inputPos = 0;", "let output = \"\";"]
  | .go =>
    ⟨0, s!"func {goName f.name}(input string) string \x7b"⟩ ::
      linesAt 1 ["var tape [TapeSize]byte", "ptr := 0", "inputPos := 0", "var output strings.Builder",
        "_, _, _ = tape, ptr, inputPos"]
  | .java =>
    [⟨1, s!"public static String {escapeWord javaKeywords (Name.camel f.name)}(String input) \x7b"⟩,
      ⟨2, "if (input == null) \x7b"⟩, ⟨3, "input = \"\";"⟩, ⟨2, "\x7d"⟩] ++
      linesAt 2 ["int[] tape = new int[TAPE_SIZE];", "int ptr = 0;", "int inputPos = 0;",
        "StringBuilder output = new StringBuilder();"]

/-- The lines of a function behind its statements. -/
def closing : Target → List Line
  | .rust => [⟨2, "output"⟩, ⟨1, "\x7d"⟩]
  | .csharp => [⟨2, "return output.ToString();"⟩, ⟨1, "\x7d"⟩]
  | .python => [⟨2, "return \"\".join(output)"⟩]
  | .typescript => [⟨2, "return output;"⟩, ⟨1, "\x7d"⟩]
  | .go => [⟨1, "return output.String()"⟩, ⟨0, "\x7d"⟩]
  | .java => [⟨2, "return output.toString();"⟩, ⟨1, "\x7d"⟩]

/-- The indent of a target. -/
def indentOf (t : Target) (o : Options) : String :=
  match t with
  | .rust => o.indent
  | .python => o.indent
  | .typescript => "  "
  | _ => fixedIndent

def functionLines (t : Target) (o : Options) (f : Function) : List Line :=
  opening t o f ++ bodyLines t o.tapeSize f.body ++ closing t

/-! ### Reading statements -/

/-- The lexemes of the statements of a function. Only Python needs their indent. -/
def lexemesOf (t : Target) (o : Options) (text : String) : Option (List Lexeme) :=
  match t with
  | .python => offside [2 * o.indent.length] (rows text)
  | _ => some (braced (rows text))

/-- The blocks that the statements of a function stand for. -/
def readBlocks (t : Target) (o : Options) (text : String) : Option (List Block) :=
  (lexemesOf t o text).bind ((legend t).read .loop)

/-- The body of a function with every move by the forward distance that it amounts to. -/
def steppedBlocks (size : Nat) (body : List Statement) : List Block :=
  translateAll (steppedLeaf size) .loop (nest body)

theorem bodyLines_eq {t : Target} {size : Nat} {body : List Statement} (h : flattenAll (nest body) = body) :
    bodyLines t size body = (lineLayout t size).forest (bodyDepth t) (nest body) := by
  have hleaves := plain_leaves_nest body
  have hflat : ∀ d : Dialect, d.flatLines size 2 false body = (flatLayout d size).forest 2 (nest body) := fun d => by
    rw [← flatLines_eq hleaves, h]
  cases t with
  | rust => exact hflat _
  | python => exact hflat _
  | typescript => exact hflat _
  | csharp => rfl
  | go => rfl
  | java => rfl

private theorem flush_python (size : Nat) : Flush pythonDialect size where
  statement s hs := by
    cases s with
    | loopOpen => nomatch hs
    | loopClose => nomatch hs
    | read => exact ⟨_, [_], rfl⟩
    | _ => exact ⟨_, [], rfl⟩
  enter := by decide
  idle := by decide
  leave := rfl

private theorem indentOf_spaces (t : Target) {o : Options} {width : Nat}
    (h : o.indent.toList = List.replicate width ' ') :
    ∃ w, (indentOf t o).toList = List.replicate w ' ' ∧ (t = .python → w = width) := by
  have hfixed : fixedIndent.toList = List.replicate 4 ' ' := by decide
  have htwo : "  ".toList = List.replicate 2 ' ' := by decide
  cases t with
  | rust => exact ⟨width, h, fun _ => rfl⟩
  | python => exact ⟨width, h, fun _ => rfl⟩
  | typescript => exact ⟨2, htwo, fun h => nomatch h⟩
  | _ => exact ⟨4, hfixed, fun h => nomatch h⟩

/-- The lexemes of the statements of a function are those of the layout of its blocks. -/
theorem lexemesOf_bodyLines (t : Target) {o : Options} {width : Nat}
    (hindent : o.indent.toList = List.replicate width ' ') (hwidth : t = .python → 0 < width) {body : List Statement}
    (h : flattenAll (nest body) = body) :
    lexemesOf t o (writeLines (indentOf t o) (bodyLines t o.tapeSize body)) =
      some ((lexemeLayout t o.tapeSize).forest (bodyDepth t) (nest body)) := by
  have hleaves := plain_leaves_nest body
  obtain ⟨w, hw, hpython⟩ := indentOf_spaces t hindent
  have hrows : rows (writeLines (indentOf t o) (bodyLines t o.tapeSize body)) =
      ((lineLayout t o.tapeSize).forest (bodyDepth t) (nest body)).map (rowOf w) := by
    rw [bodyLines_eq h]
    exact rows_writeLines hw (legible_forest t o.tapeSize (bodyDepth t) hleaves)
  unfold lexemesOf
  rw [hrows]
  cases t with
  | python =>
    obtain rfl := hpython rfl
    have hlength : o.indent.length = w := by
      rw [← String.length_toList, hindent, List.length_replicate]
    have hbody : offside [2 * w] (((flatLayout pythonDialect o.tapeSize).forest 2 (nest body)).map (rowOf w) ++ []) =
        _ := offside_forest (flush_python o.tapeSize) (hwidth rfl) hleaves (by simp)
    rw [List.append_nil, offside, Option.map_some, List.append_nil] at hbody
    rw [hlength]
    exact hbody
  | _ => exact congrArg some (braced_forest _ _ _ hleaves)

/-- The text of the statements of a function is read back as its body. -/
theorem readBlocks_bodyLines (t : Target) {o : Options} {width : Nat}
    (hindent : o.indent.toList = List.replicate width ' ') (hwidth : t = .python → 0 < width) {body : List Statement}
    (h : flattenAll (nest body) = body) :
    readBlocks t o (writeLines (indentOf t o) (bodyLines t o.tapeSize body)) =
      some (steppedBlocks o.tapeSize body) := by
  have hleaves := plain_leaves_nest body
  rw [readBlocks, lexemesOf_bodyLines t hindent hwidth h]
  exact (knows_lexemeLayout t o.tapeSize).read_forest hleaves (bodyDepth t)

/-! ### Functions in files -/

section

variable {unit : String} {o : Options} {f : Function} {fs : List Function} {text : String}

private theorem infix_writeLines {as bs : List Line} (h : as <:+: bs) :
    (writeLines unit as).toList <:+: (writeLines unit bs).toList := by
  obtain ⟨before, after, rfl⟩ := h
  refine ⟨(writeLines unit before).toList, (writeLines unit after).toList, ?_⟩
  simp only [writeLines_append, String.toList_append]

theorem infix_writeLines_singleton {l : Line} {lines : List Line} (hl : l ∈ lines) :
    (writeLines unit [l]).toList <:+: (writeLines unit lines).toList := by
  obtain ⟨before, after, rfl⟩ := List.append_of_mem hl
  exact infix_writeLines ⟨before, after, by simp⟩

private theorem infix_separated {lines : Function → List Line} (hf : f ∈ fs) :
    lines f <:+: separated lines fs := by
  obtain ⟨before, after, rfl⟩ := List.append_of_mem hf
  refine ⟨separated lines before ++ [.blank], separated lines after, ?_⟩
  simp [separated]

theorem infix_withHeader (marker text : String) : text.toList <:+: (withHeader o marker fs text).toList := by
  rw [withHeader, String.toList_append]
  exact (List.suffix_append _ _).isInfix

private theorem writeLines_opening_typescript :
    writeLines "  " (opening .typescript o f) =
      "  static " ++ escapeWord typescriptReserved (Name.camel f.name) ++ "(input: string = \"\"): string \x7b\n" ++
      ("    const tape = new Uint8Array(TAPE_SIZE);\n" ++ "    let ptr = 0;\n" ++ "    let inputPos = 0;\n" ++
      "    let output = \"\";\n") := by
  have hsignature : ∀ name, writeLines "  " [⟨1, "static " ++ name ++ "(input: string = \"\"): string \x7b"⟩] =
      "  static " ++ name ++ "(input: string = \"\"): string \x7b\n" := by
    intro name
    apply String.toList_injective
    simp [writeLines, Line.chars]
  have hvariables : writeLines "  " (linesAt 2 ["const tape = new Uint8Array(TAPE_SIZE);", "let ptr = 0;",
      "let inputPos = 0;", "let output = \"\";"]) =
      "    const tape = new Uint8Array(TAPE_SIZE);\n" ++ "    let ptr = 0;\n" ++ "    let inputPos = 0;\n" ++
      "    let output = \"\";\n" := by
    decide +kernel
  rw [opening, writeLines_cons, hsignature, hvariables]

private theorem writeLines_closing_typescript :
    writeLines "  " (closing .typescript) = "    return output;\n" ++ "  \x7d\n" := by
  decide

private theorem legible_bodyLines {t : Target} {size : Nat} {body : List Statement}
    (h : flattenAll (nest body) = body) : ∀ l ∈ bodyLines t size body, Legible l.text := by
  rw [bodyLines_eq h]
  exact legible_forest t size _ (plain_leaves_nest body)

private theorem itemsAt_lines : Template.itemsAt 20 ((typescriptFunction o f).field? "lines") =
    .ok ((bodyLines .typescript o.tapeSize f.body).map lineValue) := by
  simp [Template.itemsAt, typescriptFunction, Value.field?, Value.items?, bodyLines]

/-- The method that the class template makes of a function holds the text of its lines. -/
private theorem infix_method (hbody : flattenAll (nest f.body) = f.body)
    (h : Template.method (typescriptFunction o f) = .ok text) :
    (writeLines "  " (functionLines .typescript o f)).toList <:+: text.toList := by
  have hname : Value.written ((typescriptFunction o f).field? "name") =
      escapeWord typescriptReserved (Name.camel f.name) := by
    simp [typescriptFunction, Value.field?, Value.written]
  obtain ⟨lines, hlines, hrest⟩ := bind_eq_ok.1 h
  obtain ⟨body, hconcat, htext⟩ := bind_eq_ok.1 hrest
  obtain rfl := Except.ok.inj (itemsAt_lines.symm.trans hlines)
  obtain rfl := eq_writeLines_of_concat (legible_bodyLines hbody) hconcat
  obtain rfl := Except.ok.inj htext
  rw [functionLines, writeLines_append, writeLines_append, writeLines_opening_typescript,
    writeLines_closing_typescript]
  refine ⟨("  /** Compiled from " ++ Value.written ((typescriptFunction o f).field? "source") ++ " */\n").toList, [],
    ?_⟩
  simp only [hname, String.toList_append, List.append_assoc, List.append_nil]

/-- A method can be written unless its loops are deeper than any text in memory could make them. -/
private theorem exists_method (hbody : flattenAll (nest f.body) = f.body) (hlength : f.body.length < 2 ^ 62) :
    ∃ text, Template.method (typescriptFunction o f) = .ok text := by
  have hbound : Number.bound 64 = 2 ^ 64 := rfl
  have hdepths : ∀ l ∈ bodyLines .typescript o.tapeSize f.body, l.depth * 2 < Number.bound 64 := by
    intro l hl
    have hflush : ∀ s, ∀ l ∈ typescriptDialect.statement o.tapeSize s, l.depth = 0 := by
      intro s l hl
      cases s with
      | read =>
        obtain ⟨text, -, rfl⟩ := List.mem_map.1 hl
        rfl
      | loopOpen => cases hl
      | loopClose => cases hl
      | _ =>
        obtain rfl := List.mem_singleton.1 hl
        rfl
    have := depth_le_of_mem_flatLines hflush hl
    omega
  have hlines : ∀ v ∈ (bodyLines .typescript o.tapeSize f.body).map lineValue, ∃ a, Template.bodyLine v = .ok a := by
    intro v hv
    obtain ⟨l, hl, rfl⟩ := List.mem_map.1 hv
    exact ⟨_, bodyLine_lineValue (legible_bodyLines hbody l hl) (hdepths l hl)⟩
  obtain ⟨text, htext⟩ := Template.exists_concat hlines
  exact ⟨_, bind_eq_ok.2 ⟨_, itemsAt_lines, bind_eq_ok.2 ⟨text, htext, rfl⟩⟩⟩

theorem itemsAt_functions : Template.itemsAt 10 ((typescriptContext o fs).field? "functions") =
    .ok (fs.map (typescriptFunction o)) := by
  simp [Template.itemsAt, typescriptContext, Value.field?, Value.items?]

private theorem itemsAt_provenance :
    ∃ lines, Template.itemsAt 2 ((typescriptContext o fs).field? "provenance") = .ok lines := by
  by_cases h : o.provenance = true
  · exact ⟨(provenanceLines fs).map .text, by
      simp [Template.itemsAt, typescriptContext, Value.field?, Value.items?, h]⟩
  · exact ⟨[], by simp [Template.itemsAt, typescriptContext, Value.field?, Value.items?, h]⟩

/-- The lines of a function stand in a rendered file. -/
theorem infix_functionLines {t : Target} (hreflow : t = .rust → o.reflow = false)
    (hbody : flattenAll (nest f.body) = f.body) (hf : f ∈ fs) (h : render t o fs = .ok text) :
    (writeLines (indentOf t o) (functionLines t o f)).toList <:+: text.toList := by
  cases t with
  | rust =>
    have hfunction : functionLines .rust o f <:+: rustFunction o f :=
      ⟨[⟨1, s!"// {f.source}"⟩], [], by
        simp [rustFunction, functionLines, opening, bodyLines, closing, linesAt]⟩
    have hmodule : functionLines .rust o f <:+: rustModule o fs :=
      (hfunction.trans (infix_separated hf)).trans (List.infix_append ..)
    rw [render_rust, hreflow rfl] at h
    obtain rfl := Except.ok.inj h
    exact (infix_writeLines hmodule).trans (infix_withHeader ..)
  | python =>
    have hfunction : functionLines .python o f <:+: pythonFunction o f :=
      ⟨[⟨1, "@staticmethod"⟩], [], by
        simp [pythonFunction, functionLines, opening, bodyLines, closing, linesAt]⟩
    have hmodule : functionLines .python o f <:+: pythonModule o fs := by
      apply hfunction.trans
      cases fs with
      | nil => cases hf
      | cons g rest =>
        rcases List.mem_cons.1 hf with rfl | hf
        · exact List.infix_append_of_infix_right List.infix_append_left
        · exact List.infix_append_of_infix_right (List.infix_append_of_infix_right (infix_separated hf))
    rw [render_python] at h
    obtain rfl := Except.ok.inj h
    exact (infix_writeLines hmodule).trans (infix_withHeader ..)
  | csharp =>
    have hfunction : functionLines .csharp o f <:+: csharpFunction o f :=
      ⟨[⟨1, s!"/// <summary>Compiled from {f.source}</summary>"⟩], [], by
        simp [csharpFunction, functionLines, opening, bodyLines, closing, linesAt]⟩
    have hmodule : functionLines .csharp o f <:+: csharpClass o fs :=
      (hfunction.trans (infix_separated hf)).trans (List.infix_append ..)
    rw [render_csharp] at h
    obtain rfl := Except.ok.inj h
    exact (infix_writeLines hmodule).trans (infix_withHeader ..)
  | go =>
    have hfunction : functionLines .go o f <:+: goFunction o f :=
      ⟨[⟨0, s!"// {goName f.name} is compiled from {f.source}"⟩], [], by
        simp [goFunction, functionLines, opening, bodyLines, closing, linesAt]⟩
    have hmodule : functionLines .go o f <:+: goPackage o fs :=
      (hfunction.trans (infix_separated hf)).trans List.infix_append_right
    rw [render_go] at h
    obtain rfl := Except.ok.inj h
    exact (infix_writeLines hmodule).trans (infix_withHeader ..)
  | java =>
    have hfunction : functionLines .java o f <:+: javaFunction o f := by
      refine List.IsSuffix.isInfix ⟨(javaFunction o f).take 6, ?_⟩
      simp [javaFunction, functionLines, opening, bodyLines, closing, linesAt]
    have hmodule : functionLines .java o f <:+: javaClass o fs :=
      (hfunction.trans (infix_separated hf)).trans (List.infix_append ..)
    rw [render_java] at h
    obtain rfl := Except.ok.inj h
    exact (infix_writeLines hmodule).trans (infix_withHeader ..)
  | typescript =>
    rw [render] at h
    cases hmodule : Template.render (typescriptContext o fs) with
    | error e =>
      rw [hmodule] at h
      cases h
    | ok module =>
      rw [hmodule] at h
      obtain rfl := Except.ok.inj h
      obtain ⟨part, hpart, hinfix⟩ := Template.infix_of_render hmodule itemsAt_functions (List.mem_map_of_mem hf)
      exact (infix_method hbody hpart).trans hinfix

/-- Rendering succeeds for functions whose bodies could stand in memory. -/
theorem exists_render {t : Target} (hreflow : t = .rust → o.reflow = false)
    (hbody : ∀ f ∈ fs, flattenAll (nest f.body) = f.body) (hlength : ∀ f ∈ fs, f.body.length < 2 ^ 62) :
    ∃ text, render t o fs = .ok text := by
  cases t with
  | rust =>
    rw [render, hreflow rfl]
    exact ⟨_, rfl⟩
  | typescript =>
    obtain ⟨lines, hlines⟩ := @itemsAt_provenance o fs
    have hmethods : ∀ v ∈ fs.map (typescriptFunction o), ∃ a, Template.method v = .ok a := by
      intro v hv
      obtain ⟨f, hf, rfl⟩ := List.mem_map.1 hv
      exact exists_method (hbody f hf) (hlength f hf)
    obtain ⟨text, htext⟩ := Template.exists_render hlines itemsAt_functions hmethods
    rw [render, htext]
    exact ⟨text, rfl⟩
  | _ => exact ⟨_, rfl⟩

/-- Every file rendered from compiled functions holds each of them: its opening, a part that is read back as its
nested body with every move by its printed step, and its closing. Rendering succeeds for all functions whose bodies
could stand in memory. -/
theorem readBlocks_render {t : Target} (hreflow : t = .rust → o.reflow = false) {width : Nat}
    (hindent : o.indent.toList = List.replicate width ' ') (hwidth : t = .python → 0 < width)
    (hfs : ∀ f ∈ fs, ∃ s, compile s = .ok f) :
    (∀ text, render t o fs = .ok text → ∀ f ∈ fs, ∃ part,
      (writeLines (indentOf t o) (opening t o f) ++ part ++ writeLines (indentOf t o) (closing t)).toList <:+:
        text.toList ∧
      readBlocks t o part = some (steppedBlocks o.tapeSize f.body)) ∧
    ((∀ f ∈ fs, f.body.length < 2 ^ 62) → ∃ text, render t o fs = .ok text) := by
  have hbody : ∀ f ∈ fs, flattenAll (nest f.body) = f.body := fun f hf => by
    obtain ⟨s, hs⟩ := hfs f hf
    exact flattenAll_nest_body hs
  refine ⟨fun text htext f hf => ?_, exists_render hreflow hbody⟩
  have hinfix := infix_functionLines hreflow (hbody f hf) hf htext
  rw [functionLines, writeLines_append, writeLines_append] at hinfix
  exact ⟨_, hinfix, readBlocks_bodyLines t hindent hwidth (hbody f hf)⟩

/-- Nested loops, one of them without statements, in Python on a tape of eight cells. -/
theorem readBlocks_render_hollow :
    ∃ text part, render .python ⟨"BF", 8, true, true, " "⟩ [⟨"a", "a.b", "0", emit (lex ",[[-]<[]]")⟩] = .ok text ∧
      part.toList <:+: text.toList ∧
      readBlocks .python ⟨"BF", 8, true, true, " "⟩ part =
        some [.plain .read, .loop [.loop [.plain .decrement], .plain (.move 7), .loop []]] := by
  have hmatch : matchBrackets (lex ",[[-]<[]]") = .ok ⟨[(1, 8), (2, 4), (6, 7)]⟩ :=
    matchBrackets_eq_ok.2 ⟨[(1, 8), (6, 7), (2, 4)], rfl, by simp [List.mergeSort]⟩
  have hcompile : compile ⟨"a.b", lex ",[[-]<[]]", "0"⟩ = .ok ⟨"a", "a.b", "0", emit (lex ",[[-]<[]]")⟩ := by
    rw [compile, hmatch]
    rfl
  have hfs : ∀ f ∈ [⟨"a", "a.b", "0", emit (lex ",[[-]<[]]")⟩], ∃ s, compile s = .ok f := fun f hf =>
    ⟨_, List.mem_singleton.1 hf ▸ hcompile⟩
  obtain ⟨hread, hrender⟩ := readBlocks_render (t := .python) (o := ⟨"BF", 8, true, true, " "⟩) (nomatch ·)
    (by decide) (fun _ => Nat.one_pos) hfs
  obtain ⟨text, htext⟩ := hrender (by decide)
  obtain ⟨part, hinfix, hpart⟩ := hread text htext _ (List.mem_singleton_self _)
  exact ⟨text, part, htext, (List.infix_append _ _ _).trans (by simpa using hinfix), hpart⟩

end

end TapeLang.Reading
