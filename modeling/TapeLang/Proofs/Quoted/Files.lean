import TapeLang.Code.Render
import TapeLang.Proofs.Quoted.Page
import TapeLang.Proofs.Reading.Layout

/-!
# The lines of quoted files

A C#, Go or Java file is quoted as tokens. On the page its header is a comment on each of its lines and an empty line,
its functions stand one below the other with empty lines between them, and their bodies are laid out by the layout of
their blocks (`lays_forestTokens`). So each file is the text of its class or package behind that of its header
(`render_csharp`, `render_go`, `render_java`), as the files that are not quoted are behind theirs.
-/

namespace TapeLang.Code

open Quote (Token Row Lays LaysRows literals quote)
open Reading (nestedLayout spin)

/-! ### Bodies -/

/-- Lines that are quoted as they are, and end at the depth that they begin at. -/
def Quotes (lines : List Line) : Prop :=
  (∀ l ∈ lines, l.text ≠ "") ∧ lines.head?.map Line.depth = some 0 ∧ lines.getLast?.map Line.depth = some 0

instance (lines : List Line) : Decidable (Quotes lines) := inferInstanceAs (Decidable (_ ∧ _ ∧ _))

/-- A dialect that is quoted line by line, with one line at the end of a loop. -/
structure Dialect.Quotable (d : Dialect) : Prop where
  increment : Quotes d.increment
  decrement : Quotes d.decrement
  move : ∀ step, Quotes (d.move step)
  write : Quotes d.write
  read : Quotes d.read
  enter : Quotes (linesAt 0 d.enter)
  leave : ∃ close, close ≠ "" ∧ d.leave = [close]

private theorem quotes_oneLine {text : String} (h : text ≠ "") : Quotes (oneLine text) :=
  ⟨List.forall_mem_singleton.2 h, rfl, rfl⟩

theorem quotable_csharp : csharpDialect.Quotable :=
  ⟨by decide, by decide, fun step => quotes_oneLine (by simp), by decide, by decide, by decide, _, by decide, rfl⟩

theorem quotable_go : goDialect.Quotable :=
  ⟨by decide, by decide, fun step => quotes_oneLine (by simp), by decide, by decide, by decide, _, by decide, rfl⟩

theorem quotable_java : javaDialect.Quotable :=
  ⟨by decide, by decide, fun step => quotes_oneLine (by simp), by decide, by decide, by decide, _, by decide, rfl⟩

section

variable {d : Dialect} {size : Nat}

theorem Quotes.laysRows {lines : List Line} (h : Quotes lines) (depth : Nat) :
    LaysRows depth 0 0 (literals lines) (lines.map (·.inward depth)) :=
  .literals h.1 h.2.1 h.2.2

theorem Dialect.Quotable.statement (hd : d.Quotable) {s : Statement} (hs : s.isBracket = false) :
    Quotes (d.statement size s) := by
  cases s with
  | increment => exact hd.increment
  | decrement => exact hd.decrement
  | move delta => exact hd.move _
  | write => exact hd.write
  | read => exact hd.read
  | loopOpen => nomatch hs
  | loopClose => nomatch hs

private theorem map_inward_linesAt (texts : List String) (depth : Nat) :
    (linesAt 0 texts).map (·.inward depth) = linesAt depth texts := by
  simp [linesAt, Line.inward]

/-- The end of a loop without statements stays on the line that its beginning ends with. -/
theorem lays_spin (hd : d.Quotable) (depth : Nat) :
    Lays depth depth (quote (literals (linesAt 0 d.enter) ++ ⟨1, []⟩ :: literals (linesAt 0 d.leave)))
      (linesAt depth (spin d)) := by
  obtain ⟨close, hclose, hleave⟩ := hd.leave
  have henter := hd.enter.laysRows depth
  rw [map_inward_linesAt] at henter
  have hlays := henter.lays
  rcases List.eq_nil_or_concat d.enter with hnil | ⟨front, text, hconcat⟩
  · have hhead := hd.enter.2.1
    rw [hnil] at hhead
    cases hhead
  have hspin : linesAt depth (spin d) = linesAt depth front ++ [⟨depth, text ++ close⟩] := by
    simp [spin, hconcat, hleave, linesAt]
  have hquote : quote (literals (linesAt 0 d.enter) ++ ⟨1, []⟩ :: literals (linesAt 0 d.leave)) =
      quote (literals (linesAt 0 d.enter)) ++ [.indent, .unindent, .text close] := by
    rw [Quote.quote_append henter.stops ⟨_, _, rfl, rfl⟩, hleave]
    rfl
  rw [hquote, hspin]
  refine Lays.hollow ?_ hclose
  have hlines : linesAt depth d.enter = linesAt depth front ++ [⟨depth, text⟩] := by
    simp [hconcat, linesAt]
  rwa [hlines] at hlays

/-- The blocks of a body are quoted in their layout. -/
theorem lays_forestTokens (hd : d.Quotable) {bs : List Block} (h : Leaves (·.isBracket = false) bs) (hne : bs ≠ [])
    (depth : Nat) : Lays depth depth (d.forestTokens size bs) ((nestedLayout d size).forest depth bs) := by
  -- the end of a line behind a block is the one before the next block
  have hcons : ∀ {b rest lines depth}, Lays depth depth (d.blockTokens size b) lines →
      (rest ≠ [] → Lays depth depth (d.forestTokens size rest) ((nestedLayout d size).forest depth rest)) →
      Lays depth depth (d.forestTokens size (b :: rest)) (lines ++ (nestedLayout d size).forest depth rest) := by
    intro b rest lines depth hb hrest
    rw [Dialect.forestTokens]
    cases rest with
    | nil => simpa [Dialect.forestTokens] using hb.push
    | cons b' rest =>
      exact hb.below (hrest (List.cons_ne_nil _ _))
  induction h generalizing depth with
  | nil => exact absurd rfl hne
  | @plain s rest hs _ ih =>
    rw [Reading.Layout.forest_plain]
    refine hcons ?_ fun hrest => ih hrest depth
    rw [Dialect.blockTokens]
    exact ((hd.statement hs).laysRows depth).lays
  | @loop inner rest _ _ ihInner ihRest =>
    cases inner with
    | nil =>
      rw [Reading.Layout.forest_hollow]
      refine hcons ?_ fun hrest => ihRest hrest depth
      rw [Dialect.blockTokens, Dialect.forestTokens]
      exact lays_spin hd depth
    | cons b inner =>
      rw [Reading.Layout.forest_loop]
      refine hcons ?_ fun hrest => ihRest hrest depth
      rw [Dialect.blockTokens, List.append_assoc]
      obtain ⟨close, hclose, hleave⟩ := hd.leave
      have henter := hd.enter.laysRows depth
      have hinner : LaysRows depth 1 1 [⟨1, d.forestTokens size (b :: inner)⟩] _ :=
        .single (ihInner (List.cons_ne_nil _ _) (depth + 1))
      have hleave : LaysRows depth 0 0 (literals (linesAt 0 d.leave)) (linesAt depth d.leave) := by
        rw [hleave]
        exact .single (.text hclose depth)
      rw [map_inward_linesAt] at henter
      exact (henter.append (hinner.append hleave)).lays

/-- The lines of a body by way of its nested blocks. -/
def nestedLines (d : Dialect) (size depth : Nat) (body : List Statement) : List Line :=
  (nestedLayout d size).forest depth (nest body)

variable {depth first last next : Nat} {rows rest : List Row} {lines behind : List Line}

/-- A body below the lines before it, whether it has statements or not. -/
theorem Quote.LaysRows.body (hd : d.Quotable) (size : Nat) (body : List Statement)
    (h : LaysRows depth first last rows lines) :
    LaysRows depth first last (rows ++ [⟨last, d.forestTokens size (nest body)⟩])
      (lines ++ nestedLines d size (depth + last) body) := by
  have hleaves := plain_leaves_nest body
  refine h.concat ?_
  unfold nestedLines
  cases hne : nest body with
  | nil => simpa [Dialect.forestTokens] using h.lays.push
  | cons b bs =>
    rw [hne] at hleaves
    exact h.lays.below (lays_forestTokens hd hleaves (List.cons_ne_nil _ _) _)

/-- Functions below the lines before them, if each of them is written as lines of its own. -/
theorem Quote.LaysRows.functions {tokens : Function → List Token} {linesOf : Function → List Line}
    (hfunction : ∀ f, Lays (depth + last) (depth + last) (tokens f) (linesOf f)) (functions : List Function)
    (h : LaysRows depth first last rows lines) :
    LaysRows depth first last (rows ++ [⟨last, functionTokens tokens functions⟩])
      (lines ++ separated linesOf functions) := by
  refine h.concat ?_
  have hall : ∀ {front : List Token} {lines : List Line}, Lays (depth + first) (depth + last) front lines →
      Lays (depth + first) (depth + last) (front ++ functionTokens tokens functions)
        (lines ++ separated linesOf functions) := by
    induction functions with
    | nil => intro front lines hfront; simpa [functionTokens, separated] using hfront
    | cons f functions ih =>
      intro front lines hfront
      have hf := ih (hfront.line (hfunction f).push_cons)
      simpa [functionTokens, separated, quote, Quote.turn_self] using hf
  simpa using hall h.lays.push

end

/-! ### Phrases -/

/-- A word after `front`, with the space between them only if there is a word. -/
def spacedWord (front word : String) : String :=
  if word = "" then front else front ++ " " ++ word

open Quote.Page in
/-- A space is written only before a literal. -/
private theorem putAll_word {p : Quote.Page} (hp : p.Opens) {front : String} (hfront : front ≠ "") (word : String) :
    p.putAll [.text front, .space, .text word] =
      ⟨⟨p.depth, spacedWord front word⟩ :: p.under, p.depth, if word = "" then .space else .none⟩ := by
  rw [putAll_cons, put_text hfront, write_of_opens hp]
  by_cases hword : word = ""
  · subst hword
    rfl
  · simp [putAll, put, write, Quote.Gap.join, Quote.Gap.breaks, Quote.Gap.between, spacedWord, hword]

theorem lays_word {front : String} (hfront : front ≠ "") (word : String) (depth : Nat) :
    Lays depth depth [.text front, .space, .text word] [⟨depth, spacedWord front word⟩] where
  ends := ⟨[], _, rfl⟩
  put p hp hdepth := by
    refine ⟨_, ?_, by rw [putAll_word hp hfront, hdepth]; rfl⟩
    split <;> decide

open Quote.Page in
/-- Two spaces with nothing between them are one. -/
theorem lays_word_text {front back : String} (hfront : front ≠ "") (hback : back ≠ "") (word : String) (depth : Nat) :
    Lays depth depth ([.text front, .space, .text word] ++ [.space, .text back])
      [⟨depth, spacedWord front word ++ (" " ++ back)⟩] where
  ends := ⟨[], _, rfl⟩
  put p hp hdepth := by
    refine ⟨.none, by decide, ?_⟩
    rw [putAll_append, putAll_word hp hfront, hdepth]
    by_cases hword : word = "" <;>
      simp [putAll, put, write, Quote.Gap.join, Quote.Gap.breaks, Quote.Gap.between, hword, hback, String.append_assoc]

/-! ### The header -/

/-- Comments that are joined by the ends of their lines are quoted lines. -/
private theorem intersperse_push (texts : List String) :
    (texts.map Token.text).intersperse .push = quote (literals (linesAt 0 texts)) := by
  induction texts with
  | nil => rfl
  | cons text texts ih =>
    cases texts with
    | nil => rfl
    | cons text' texts =>
      rw [List.map_cons, List.map_cons, List.intersperse_cons_cons, ← List.map_cons, ih]
      rfl

private theorem lays_comments (fs : List Function) :
    Lays 0 0 (((provenanceLines fs).map fun l => Token.text s!"// {l}").intersperse .push)
      (linesAt 0 ((provenanceLines fs).map fun l => "//" ++ " " ++ l)) := by
  have htexts : ((provenanceLines fs).map fun l => Token.text s!"// {l}") =
      ((provenanceLines fs).map fun l => "//" ++ " " ++ l).map Token.text := by
    rw [List.map_map]
    rfl
  have hquotes : Quotes (linesAt 0 ((provenanceLines fs).map fun l => "//" ++ " " ++ l)) := by
    refine ⟨fun l hl => ?_, rfl, ?_⟩
    · simp only [linesAt, List.map_map, List.mem_map] at hl
      obtain ⟨text, -, rfl⟩ := hl
      simp
    · simp [linesAt, provenanceLines, List.getLast?_cons]
  rw [htexts, intersperse_push]
  have hlays := (hquotes.laysRows 0).lays
  rwa [map_inward_linesAt] at hlays

/-- The rows below the quoted header stand below its lines. -/
theorem layout_header_cons (o : Options) (fs : List Function) {rest : List Row} {last : Nat} {lines : List Line}
    (h : LaysRows 0 0 last rest lines) :
    Quote.layout (quote (⟨0, headerTokens o fs⟩ :: rest)) = headerLines o "//" fs ++ lines := by
  have hquote : quote ([⟨0, headerTokens o fs⟩] ++ rest) = headerTokens o fs ++ (Quote.turn 0 0 ++ quote rest) :=
    Quote.quote_append ⟨[], _, rfl, rfl⟩ h.begins
  rw [Quote.turn_self] at hquote
  refine (congrArg Quote.layout hquote).trans ?_
  unfold headerTokens headerLines
  cases o.provenance with
  | false => exact h.lays.push_cons.layout_eq
  | true =>
    have hall := ((lays_comments fs).push.line h.lays.push_cons).layout_eq
    simpa [provenanceHeader, quote, Quote.turn_self, provenanceLines] using hall

/-! ### C# -/

def csharpFunction (o : Options) (f : Function) : List Line :=
  linesAt 1 [s!"/// <summary>Compiled from {f.source}</summary>",
      s!"public static string {csharpName o f.name}(string input = \"\")", "\x7b"] ++
    linesAt 2 ["input ??= string.Empty;", "var tape = new byte[TapeSize];", "var ptr = 0;", "var inputPos = 0;",
      "var output = new System.Text.StringBuilder();"] ++
    nestedLines csharpDialect o.tapeSize 2 f.body ++
    [⟨2, "return output.ToString();"⟩, ⟨1, "\x7d"⟩]

def csharpClass (o : Options) (functions : List Function) : List Line :=
  linesAt 0 [spacedWord "public static class" o.container, "\x7b"] ++
    [⟨1, s!"public const int TapeSize = {o.tapeSize};"⟩] ++
    separated (csharpFunction o) functions ++ [⟨0, "\x7d"⟩]

theorem lays_csharpMethod (o : Options) (f : Function) : Lays 1 1 (csharpMethod o f) (csharpFunction o f) := by
  have hopening : LaysRows 1 0 1 (literals (linesAt 0 [s!"/// <summary>Compiled from {f.source}</summary>",
      s!"public static string {csharpName o f.name}(string input = \"\")", "\x7b"]) ++
      literals (linesAt 1 ["input ??= string.Empty;", "var tape = new byte[TapeSize];", "var ptr = 0;",
        "var inputPos = 0;", "var output = new System.Text.StringBuilder();"])) _ :=
    .append (.literals (by simp [linesAt, toString]) rfl rfl) (.literals (by decide) rfl rfl)
  have hclosing : LaysRows 1 1 0 (literals [⟨1, "return output.ToString();"⟩, ⟨0, "\x7d"⟩]) _ :=
    .literals (by decide) rfl rfl
  have hall := ((hopening.body quotable_csharp o.tapeSize f.body).append hclosing).lays
  rw [List.append_assoc _ [_]] at hall
  exact hall

theorem layout_csharpFile (o : Options) (functions : List Function) :
    Quote.layout (csharpFile o functions) = headerLines o "//" functions ++ csharpClass o functions := by
  have hclass : LaysRows 0 0 0 [⟨0, [.text "public static class", .space, .text o.container]⟩] _ :=
    .single (lays_word (by decide) o.container 0)
  have hopen : LaysRows 0 0 0 [⟨0, [.text "\x7b"]⟩] _ := .single (.text (by decide) 0)
  have hsize : LaysRows 0 1 1 [⟨1, [.text s!"public const int TapeSize = {o.tapeSize};"]⟩] _ :=
    .single (.text (by simp [toString]) 1)
  have hclose : LaysRows 0 0 0 [⟨0, [.text "\x7d"]⟩] _ := .single (.text (by decide) 0)
  have hmembers := ((hclass.append hopen).append hsize).functions (lays_csharpMethod o) functions
  exact layout_header_cons o functions (hmembers.append hclose)

/-! ### Go -/

def goFunction (o : Options) (f : Function) : List Line :=
  linesAt 0 [s!"// {goName f.name} is compiled from {f.source}",
      s!"func {goName f.name}(input string) string \x7b"] ++
    linesAt 1 ["var tape [TapeSize]byte", "ptr := 0", "inputPos := 0", "var output strings.Builder",
      "_, _, _ = tape, ptr, inputPos"] ++
    nestedLines goDialect o.tapeSize 1 f.body ++
    [⟨1, "return output.String()"⟩, ⟨0, "\x7d"⟩]

def goPackage (o : Options) (functions : List Function) : List Line :=
  [⟨0, spacedWord "package" (Text.lower o.container)⟩, .blank, ⟨0, "import \"strings\""⟩, .blank,
    ⟨0, s!"const TapeSize = {o.tapeSize}"⟩] ++ separated (goFunction o) functions

theorem lays_goFunc (o : Options) (f : Function) : Lays 0 0 (goFunc o f) (goFunction o f) := by
  have hopening : LaysRows 0 0 1 (literals (linesAt 0 [s!"// {goName f.name} is compiled from {f.source}",
      s!"func {goName f.name}(input string) string \x7b"]) ++
      literals (linesAt 1 ["var tape [TapeSize]byte", "ptr := 0", "inputPos := 0", "var output strings.Builder",
        "_, _, _ = tape, ptr, inputPos"])) _ :=
    .append (.literals (by simp [linesAt, toString]) rfl rfl) (.literals (by decide) rfl rfl)
  have hclosing : LaysRows 0 1 0 (literals [⟨1, "return output.String()"⟩, ⟨0, "\x7d"⟩]) _ :=
    .literals (by decide) rfl rfl
  have hall := ((hopening.body quotable_go o.tapeSize f.body).append hclosing).lays
  rw [List.append_assoc _ [_]] at hall
  exact hall

theorem layout_goFile (o : Options) (functions : List Function) :
    Quote.layout (goFile o functions) = headerLines o "//" functions ++ goPackage o functions := by
  have hpackage : LaysRows 0 0 0 [⟨0, [.text "package", .space, .text (Text.lower o.container)]⟩] _ :=
    .single (lays_word (by decide) (Text.lower o.container) 0)
  have himport : LaysRows 0 0 0 [⟨0, [.text "import \"strings\""]⟩] _ := .single (.text (by decide) 0)
  have hsize : LaysRows 0 0 0 [⟨0, [.text s!"const TapeSize = {o.tapeSize}"]⟩] _ :=
    .single (.text (by simp [toString]) 0)
  have hmembers := (hpackage.blank (himport.blank hsize)).functions (lays_goFunc o) functions
  exact layout_header_cons o functions hmembers

/-! ### Java -/

def javaFunction (o : Options) (f : Function) : List Line :=
  let name := escapeWord javaKeywords (Name.camel f.name)
  let doc := s!"/** Compiled from {f.source} */"
  [⟨1, doc⟩, ⟨1, s!"public static String {name}() \x7b"⟩, ⟨2, s!"return {name}(\"\");"⟩, ⟨1, "\x7d"⟩, .blank,
      ⟨1, doc⟩, ⟨1, s!"public static String {name}(String input) \x7b"⟩, ⟨2, "if (input == null) \x7b"⟩,
      ⟨3, "input = \"\";"⟩, ⟨2, "\x7d"⟩] ++
    linesAt 2 ["int[] tape = new int[TAPE_SIZE];", "int ptr = 0;", "int inputPos = 0;",
      "StringBuilder output = new StringBuilder();"] ++
    nestedLines javaDialect o.tapeSize 2 f.body ++
    [⟨2, "return output.toString();"⟩, ⟨1, "\x7d"⟩]

def javaClass (o : Options) (functions : List Function) : List Line :=
  [⟨0, spacedWord "public final class" o.container ++ " \x7b"⟩,
    ⟨1, s!"public static final int TAPE_SIZE = {o.tapeSize};"⟩, .blank,
    ⟨1, s!"private {o.container}() \x7b"⟩, ⟨1, "\x7d"⟩] ++
    separated (javaFunction o) functions ++ [⟨0, "\x7d"⟩]

theorem lays_javaMethods (o : Options) (f : Function) : Lays 1 1 (javaMethods o f) (javaFunction o f) := by
  unfold javaMethods javaFunction
  extract_lets name doc
  have hdoc : doc ≠ "" := by simp [doc, toString]
  have hshort : LaysRows 1 0 0 (literals [⟨0, doc⟩, ⟨0, s!"public static String {name}() \x7b"⟩,
      ⟨1, s!"return {name}(\"\");"⟩, ⟨0, "\x7d"⟩]) _ := .literals (by simp [hdoc, toString]) rfl rfl
  have hopening : LaysRows 1 0 1 (literals [⟨0, doc⟩, ⟨0, s!"public static String {name}(String input) \x7b"⟩,
      ⟨1, "if (input == null) \x7b"⟩, ⟨2, "input = \"\";"⟩, ⟨1, "\x7d"⟩] ++
      literals (linesAt 1 ["int[] tape = new int[TAPE_SIZE];", "int ptr = 0;", "int inputPos = 0;",
        "StringBuilder output = new StringBuilder();"])) _ :=
    .append (.literals (by simp [hdoc, toString]) rfl rfl) (.literals (by decide) rfl rfl)
  have hclosing : LaysRows 1 1 0 (literals [⟨1, "return output.toString();"⟩, ⟨0, "\x7d"⟩]) _ :=
    .literals (by decide) rfl rfl
  have hall := (((hshort.blank hopening).body quotable_java o.tapeSize f.body).append hclosing).lays
  rw [List.append_assoc _ [_]] at hall
  exact hall

theorem layout_javaFile (o : Options) (functions : List Function) :
    Quote.layout (javaFile o functions) = headerLines o "//" functions ++ javaClass o functions := by
  have hclass : LaysRows 0 0 0
      [⟨0, [.text "public final class", .space, .text o.container] ++ [.space, .text "\x7b"]⟩] _ :=
    .single (lays_word_text (by decide) (by decide) o.container 0)
  have hbrace : " " ++ "\x7b" = " \x7b" := by decide
  rw [hbrace] at hclass
  have hsize : LaysRows 0 1 1 [⟨1, [.text s!"public static final int TAPE_SIZE = {o.tapeSize};"]⟩] _ :=
    .single (.text (by simp [toString]) 1)
  have hprivate : LaysRows 0 1 1 [⟨1, [.text s!"private {o.container}() \x7b"]⟩] _ :=
    .single (.text (by simp [toString]) 1)
  have hend : LaysRows 0 1 1 [⟨1, [.text "\x7d"]⟩] _ := .single (.text (by decide) 1)
  have hclose : LaysRows 0 0 0 [⟨0, [.text "\x7d"]⟩] _ := .single (.text (by decide) 0)
  have hmembers := ((hclass.append hsize).blank (hprivate.append hend)).functions (lays_javaMethods o) functions
  exact layout_header_cons o functions (hmembers.append hclose)

/-! ### Files behind their headers -/

theorem writeLines_append (unit : String) (as bs : List Line) :
    writeLines unit (as ++ bs) = writeLines unit as ++ writeLines unit bs := by
  simp [writeLines]

theorem writeLines_cons (unit : String) (l : Line) (ls : List Line) :
    writeLines unit (l :: ls) = writeLines unit [l] ++ writeLines unit ls :=
  writeLines_append unit [l] ls

/-- A text behind the header, if there is to be one. -/
def withHeader (o : Options) (marker : String) (functions : List Function) (text : String) : String :=
  writeLines "" (headerLines o marker functions) ++ text

section

variable {o : Options} {marker : String} {functions : List Function}

/-- No line of the header is indented. -/
theorem writeLines_headerLines (unit : String) :
    writeLines unit (headerLines o marker functions) = writeLines "" (headerLines o marker functions) := by
  have hdepth : ∀ l ∈ headerLines o marker functions, l.depth = 0 := by
    intro l hl
    unfold headerLines at hl
    cases hprovenance : o.provenance with
    | false => simp [hprovenance] at hl
    | true =>
      simp only [hprovenance, if_true, provenanceHeader, linesAt, List.mem_append, List.mem_map,
        List.mem_singleton] at hl
      rcases hl with ⟨text, -, rfl⟩ | rfl
      · rfl
      · rfl
  have hchars : ∀ l ∈ headerLines o marker functions, l.chars unit = l.chars "" := fun l hl => by
    simp [Line.chars, hdepth l hl]
  rw [writeLines, writeLines, List.flatMap_def, List.flatMap_def, List.map_congr_left hchars]

private theorem writeLines_behind (unit : String) (lines : List Line) :
    writeLines unit (headerLines o marker functions ++ lines) =
      withHeader o marker functions (writeLines unit lines) := by
  rw [writeLines_append, writeLines_headerLines, withHeader]

variable (o functions)

theorem render_rust : render .rust o functions =
    (((if o.reflow then Reflow.reflow (writeLines o.indent (rustModule o functions))
      else .ok (writeLines o.indent (rustModule o functions))).mapError .layout).map
        (withHeader o "//" functions)) := by
  simp only [render]
  rw [writeLines_headerLines]
  generalize (if o.reflow then Reflow.reflow (writeLines o.indent (rustModule o functions))
    else .ok (writeLines o.indent (rustModule o functions))) = code
  cases code <;> rfl

theorem render_python :
    render .python o functions = .ok (withHeader o "#" functions (writeLines o.indent (pythonModule o functions))) := by
  rw [render, writeLines_behind]

theorem render_csharp :
    render .csharp o functions =
      .ok (withHeader o "//" functions (writeLines fixedIndent (csharpClass o functions))) := by
  rw [render, writeTokens, layout_csharpFile, writeLines_behind]

theorem render_go :
    render .go o functions = .ok (withHeader o "//" functions (writeLines fixedIndent (goPackage o functions))) := by
  rw [render, writeTokens, layout_goFile, writeLines_behind]

theorem render_java :
    render .java o functions = .ok (withHeader o "//" functions (writeLines fixedIndent (javaClass o functions))) := by
  rw [render, writeTokens, layout_javaFile, writeLines_behind]

end

end TapeLang.Code
