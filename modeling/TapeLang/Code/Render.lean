import TapeLang.Compile
import TapeLang.Code.Vocabulary
import TapeLang.Code.Template
import TapeLang.Code.Reflow.Layout

/-!
# Rendering functions

All functions of a batch go into one file of the target language: a header that names the sources, the size of the
tape, and one container with a function for each source. Rust and Python code is made of lines, TypeScript code of a
template with the lines of the bodies, and the code of the other targets is quoted.
-/

namespace TapeLang.Code

/-- How to render. -/
structure Options where
  container : String
  tapeSize : Nat
  /-- Whether the file begins with a header naming the sources. -/
  provenance : Bool
  /-- Whether Rust code is put into the standard layout. -/
  reflow : Bool
  /-- The indent of Rust and Python code. -/
  indent : String

namespace Options

def standard : Options := ⟨"BF", 256, true, true, "    "⟩

end Options

/-- Why a batch could not be rendered. -/
inductive RenderError where
  | layout (e : Reflow.SyntaxError)
  | template (e : TemplateError)
  deriving DecidableEq

namespace RenderError

def message : RenderError → String
  | .layout e => s!"Format error: Failed to parse Rust code: {e.message}"
  | .template e => s!"Template error: {e.message}"

end RenderError

/-- The lines of the provenance header, without comment markers. -/
def provenanceLines (functions : List Function) : List String :=
  "Generated by tapegen 0.1.0" :: (functions.map fun f => s!"  {f.source} ({f.digest})") ++
    ["DO NOT EDIT: regenerate from the tape-language sources"]

/-- The provenance header as comment lines and an empty line. -/
def provenanceHeader (marker : String) (functions : List Function) : List Line :=
  linesAt 0 ((provenanceLines functions).map fun l => marker ++ " " ++ l) ++ [.blank]

/-- The lines of the header that a file begins with, if it begins with one. -/
def headerLines (o : Options) (marker : String) (functions : List Function) : List Line :=
  if o.provenance then provenanceHeader marker functions else []

/-- The lines of functions, with an empty line before each. -/
def separated (lines : Function → List Line) (functions : List Function) : List Line :=
  functions.flatMap fun f => .blank :: lines f

/-! ### Rust -/

def rustFunction (o : Options) (f : Function) : List Line :=
  linesAt 1 [s!"// {f.source}", s!"pub fn {escapeWord rustKeywords f.name}(input: &str) -> String \x7b"] ++
    linesAt 2 ["let input = input.as_bytes();", "let mut tape = [0u8; TAPE_SIZE];", "let mut ptr: usize = 0;",
      "let mut input_pos: usize = 0;", "let mut output = String::new();"] ++
    rustDialect.flatLines o.tapeSize 2 false f.body ++
    [⟨2, "output"⟩, ⟨1, "\x7d"⟩]

def rustModule (o : Options) (functions : List Function) : List Line :=
  [⟨0, s!"pub mod {escapeWord rustKeywords (Name.snake o.container)} \x7b"⟩,
    ⟨1, "#![allow(unused_mut, unused_variables, unused_assignments)]"⟩, .blank,
    ⟨1, s!"pub const TAPE_SIZE: usize = {o.tapeSize};"⟩] ++
    separated (rustFunction o) functions ++ [⟨0, "\x7d"⟩]

/-! ### Python -/

def pythonFunction (o : Options) (f : Function) : List Line :=
  linesAt 1 ["@staticmethod", s!"def {escapeWord pythonKeywords f.name}(input: str = \"\") -> str:"] ++
    linesAt 2 [s!"\"\"\"Compiled from {f.source}\"\"\"", "tape = bytearray(TAPE_SIZE)", "ptr = 0", "input_pos = 0",
      "output = []"] ++
    pythonDialect.flatLines o.tapeSize 2 false f.body ++
    [⟨2, "return \"\".join(output)"⟩]

def pythonModule (o : Options) (functions : List Function) : List Line :=
  [⟨0, s!"TAPE_SIZE = {o.tapeSize}"⟩, .blank, .blank, ⟨0, s!"class {o.container}:"⟩] ++
    match functions with
    | [] => [⟨1, "pass"⟩]
    | f :: rest => pythonFunction o f ++ separated (pythonFunction o) rest

/-! ### Quoted files -/

open Quote (Token literals quote)

/-- The header as it is quoted: comments that are joined by the ends of their lines, and an empty line. -/
def headerTokens (o : Options) (functions : List Function) : List Token :=
  let header := if o.provenance then provenanceLines functions else []
  if header.isEmpty then []
  else quote [⟨0, (header.map fun l => Token.text s!"// {l}").intersperse .push⟩, ⟨0, [.line]⟩]

/-- The functions as they are quoted, each behind an empty line. -/
def functionTokens (tokens : Function → List Token) (functions : List Function) : List Token :=
  functions.flatMap fun f => quote [⟨0, [.line]⟩, ⟨0, tokens f⟩]

/-! ### C# -/

/-- The Pascal case name, which must differ from its class and from the constant beside it. -/
def csharpName (o : Options) (name : String) : String :=
  escapeWord [o.container, "TapeSize"] (Name.pascal name)

def csharpMethod (o : Options) (f : Function) : List Token :=
  quote (literals (linesAt 0 [s!"/// <summary>Compiled from {f.source}</summary>",
      s!"public static string {csharpName o f.name}(string input = \"\")", "\x7b"]) ++
    literals (linesAt 1 ["input ??= string.Empty;", "var tape = new byte[TapeSize];", "var ptr = 0;",
      "var inputPos = 0;", "var output = new System.Text.StringBuilder();"]) ++
    ⟨1, csharpDialect.forestTokens o.tapeSize (nest f.body)⟩ ::
    literals [⟨1, "return output.ToString();"⟩, ⟨0, "\x7d"⟩])

def csharpFile (o : Options) (functions : List Function) : List Token :=
  quote [⟨0, headerTokens o functions⟩,
    ⟨0, [.text "public static class", .space, .text o.container]⟩, ⟨0, [.text "\x7b"]⟩,
    ⟨1, [.text s!"public const int TapeSize = {o.tapeSize};"]⟩,
    ⟨1, functionTokens (csharpMethod o) functions⟩, ⟨0, [.text "\x7d"]⟩]

/-! ### Go -/

/-- The Pascal case name, which must differ from the constant beside it. -/
def goName (name : String) : String :=
  escapeWord ["TapeSize"] (Name.pascal name)

def goFunc (o : Options) (f : Function) : List Token :=
  quote (literals (linesAt 0 [s!"// {goName f.name} is compiled from {f.source}",
      s!"func {goName f.name}(input string) string \x7b"]) ++
    literals (linesAt 1 ["var tape [TapeSize]byte", "ptr := 0", "inputPos := 0", "var output strings.Builder",
      "_, _, _ = tape, ptr, inputPos"]) ++
    ⟨1, goDialect.forestTokens o.tapeSize (nest f.body)⟩ ::
    literals [⟨1, "return output.String()"⟩, ⟨0, "\x7d"⟩])

def goFile (o : Options) (functions : List Function) : List Token :=
  quote [⟨0, headerTokens o functions⟩, ⟨0, [.text "package", .space, .text (Text.lower o.container)]⟩, ⟨0, [.line]⟩,
    ⟨0, [.text "import \"strings\""]⟩, ⟨0, [.line]⟩, ⟨0, [.text s!"const TapeSize = {o.tapeSize}"]⟩,
    ⟨0, functionTokens (goFunc o) functions⟩]

/-! ### Java -/

def javaMethods (o : Options) (f : Function) : List Token :=
  let name := escapeWord javaKeywords (Name.camel f.name)
  let doc := s!"/** Compiled from {f.source} */"
  quote (literals [⟨0, doc⟩, ⟨0, s!"public static String {name}() \x7b"⟩, ⟨1, s!"return {name}(\"\");"⟩,
      ⟨0, "\x7d"⟩] ++
    ⟨0, [.line]⟩ ::
    literals [⟨0, doc⟩, ⟨0, s!"public static String {name}(String input) \x7b"⟩, ⟨1, "if (input == null) \x7b"⟩,
      ⟨2, "input = \"\";"⟩, ⟨1, "\x7d"⟩] ++
    literals (linesAt 1 ["int[] tape = new int[TAPE_SIZE];", "int ptr = 0;", "int inputPos = 0;",
      "StringBuilder output = new StringBuilder();"]) ++
    ⟨1, javaDialect.forestTokens o.tapeSize (nest f.body)⟩ ::
    literals [⟨1, "return output.toString();"⟩, ⟨0, "\x7d"⟩])

def javaFile (o : Options) (functions : List Function) : List Token :=
  quote [⟨0, headerTokens o functions⟩,
    ⟨0, [.text "public final class", .space, .text o.container, .space, .text "\x7b"]⟩,
    ⟨1, [.text s!"public static final int TAPE_SIZE = {o.tapeSize};"]⟩, ⟨1, [.line]⟩,
    ⟨1, [.text s!"private {o.container}() \x7b"]⟩, ⟨1, [.text "\x7d"]⟩,
    ⟨1, functionTokens (javaMethods o) functions⟩, ⟨0, [.text "\x7d"]⟩]

/-! ### TypeScript -/

def lineValue (l : Line) : Value :=
  .object [("depth", .int l.depth), ("text", .text l.text)]

def typescriptFunction (o : Options) (f : Function) : Value :=
  .object [("name", .text (escapeWord typescriptReserved (Name.camel f.name))), ("source", .text f.source),
    ("lines", .list ((typescriptDialect.flatLines o.tapeSize 2 false f.body).map lineValue))]

/-- What the class template is told about the functions. -/
def typescriptContext (o : Options) (functions : List Function) : Value :=
  .object [
    ("provenance", if o.provenance then .list ((provenanceLines functions).map .text) else .null),
    ("tape_size", .int o.tapeSize), ("container", .text o.container),
    ("functions", .list (functions.map (typescriptFunction o)))]

/-! ### Files -/

/-- The indent of the targets whose layout is fixed. -/
def fixedIndent : String := "    "

/-- The text of a quoted file. -/
def writeTokens (tokens : List Token) : String :=
  writeLines fixedIndent (Quote.layout tokens)

/-- The file of a target that holds the functions. The header is put before Rust code that is laid out already, and
is part of the code elsewhere. -/
def render (t : Target) (o : Options) (functions : List Function) : Except RenderError String :=
  match t with
  | .rust =>
    let code := writeLines o.indent (rustModule o functions)
    match if o.reflow then Reflow.reflow code else .ok code with
    | .ok text => .ok (writeLines o.indent (headerLines o "//" functions) ++ text)
    | .error e => .error (.layout e)
  | .python => .ok (writeLines o.indent (headerLines o "#" functions ++ pythonModule o functions))
  | .csharp => .ok (writeTokens (csharpFile o functions))
  | .go => .ok (writeTokens (goFile o functions))
  | .java => .ok (writeTokens (javaFile o functions))
  | .typescript =>
    match Template.render (typescriptContext o functions) with
    | .ok text => .ok text
    | .error e => .error (.template e)

/-- The name of the file that the functions of a container are put in. -/
def fileName (t : Target) (container : String) : String :=
  let stem :=
    match t with
    | .rust => Name.snake container
    | .python => Name.snake container
    | .go => Text.lower container
    | .csharp => container
    | .typescript => container
    | .java => container
  stem ++ "." ++ t.extension

end TapeLang.Code
