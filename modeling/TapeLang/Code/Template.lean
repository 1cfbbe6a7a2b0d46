import TapeLang.Target
import TapeLang.Number.Binary64
import TapeLang.Text.Quoted
import TapeLang.Text.WhiteSpace
import TapeLang.Code.Line

/-!
# The class template

TypeScript modules are produced from a template over a context of loosely typed values. The template is text with tags
in it; conditions and loops go from one tag to another. A tag on a line of its own leaves nothing of this line
(`trimmed`). What the context does not define is written as nothing; a value that cannot be used where the template
needs it is an error at that line of the template.
-/

namespace TapeLang.Code

/-- A value of a template context. -/
inductive Value where
  | null
  | bool (b : Bool)
  | int (n : Int)
  | real (negative : Bool) (x : Number.Binary64)
  | text (s : String)
  | list (items : List Value)
  | object (fields : List (String × Value))

namespace Value

/-- The kind of a value in error messages; a value that is missing is undefined. -/
def kind : Option Value → String
  | none => "undefined"
  | some .null => "none"
  | some (.bool _) => "bool"
  | some (.int _) => "number"
  | some (.real _ _) => "number"
  | some (.text _) => "string"
  | some (.list _) => "sequence"
  | some (.object _) => "map"

/-- The field `key` of an object. -/
def field? (key : String) : Value → Option Value
  | .object fields => (fields.find? (·.1 = key)).map (·.2)
  | _ => none

mutual

/-- A value inside a list or an object. -/
def inner : Value → String
  | .null => "None"
  | .bool b => if b then "True" else "False"
  | .int n => toString n
  | .real negative x => (if negative then "-" else "") ++ x.shortest.text
  | .text s => Text.quoted s
  | .list items => "[" ++ ", ".intercalate (innerList items) ++ "]"
  | .object fields => "\x7b" ++ ", ".intercalate (innerFields fields) ++ "\x7d"

def innerList : List Value → List String
  | [] => []
  | v :: rest => v.inner :: innerList rest

def innerFields : List (String × Value) → List String
  | [] => []
  | (k, v) :: rest => (Text.quoted k ++ ": " ++ v.inner) :: innerFields rest

end

/-- How a template writes a value: text as it is, and what is undefined as nothing. -/
def written : Option Value → String
  | none => ""
  | some (.text s) => s
  | some v => v.inner

/-- Whether a condition holds. -/
def isTrue : Option Value → Bool
  | none => false
  | some .null => false
  | some (.bool b) => b
  | some (.int n) => n ≠ 0
  | some (.real _ x) => x.bits ≠ 0
  | some (.text s) => s ≠ ""
  | some (.list items) => !items.isEmpty
  | some (.object fields) => !fields.isEmpty

/-- The items that a loop goes through: of an object its keys, of a text its characters. -/
def items? : Option Value → Option (List Value)
  | none => some []
  | some .null => some []
  | some (.list items) => some items
  | some (.object fields) => some (fields.map fun f => .text f.1)
  | some (.text s) => some (s.toList.map fun c => .text (String.ofList [c]))
  | _ => none

/-- Twice a value: a number doubled, a text or list repeated. -/
def twice? : Option Value → Option Value
  | some (.int n) => some (.int (n * 2))
  | some (.real negative x) => some (.real negative ⟨x.bits, x.exponent + 1⟩)
  | some (.bool b) => some (.int (if b then 2 else 0))
  | some (.text s) => some (.text (s ++ s))
  | some (.list items) => some (.list (items ++ items))
  | _ => none

/-- The whole number that a value counts: one that fits in 64 bits, or in 63 if it is a floating point number. -/
def count? : Value → Option Nat
  | .int n => if 0 ≤ n ∧ n < Number.bound 64 then some n.toNat else none
  | .real negative x =>
    let (n, d) := Number.scaled x.bits 1 2 x.exponent
    if n % d = 0 ∧ n / d < Number.bound 63 ∧ (negative = false ∨ n = 0) then some (n / d) else none
  | _ => none

end Value

/-- Why a template gave no text, with the line of the template where it matters. -/
inductive TemplateError where
  | untemplated (target : Target)
  | notIterable (kind : String) (line : Nat)
  | notMultiplied (kind : String) (line : Nat)
  | notText (line : Nat)
  | notCount (kind : String) (line : Nat)
  deriving DecidableEq

namespace TemplateError

def place (line : Nat) : String := s!"(in typescript.jinja:{line})"

def message : TemplateError → String
  | .untemplated t => s!"Template not found: {t.name}"
  | .notIterable kind line =>
    s!"Template render error: invalid operation: {kind} is not iterable {place line}"
  | .notMultiplied kind line => "Template render error: invalid operation: " ++
      s!"tried to use * operator on unsupported types {kind} and number {place line}"
  | .notText line => s!"Template render error: invalid operation: value is not a string {place line}"
  | .notCount kind line =>
    s!"Template render error: invalid operation: cannot convert {kind} to usize {place line}"

end TemplateError

/-- The lines of `cs`, where `line` is the line read so far, latest first. A line feed ends a line and takes a
carriage return before it along; nothing follows the last line feed. -/
def textLinesFrom (line : List Char) : List Char → List (List Char)
  | [] => if line = [] then [] else [line.reverse]
  | c :: cs =>
    if c = '\n' then (match line with | '\r' :: l => l.reverse | l => l.reverse) :: textLinesFrom [] cs
    else textLinesFrom (c :: line) cs

/-- Puts `spaces` spaces before each line of a text that is not empty. -/
def indentText (spaces : Nat) (text : String) : String :=
  let indented := (textLinesFrom [] text.toList).map fun l =>
    if l = [] then [] else List.replicate spaces ' ' ++ l
  String.ofList (['\n'].intercalate indented)

namespace Template

/-! ### Expressions -/

/-- An expression in a tag. -/
inductive Expr where
  | name (n : String)
  | field (n key : String)
  | not (e : Expr)
  | twice (e : Expr)
  /-- A text with spaces before each of its lines. -/
  | indent (e width : Expr)
  deriving DecidableEq

/-- The values that names stand for. -/
abbrev Scope := String → Option Value

namespace Scope

/-- The fields of a context. -/
def ofContext (context : Value) : Scope := fun n => context.field? n

/-- The scope of one round of a loop, where `loop` tells whether it is the first one. -/
def enter (scope : Scope) (n : String) (v : Value) (first : Bool) : Scope := fun m =>
  if m = n then some v else if m = "loop" then some (.object [("first", .bool first)]) else scope m

end Scope

/-- The value of an expression on a line of the template. -/
def Expr.eval (line : Nat) (scope : Scope) : Expr → Except TemplateError (Option Value)
  | .name n => .ok (scope n)
  | .field n key => .ok ((scope n).bind (·.field? key))
  | .not e => do return some (.bool !(Value.isTrue (← e.eval line scope)))
  | .twice e => do
    let v ← e.eval line scope
    match Value.twice? v with
    | some w => return some w
    | none => throw (.notMultiplied (Value.kind v) line)
  | .indent e width => do
    let v ← e.eval line scope
    let w ← width.eval line scope
    match v with
    | some (.text s) =>
      match w.bind Value.count? with
      | some n => return some (.text (indentText n s))
      | none => throw (.notCount (Value.kind w) line)
    | _ => throw (.notText line)

/-! ### Tags -/

/-- A part of the template as it stands in its file. -/
inductive Piece where
  | text (s : String)
  | print (e : Expr)
  | ifTag (condition : Expr)
  | forTag (n : String) (items : Expr)
  | endIf
  | endFor
  deriving DecidableEq

/-- Whether a piece is a tag that writes nothing by itself. -/
def Piece.isBlock : Piece → Bool
  | .text _ => false
  | .print _ => false
  | _ => true

/-- Every piece with the line of the template that it begins on, where the first one begins on `line`. -/
def numbered (line : Nat) : List Piece → List (Nat × Piece)
  | [] => []
  | .text s :: rest => (line, .text s) :: numbered (line + s.toList.count '\n') rest
  | p :: rest => (line, p) :: numbered line rest

/-- What is left of a text behind a block tag: a line feed right behind the tag is dropped. -/
def trimStart (s : String) : String :=
  match s.toList with
  | '\n' :: cs => String.ofList cs
  | _ => s

/-- What is left of a text before a block tag: white space in front of the tag is dropped if the tag is the first on
its line. -/
def trimEnd (s : String) : String :=
  let kept := s.toList.reverse.dropWhile fun c => Text.whiteSpace.contains c && c != '\n'
  match kept with
  | [] => ""
  | '\n' :: _ => String.ofList kept.reverse
  | _ => s

/-- The pieces without the white space around block tags, where `behind` says whether one is before them. -/
def trimmed (behind : Bool) : List (Nat × Piece) → List (Nat × Piece)
  | [] => []
  | (line, .text s) :: rest =>
    let s := if behind then trimStart s else s
    let s := if rest.head?.any (·.2.isBlock) then trimEnd s else s
    (line, .text s) :: trimmed false rest
  | (line, p) :: rest => (line, p) :: trimmed p.isBlock rest

/-! ### Blocks -/

/-- A part of the template with what is inside its blocks. -/
inductive Node where
  | text (s : String)
  | print (line : Nat) (e : Expr)
  | ifTrue (line : Nat) (condition : Expr) (body : List Node)
  | forEach (line : Nat) (n : String) (items : Expr) (body : List Node)

/-- A block whose end has not been read. -/
inductive Opening where
  | ifTrue (line : Nat) (condition : Expr)
  | forEach (line : Nat) (n : String) (items : Expr)

/-- Reads pieces into the open blocks `outer` around `here`, whose nodes are there latest first. There is no result if
a block ends that is not the innermost one, or does not end. -/
def nodesInto (here : List Node) (outer : List (Opening × List Node)) : List (Nat × Piece) → Option (List Node)
  | [] => if outer.isEmpty then some here.reverse else none
  | (_, .text s) :: rest => nodesInto (.text s :: here) outer rest
  | (line, .print e) :: rest => nodesInto (.print line e :: here) outer rest
  | (line, .ifTag condition) :: rest => nodesInto [] ((.ifTrue line condition, here) :: outer) rest
  | (line, .forTag n items) :: rest => nodesInto [] ((.forEach line n items, here) :: outer) rest
  | (_, .endIf) :: rest =>
    match outer with
    | (.ifTrue line condition, up) :: around => nodesInto (.ifTrue line condition here.reverse :: up) around rest
    | _ => none
  | (_, .endFor) :: rest =>
    match outer with
    | (.forEach line n items, up) :: around => nodesInto (.forEach line n items here.reverse :: up) around rest
    | _ => none

/-- The nodes of a template file. -/
def nodes? (file : List Piece) : Option (List Node) :=
  nodesInto [] [] (trimmed false (numbered 1 file))

/-! ### Writing -/

/-- The items of `v` for the loop on `line`. -/
def itemsAt (line : Nat) (v : Option Value) : Except TemplateError (List Value) :=
  match Value.items? v with
  | some items => .ok items
  | none => .error (.notIterable (Value.kind v) line)

/-- The texts that `f` gives for each value, one after the other. -/
def concat (f : Value → Except TemplateError String) : List Value → Except TemplateError String
  | [] => .ok ""
  | v :: rest => do return (← f v) ++ (← concat f rest)

/-- The texts that `f` gives for each value, where it is told which value is the first. -/
def rounds (f : Bool → Value → Except TemplateError String) : List Value → Except TemplateError String
  | [] => .ok ""
  | v :: rest => do return (← f true v) ++ (← concat (f false) rest)

mutual

/-- The text of a node. -/
def writeNode (scope : Scope) : Node → Except TemplateError String
  | .text s => .ok s
  | .print line e => do return Value.written (← e.eval line scope)
  | .ifTrue line condition body => do
    if Value.isTrue (← condition.eval line scope) then writeNodes scope body else return ""
  | .forEach line n items body => do
    let items ← itemsAt line (← items.eval line scope)
    rounds (fun first v => writeNodes (scope.enter n v first) body) items

/-- The text of nodes. -/
def writeNodes (scope : Scope) : List Node → Except TemplateError String
  | [] => .ok ""
  | node :: rest => do return (← writeNode scope node) ++ (← writeNodes scope rest)

end

/-! ### The template of TypeScript modules -/

/-- The template as it stands in its file. -/
def file : List Piece := [
  .ifTag (.name "provenance"), .text "\n",
  .forTag "line" (.name "provenance"), .text "\n// ", .print (.name "line"), .text "\n", .endFor,
  .text "\n\n", .endIf,
  .text "\nexport const TAPE_SIZE = ", .print (.name "tape_size"),
  .text ";\n\nexport class ", .print (.name "container"), .text " \x7b\n",
  .forTag "function" (.name "functions"), .text "\n",
  .ifTag (.not (.field "loop" "first")), .text "\n\n", .endIf,
  .text "\n  /** Compiled from ", .print (.field "function" "source"),
  .text " */\n  static ", .print (.field "function" "name"),
  .text ("(input: string = \"\"): string \x7b\n    const tape = new Uint8Array(TAPE_SIZE);\n    let ptr = 0;\n" ++
    "    let inputPos = 0;\n    let output = \"\";\n"),
  .forTag "line" (.field "function" "lines"), .text "\n",
  .print (.indent (.field "line" "text") (.twice (.field "line" "depth"))), .text "\n", .endFor,
  .text "\n    return output;\n  \x7d\n", .endFor,
  .text "\n\x7d\n"]

/-- The module that a context describes. -/
def render (context : Value) : Except TemplateError String :=
  writeNodes (.ofContext context) ((nodes? file).getD [])

/-- The name of a target's template, for the targets that have one. -/
def name? : Target → Option String
  | .typescript => some "typescript.jinja"
  | _ => none

/-- Renders the template of a target. -/
def renderFor (t : Target) (context : Value) : Except TemplateError String :=
  match name? t with
  | some _ => render context
  | none => .error (.untemplated t)

end Template

end TapeLang.Code
