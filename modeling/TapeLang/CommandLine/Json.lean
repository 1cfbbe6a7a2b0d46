import TapeLang.Host

/-!
# JSON

Values written over several lines, two spaces further in for each level, and the values that stand for reports and
their parts.
-/

namespace TapeLang

open Code (Value)

namespace Json

/-- Four hexadecimal digits. -/
def fourDigits (n : Nat) : List Char :=
  let ds := Text.hexDigits n
  List.replicate (4 - ds.length) '0' ++ ds

/-- A character inside a text. -/
def writtenChar (c : Char) : List Char :=
  if c = '"' then ['\\', '"']
  else if c = '\\' then ['\\', '\\']
  else if c = '\n' then ['\\', 'n']
  else if c = '\r' then ['\\', 'r']
  else if c = '\t' then ['\\', 't']
  else if c.toNat = 8 then ['\\', 'b']
  else if c.toNat = 12 then ['\\', 'f']
  else if c.toNat < 32 then ['\\', 'u'] ++ fourDigits c.toNat
  else [c]

def writtenText (s : String) : String :=
  String.ofList ('"' :: (s.toList.flatMap writtenChar ++ ['"']))

/-- A line end and the indentation of a level. -/
def newLine (level : Nat) : String := String.ofList ('\n' :: List.replicate (2 * level) ' ')

/-- Items between brackets, each on a line of its own. -/
def bracketed (level : Nat) (opening closing : String) (items : List String) : String :=
  if items.isEmpty then opening ++ closing
  else
    opening ++ newLine (level + 1) ++ (("," ++ newLine (level + 1)).intercalate items) ++ newLine level ++ closing

mutual

/-- A value at a level. -/
def written (level : Nat) : Value → String
  | .null => "null"
  | .bool b => if b then "true" else "false"
  | .int n => toString n
  | .real negative x => (if negative then "-" else "") ++ x.shortest.text
  | .text s => writtenText s
  | .list items => bracketed level "[" "]" (writtenItems (level + 1) items)
  | .object fields => bracketed level "\x7b" "\x7d" (writtenFields (level + 1) fields)

def writtenItems (level : Nat) : List Value → List String
  | [] => []
  | v :: rest => written level v :: writtenItems level rest

def writtenFields (level : Nat) : List (String × Value) → List String
  | [] => []
  | (key, v) :: rest => (writtenText key ++ ": " ++ written level v) :: writtenFields level rest

end

/-- A value as a text of its own. -/
def text (v : Value) : String := written 0 v ++ "\n"

def texts (items : List String) : Value := .list (items.map .text)

/-- A field, if there is a value for it. -/
def given (key : String) (v : Option Value) : List (String × Value) :=
  v.toList.map fun x => (key, x)

/-- A kind with its details. -/
def detailed (kind : String) (fields : List (String × Value)) : Value :=
  .object [("kind", .text kind), ("detail", .object fields)]

end Json

open Json

def Position.value (p : Position) : Value :=
  .object [("offset", .int p.offset), ("line", .int p.line), ("column", .int p.column)]

def BracketError.kind : BracketError → String
  | .unclosed _ => "unmatched_loop_open"
  | .unopened _ => "unmatched_loop_close"

def CompileError.value : CompileError → Value
  | .brackets e => detailed "structural" [("kind", .text e.kind), ("position", e.position.value)]
  | .nameTaken name first => detailed "duplicate_function" [("name", .text name), ("first", .text first)]
  | .noName file => detailed "invalid_name" [("file", .text file)]

def Statement.value : Statement → Value
  | .increment => .object [("op", .text "increment")]
  | .decrement => .object [("op", .text "decrement")]
  | .move delta => .object [("op", .text "move_pointer"), ("delta", .int delta.toInt)]
  | .write => .object [("op", .text "write")]
  | .read => .object [("op", .text "read")]
  | .loopOpen => .object [("op", .text "loop_open")]
  | .loopClose => .object [("op", .text "loop_close")]

def Rejection.value (r : Rejection) : Value :=
  .object [("file", .text r.file), ("error", r.error.value)]

def Report.value (r : Report) : Value :=
  .object [("target", .text r.target.name), ("sources", texts r.sources), ("functions", texts r.functions),
    ("failures", .list (r.rejections.map Rejection.value)), ("emitted", r.emitted.elim .null .text)]

end TapeLang
