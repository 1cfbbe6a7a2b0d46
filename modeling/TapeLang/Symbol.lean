/-!
# Symbols and where they stand

A program text is read as its eight symbols; every other character is a comment. Each kept symbol remembers its
place in the raw text, counted in characters, so that a later complaint can point at it.
-/

namespace TapeLang

/-- The eight symbols of the tape language. -/
inductive Symbol where
  | increment
  | decrement
  | right
  | left
  | write
  | read
  | loopOpen
  | loopClose
  deriving DecidableEq

namespace Symbol

/-- The symbol a character stands for, if any. -/
def ofChar? : Char → Option Symbol
  | '+' => some .increment
  | '-' => some .decrement
  | '>' => some .right
  | '<' => some .left
  | '.' => some .write
  | ',' => some .read
  | '[' => some .loopOpen
  | ']' => some .loopClose
  | _ => none

def toChar : Symbol → Char
  | .increment => '+'
  | .decrement => '-'
  | .right => '>'
  | .left => '<'
  | .write => '.'
  | .read => ','
  | .loopOpen => '['
  | .loopClose => ']'

theorem ofChar?_toChar (s : Symbol) : ofChar? s.toChar = some s := by
  cases s <;> rfl

end Symbol

/-- A place in a text: characters before it, and its line and column counted from one. -/
structure Position where
  offset : Nat
  line : Nat
  column : Nat
  deriving DecidableEq

namespace Position

def start : Position := ⟨0, 1, 1⟩

/-- The place after `c`. Only a line feed starts a line. -/
def after (p : Position) (c : Char) : Position :=
  if c = '\n' then ⟨p.offset + 1, p.line + 1, 1⟩ else ⟨p.offset + 1, p.line, p.column + 1⟩

def describe (p : Position) : String :=
  s!"line {p.line}, column {p.column} (offset {p.offset})"

end Position

/-- A symbol of a program together with its place. -/
structure Occurrence where
  symbol : Symbol
  position : Position
  deriving DecidableEq

/-- The symbols of the characters `cs`, which start at place `p`. -/
def lexFrom (p : Position) : List Char → List Occurrence
  | [] => []
  | c :: cs =>
    match Symbol.ofChar? c with
    | some s => ⟨s, p⟩ :: lexFrom (p.after c) cs
    | none => lexFrom (p.after c) cs

/-- The symbols of a text in order, with their places. -/
def lex (text : String) : List Occurrence :=
  lexFrom .start text.toList

end TapeLang
