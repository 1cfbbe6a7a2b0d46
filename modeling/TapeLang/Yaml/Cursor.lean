import TapeLang.Text.Width

/-!
# Reading places in a document

A mark is a place in a document; a cursor is the text from a mark on. A line ends at a line feed, a carriage return
with or without a line feed, a next-line character, or a Unicode line or paragraph separator.
-/

namespace TapeLang.Yaml

/-- A place in a document: the bytes, lines and columns before it. -/
structure Mark where
  offset : Nat
  line : Nat
  column : Nat
  deriving DecidableEq

namespace Mark

def start : Mark := ⟨0, 0, 0⟩

/-- The place behind `passed`, which ends no line. -/
def right (m : Mark) (passed : List Char) : Mark :=
  ⟨m.offset + Text.byteCount passed, m.line, m.column + passed.length⟩

/-- The beginning of the next line, behind the line end `passed`. -/
def down (m : Mark) (passed : List Char) : Mark := ⟨m.offset + Text.byteCount passed, m.line + 1, 0⟩

/-- How a message ends that is about this place. The first place is not mentioned. -/
def suffix (m : Mark) : String :=
  if m.line = 0 ∧ m.column = 0 then "" else s!" at line {m.line + 1} column {m.column + 1}"

end Mark

/-- Whether `c` ends a line. -/
def isBreak (c : Char) : Bool := [0x0a, 0x0d, 0x85, 0x2028, 0x2029].contains c.toNat

/-- Whether `c` is a space or a tab. -/
def isBlank (c : Char) : Bool := c = ' ' || c = '\t'

/-- Whether the document goes on here with a blank, a line end, or nothing. -/
def gapAhead : List Char → Bool
  | [] => true
  | c :: _ => isBlank c || isBreak c

/-- Whether the document goes on here with a line end or nothing. -/
def breakAhead : List Char → Bool
  | [] => true
  | c :: _ => isBreak c

/-- Whether `c` may stand in a name of an anchor, a directive or a tag handle. -/
def isNameChar (c : Char) : Bool :=
  ('a' ≤ c && c ≤ 'z') || ('A' ≤ c && c ≤ 'Z') || ('0' ≤ c && c ≤ '9') || c = '_' || c = '-'

/-- The rest of a document from a mark on. -/
structure Cursor where
  rest : List Char
  mark : Mark

namespace Cursor

def ofText (cs : List Char) : Cursor := ⟨cs, .start⟩

/-- Passes `n` characters that end no line. -/
def skip (c : Cursor) (n : Nat := 1) : Cursor := ⟨c.rest.drop n, c.mark.right (c.rest.take n)⟩

/-- Passes the line end here, if there is one. -/
def skipBreak (c : Cursor) : Cursor :=
  match c.rest with
  | '\r' :: '\n' :: rest => ⟨rest, c.mark.down ['\r', '\n']⟩
  | b :: rest => if isBreak b then ⟨rest, c.mark.down [b]⟩ else c
  | [] => c

/-- What the line end here stands for: a line feed, except for the Unicode separators. -/
def breakText (c : Cursor) : List Char :=
  match c.rest with
  | b :: _ => if b.toNat = 0x2028 ∨ b.toNat = 0x2029 then [b] else ['\n']
  | [] => []

/-- Passes the characters that satisfy `p`, none of which ends a line. -/
def skipWhile (p : Char → Bool) (c : Cursor) : Cursor :=
  c.skip (c.rest.takeWhile p).length

/-- The characters ahead that satisfy `p`, none of which ends a line, and the cursor behind them. -/
def takeWhile (p : Char → Bool) (c : Cursor) : List Char × Cursor :=
  (c.rest.takeWhile p, c.skipWhile p)

/-- Whether the document goes on with the character `ch`. -/
def at? (c : Cursor) (ch : Char) : Bool := c.rest.head? = some ch

/-- Whether a document marker stands here: three dashes or dots at the beginning of a line, followed by a gap. -/
def atMarker (c : Cursor) : Bool :=
  c.mark.column = 0 &&
    match c.rest with
    | '-' :: '-' :: '-' :: rest => gapAhead rest
    | '.' :: '.' :: '.' :: rest => gapAhead rest
    | _ => false

end Cursor

end TapeLang.Yaml
