import TapeLang.Code.Line

/-!
# Quoted code

Code can be quoted as tokens: literals, and between them whitespace and changes of depth. Whitespace is pending until a
literal follows it. Of the pending whitespace the widest is written. A change of depth drops what is pending and begins
a new line, unless the depth is back at that of the last line before a literal follows. Nothing is written before the
first literal and behind the last one.
-/

namespace TapeLang.Code.Quote

/-- A part of quoted code. -/
inductive Token where
  | text (s : String)
  | space
  /-- The end of a line. -/
  | push
  /-- The end of a line with an empty line behind it. -/
  | line
  | indent
  | unindent
  deriving DecidableEq

/-- Pending whitespace. -/
inductive Gap where
  | none
  | space
  | push
  | line
  deriving DecidableEq

namespace Gap

/-- The wider one. -/
def join : Gap → Gap → Gap
  | .none, g => g
  | .space, .none => .space
  | .space, g => g
  | .push, .line => .line
  | .push, _ => .push
  | .line, _ => .line

/-- Whether it ends a line. -/
def breaks : Gap → Bool
  | .push => true
  | .line => true
  | _ => false

/-- What stands between two literals on one line. -/
def between : Gap → String
  | .space => " "
  | _ => ""

/-- What stands between two lines. -/
def blanks : Gap → List Line
  | .line => [.blank]
  | _ => []

end Gap

/-- What has been written of quoted code. -/
structure Page where
  /-- The lines, the last one first. -/
  lines : List Line
  /-- The depth of the next literal. -/
  depth : Nat
  /-- The whitespace before the next literal. -/
  gap : Gap

namespace Page

def empty : Page := ⟨[], 0, .none⟩

/-- The lines under a literal that begins a line. There is no empty line above the first one. -/
def under (p : Page) : List Line :=
  if p.lines.isEmpty then [] else p.gap.blanks ++ p.lines

/-- Writes a literal. -/
def write (p : Page) (s : String) : Page :=
  match p.lines with
  | [] => ⟨⟨p.depth, s⟩ :: p.under, p.depth, .none⟩
  | last :: rest =>
    if p.depth = last.depth ∧ p.gap.breaks = false then
      ⟨⟨last.depth, last.text ++ p.gap.between ++ s⟩ :: rest, p.depth, .none⟩
    else ⟨⟨p.depth, s⟩ :: p.under, p.depth, .none⟩

/-- Writes a token. A literal without characters is none. -/
def put (p : Page) : Token → Page
  | .text s => if s = "" then p else p.write s
  | .space => { p with gap := p.gap.join .space }
  | .push => { p with gap := p.gap.join .push }
  | .line => { p with gap := p.gap.join .line }
  | .indent => { p with depth := p.depth + 1, gap := .none }
  | .unindent => { p with depth := p.depth - 1, gap := .none }

def putAll (p : Page) (tokens : List Token) : Page := tokens.foldl put p

end Page

/-- The lines that tokens are written as. -/
def layout (tokens : List Token) : List Line :=
  (Page.empty.putAll tokens).lines.reverse

/-! ### Quoting -/

/-- A line as it is quoted, at its depth in the quotation. It may be a literal or stand for any tokens. -/
structure Row where
  depth : Nat
  tokens : List Token

/-- What stands between two rows at these depths. -/
def turn (before behind : Nat) : List Token :=
  if before < behind then List.replicate (behind - before) .indent
  else if behind < before then List.replicate (before - behind) .unindent
  else [.push]

/-- The tokens of quoted rows. -/
def quote : List Row → List Token
  | [] => []
  | [r] => r.tokens
  | r :: s :: rest => r.tokens ++ (turn r.depth s.depth ++ quote (s :: rest))

/-- Lines that are literals. -/
def literals (lines : List Line) : List Row :=
  lines.map fun l => ⟨l.depth, [.text l.text]⟩

end TapeLang.Code.Quote
