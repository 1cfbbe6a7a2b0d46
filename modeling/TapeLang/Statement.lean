import TapeLang.Symbol

/-!
# Statements

Every symbol becomes exactly one statement. Loops stay flat here: an opening and a closing statement around their
body.
-/

namespace TapeLang

/-- One step of a program for a byte tape. -/
inductive Statement where
  | increment
  | decrement
  | move (delta : Int64)
  | write
  | read
  | loopOpen
  | loopClose
  deriving DecidableEq

namespace Statement

def ofSymbol : Symbol → Statement
  | .increment => .increment
  | .decrement => .decrement
  | .right => .move 1
  | .left => .move (-1)
  | .write => .write
  | .read => .read
  | .loopOpen => .loopOpen
  | .loopClose => .loopClose

def isBracket : Statement → Bool
  | .loopOpen => true
  | .loopClose => true
  | _ => false

/-- A move is written with its sign, which zero takes as a plus. -/
def describe : Statement → String
  | .increment => "increment"
  | .decrement => "decrement"
  | .move d => if 0 ≤ d then s!"move +{d}" else s!"move {d}"
  | .write => "write"
  | .read => "read"
  | .loopOpen => "loop \x7b"
  | .loopClose => "\x7d"

end Statement

/-- The statements of a program, one for each symbol. -/
def emit (program : List Occurrence) : List Statement :=
  program.map fun o => .ofSymbol o.symbol

end TapeLang
