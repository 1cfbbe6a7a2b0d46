import TapeLang.Block
import TapeLang.Tape
import TapeLang.Code.Quote

/-!
# Dialects

A dialect tells how a target writes each statement and the ends of a loop. A body is laid out in one of two ways:
`Dialect.flatLines` goes through the statements with a depth counter, `Dialect.forestTokens` quotes the nested blocks.
On a body whose brackets match both give every loop its own place.
-/

namespace TapeLang.Code

/-- How a target writes the statements of a body. The lines of a statement are placed relative to its depth. -/
structure Dialect where
  increment : List Line
  decrement : List Line
  move : Nat → List Line
  write : List Line
  read : List Line
  /-- The lines that begin a loop. -/
  enter : List String
  /-- The lines that end a loop. -/
  leave : List String
  /-- What stands in a loop without statements, in a flat layout. -/
  idle : List String

namespace Dialect

/-- The lines of a statement on a tape asked for with `size` cells. Brackets have none here. -/
def statement (d : Dialect) (size : Nat) : Statement → List Line
  | .increment => d.increment
  | .decrement => d.decrement
  | .move delta => d.move (pointerStep delta.toInt size)
  | .write => d.write
  | .read => d.read
  | .loopOpen => []
  | .loopClose => []

/-- The lines of `body` from `depth` on, where `entered` says whether a loop has just begun. The depth never falls
below zero. -/
def flatLines (d : Dialect) (size depth : Nat) (entered : Bool) : List Statement → List Line
  | [] => []
  | .loopOpen :: rest => linesAt depth d.enter ++ d.flatLines size (depth + 1) true rest
  | .loopClose :: rest =>
    (if entered then linesAt depth d.idle else []) ++ linesAt (depth - 1) d.leave ++
      d.flatLines size (depth - 1) false rest
  | s :: rest => (d.statement size s).map (·.inward depth) ++ d.flatLines size depth false rest

open Quote (Token literals quote)

mutual

/-- The tokens of one block. -/
def blockTokens (d : Dialect) (size : Nat) : Block → List Token
  | .plain s => quote (literals (d.statement size s))
  | .loop body =>
    quote (literals (linesAt 0 d.enter) ++ ⟨1, d.forestTokens size body⟩ :: literals (linesAt 0 d.leave))

/-- The tokens of blocks, each with the end of a line behind it. -/
def forestTokens (d : Dialect) (size : Nat) : List Block → List Token
  | [] => []
  | b :: rest => d.blockTokens size b ++ .push :: d.forestTokens size rest

end

end Dialect

end TapeLang.Code
