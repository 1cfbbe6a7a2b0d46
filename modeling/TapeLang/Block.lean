import TapeLang.Statement

/-!
# Nested loops

`nest` reads a flat list of statements as a forest in which a loop holds its body, and `flatten` writes a forest
back. On a list whose brackets do not match, `nest` drops a close that has no loop to end and ends every loop that
is still open after the last statement.
-/

namespace TapeLang

/-- A statement that is no bracket, or a loop with its body. -/
inductive Block where
  | plain (s : Statement)
  | loop (body : List Block)

namespace Block

/-- Ends every open loop: `here` is the body of the innermost one, latest block first, and `outer` holds the bodies
around it, innermost first. -/
def closeAll (here : List Block) : List (List Block) → List Block
  | [] => here.reverse
  | up :: outer => closeAll (.loop here.reverse :: up) outer

/-- Reads statements into the open loops `outer` around `here`. -/
def nestInto (here : List Block) (outer : List (List Block)) : List Statement → List Block
  | [] => closeAll here outer
  | .loopOpen :: rest => nestInto [] (here :: outer) rest
  | .loopClose :: rest =>
    match outer with
    | [] => nestInto here [] rest
    | up :: around => nestInto (.loop here.reverse :: up) around rest
  | s :: rest => nestInto (.plain s :: here) outer rest

end Block

/-- Pairs every open bracket with the body that its own close ends. -/
def nest (body : List Statement) : List Block :=
  Block.nestInto [] [] body

mutual

/-- The statements of one block. -/
def Block.flatten : Block → List Statement
  | .plain s => [s]
  | .loop body => .loopOpen :: (flattenAll body ++ [.loopClose])

/-- The statements of a forest in order. -/
def flattenAll : List Block → List Statement
  | [] => []
  | b :: rest => b.flatten ++ flattenAll rest

end

end TapeLang
