import TapeLang.Symbol

/-!
# Matching loop brackets

One pass from left to right with a stack of the loops that are still open. A close without an open loop is reported
where it stands; if loops are left open at the end, the outermost of them is reported.
-/

namespace TapeLang

/-- The matched brackets of a program: pairs of symbol indices, ordered by the open bracket. -/
structure Matching where
  pairs : List (Nat × Nat)
  deriving DecidableEq

namespace Matching

/-- The index of the bracket matched with the one at `i`. -/
def partner (m : Matching) (i : Nat) : Option Nat :=
  m.pairs.findSome? fun (o, c) => if o = i then some c else if c = i then some o else none

def size (m : Matching) : Nat := m.pairs.length

end Matching

/-- Why the brackets of a program do not match, with the place of the offending one. -/
inductive BracketError where
  | unclosed (position : Position)
  | unopened (position : Position)
  deriving DecidableEq

namespace BracketError

def position : BracketError → Position
  | .unclosed p => p
  | .unopened p => p

def message : BracketError → String
  | .unclosed p => s!"unmatched '[' at {p.describe}: loop is never closed"
  | .unopened p => s!"unmatched ']' at {p.describe}: no open loop to close"

end BracketError

/-- The place of the outermost loop on the stack `pending`, which holds the innermost first. -/
def outermost? (pending : List (Nat × Position)) : Option Position :=
  pending.getLast?.map (·.2)

/-- Matches the brackets of the symbols from index `i` on. `pending` holds the open loops, innermost first, and
`found` the pairs closed so far, latest first. -/
def matchFrom (i : Nat) (pending : List (Nat × Position)) (found : List (Nat × Nat)) :
    List Occurrence → Except BracketError (List (Nat × Nat))
  | [] =>
    match outermost? pending with
    | some p => .error (.unclosed p)
    | none => .ok found
  | s :: rest =>
    match s.symbol with
    | .loopOpen => matchFrom (i + 1) ((i, s.position) :: pending) found rest
    | .loopClose =>
      match pending with
      | [] => .error (.unopened s.position)
      | (o, _) :: outer => matchFrom (i + 1) outer ((o, i) :: found) rest
    | _ => matchFrom (i + 1) pending found rest

/-- Matches every open bracket with its close. -/
def matchBrackets (program : List Occurrence) : Except BracketError Matching :=
  (matchFrom 0 [] [] program).map fun found => ⟨found.mergeSort fun a b => a.1 ≤ b.1⟩

end TapeLang
