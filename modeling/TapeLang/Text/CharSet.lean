/-!
# Sets of characters

A set of code points is given by its flips: the code points, in increasing order, at which membership changes. A
code point belongs to the set if an odd number of flips are at or below it.
-/

namespace TapeLang.Text

/-- A set of code points by the places where membership changes. -/
structure CharSet where
  flips : List Nat

namespace CharSet

/-- Whether `c` belongs, given whether code points below the first of `flips` do. -/
def memberFrom (inside : Bool) (c : Nat) : List Nat → Bool
  | [] => inside
  | f :: fs => if c < f then inside else memberFrom (!inside) c fs

def contains (s : CharSet) (c : Char) : Bool :=
  memberFrom false c.toNat s.flips

end CharSet

end TapeLang.Text
