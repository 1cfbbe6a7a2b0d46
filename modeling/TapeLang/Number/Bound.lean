/-!
# Bounds of machine words
-/

namespace TapeLang.Number

/-- The least number that does not fit into `bits` bits. -/
def bound (bits : Nat) : Nat := Nat.pow 2 bits

end TapeLang.Number
