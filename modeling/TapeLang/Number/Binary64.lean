import TapeLang.Number.Bound

/-!
# Floating point numbers

Non-negative numbers with 53 significant bits: the one nearest to a decimal, and the shortest decimal that it is
nearest to.
-/

namespace TapeLang.Number

/-- The decimal `digits · 10 ^ exponent`. -/
structure Decimal where
  digits : Nat
  exponent : Int
  deriving DecidableEq

/-- The number `bits · 2 ^ exponent`. -/
structure Binary64 where
  bits : Nat
  exponent : Int
  deriving DecidableEq

/-- The integer nearest to `num / den`, the even one if two are. -/
def nearestEven (num den : Nat) : Nat :=
  let q := num / den
  let twice := 2 * (num % den)
  if twice < den ∨ (twice = den ∧ q % 2 = 0) then q else q + 1

/-- The numerator and the denominator of `num / den · base ^ e`. -/
def scaled (num den base : Nat) (e : Int) : Nat × Nat :=
  if 0 ≤ e then (num * Nat.pow base e.toNat, den) else (num, den * Nat.pow base (-e).toNat)

namespace Binary64

def least : Int := -1074

/-- The number nearest to `num / den`, or none if that is too large. -/
def ofRatio? (num den : Nat) : Option Binary64 :=
  if num = 0 then some ⟨0, least⟩
  else
    let guess := max ((num.log2 : Int) - den.log2 - 53) least
    let (n, d) := scaled num den 2 (-guess)
    let e := if n < bound 53 * d then guess else guess + 1
    let (n, d) := scaled num den 2 (-e)
    let bits := nearestEven n d
    if 971 < e ∨ (e = 971 ∧ bound 53 ≤ bits) then none else some ⟨bits, e⟩

/-- The number nearest to a decimal, or none if that is too large. A decimal far outside of the range is not
computed. -/
def ofDecimal? (d : Decimal) : Option Binary64 :=
  let size : Int := (Nat.toDigits 10 d.digits).length + d.exponent
  if d.digits = 0 ∨ size < -330 then some ⟨0, least⟩
  else if 320 < size then none
  else
    let (n, m) := scaled d.digits 1 10 d.exponent
    ofRatio? n m

/-- Whether `x` is the number nearest to `num / den`. -/
def isNearest (x : Binary64) (num den : Nat) : Bool :=
  let (n, d) := scaled (4 * num) den 2 (-x.exponent)
  -- the gap below a power of two is half as wide as the gap above it
  let below := if x.bits = bound 52 ∧ least < x.exponent then 1 else 2
  if x.bits % 2 = 0 then (4 * x.bits - below) * d ≤ n && n ≤ (4 * x.bits + 2) * d
  else (4 * x.bits - below) * d < n && n < (4 * x.bits + 2) * d

/-- The multiple of `10 ^ k` that has `x` as its nearest number; of two the nearer, and the upper one if both are
equally near. -/
def onGrid? (x : Binary64) (k : Int) : Option Decimal :=
  let (n, d) := scaled x.bits 1 2 x.exponent
  let (n, d) := scaled n d 10 (-k)
  let lower := n / d
  let fits (m : Nat) : Bool :=
    let (a, b) := scaled m 1 10 k
    0 < m && x.isNearest a b
  match fits lower, fits (lower + 1) with
  | true, true => some ⟨if 2 * (n % d) < d then lower else lower + 1, k⟩
  | true, false => some ⟨lower, k⟩
  | false, true => some ⟨lower + 1, k⟩
  | false, false => none

/-- The shortest decimal on the grids from `10 ^ k` downward. -/
def shortestFrom (x : Binary64) : (fuel : Nat) → Int → Decimal
  | 0, _ => ⟨0, 0⟩
  | n + 1, k =>
    match x.onGrid? k with
    | some d => d
    | none => shortestFrom x n (k - 1)

/-- The shortest decimal that has `x` as its nearest number. -/
def shortest (x : Binary64) : Decimal :=
  if x.bits = 0 then ⟨0, 0⟩ else shortestFrom x 700 310

end Binary64

/-- The decimal without an exponent, with at least one digit on either side of the point. -/
def Decimal.text (d : Decimal) : String :=
  let ds := Nat.toDigits 10 d.digits
  if 0 ≤ d.exponent then
    String.ofList (if d.digits = 0 then ds else ds ++ List.replicate d.exponent.toNat '0') ++ ".0"
  else
    let places := (-d.exponent).toNat
    let ds := List.replicate (places + 1 - ds.length) '0' ++ ds
    String.ofList (ds.take (ds.length - places) ++ '.' :: ds.drop (ds.length - places))

end TapeLang.Number
