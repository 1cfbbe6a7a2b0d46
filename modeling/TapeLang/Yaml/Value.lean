import TapeLang.Yaml.Document
import TapeLang.Number.Binary64
import TapeLang.Text.Quoted

/-!
# Values of scalars

A scalar without quotes and tag is null, a truth value, a number or a text, whichever its text fits first. A tag asks
for one of these, and all other scalars are texts.
-/

namespace TapeLang.Yaml

/-- A floating point number. -/
inductive Real where
  | nan
  | infinite (negative : Bool)
  | finite (negative : Bool) (x : Number.Binary64)
  deriving DecidableEq

/-- The value of a scalar. -/
inductive Value where
  | null
  | bool (b : Bool)
  | int (i : Int)
  | real (x : Real)
  | text (s : String)
  deriving DecidableEq

/-! ### Reading plain scalars -/

def isNull (s : List Char) : Bool :=
  ["null", "Null", "NULL", "~"].any (·.toList = s)

def bool? (s : List Char) : Option Bool :=
  if ["true", "True", "TRUE"].any (·.toList = s) then some true
  else if ["false", "False", "FALSE"].any (·.toList = s) then some false
  else none

/-- The digit that `c` stands for in a base. -/
def digit? (base : Nat) (c : Char) : Option Nat :=
  (hexValue? c).bind fun d => if d < base then some d else none

/-- The number that digits write in a base, of which `value` has been read. -/
def digitsFrom? (base value : Nat) : List Char → Option Nat
  | [] => some value
  | c :: cs => (digit? base c).bind fun d => digitsFrom? base (base * value + d) cs

/-- The number that one or more digits write in a base. -/
def digits? (base : Nat) (s : List Char) : Option Nat :=
  if s = [] then none else digitsFrom? base 0 s

/-- Whether `s`, apart from its sign, has more than one digit and begins with a zero. Such a text is no number. -/
def hasLeadingZero (s : List Char) : Bool :=
  let body :=
    match s with
    | '-' :: cs | '+' :: cs => cs
    | cs => cs
  match body with
  | '0' :: d :: ds => (d :: ds).all Char.isDigit
  | _ => false

/-- A number without a sign, in base ten or behind the mark of another base. -/
def magnitude? : List Char → Option Nat
  | '0' :: 'x' :: cs => digits? 16 cs
  | '0' :: 'o' :: cs => digits? 8 cs
  | '0' :: 'b' :: cs => digits? 2 cs
  | cs => digits? 10 cs

/-- A number below `bound` that has no minus sign. -/
def nat? (bound : Nat) (s : List Char) : Option Nat :=
  let body :=
    match s with
    | '+' :: cs => cs
    | cs => cs
  if hasLeadingZero s then none else (magnitude? body).bind fun n => if n < bound then some n else none

/-- A number that fits into 128 bits. -/
def int? (s : List Char) : Option Int :=
  match s with
  | '-' :: cs =>
    if hasLeadingZero s then none
    else (magnitude? cs).bind fun n => if n ≤ Number.bound 127 then some (-(n : Int)) else none
  | _ => (nat? (Number.bound 128) s).map Int.ofNat

/-- The exponent behind a decimal: nothing, or a mark, a sign and digits. -/
def exponent? : List Char → Option Int
  | [] => some 0
  | e :: cs =>
    if e = 'e' ∨ e = 'E' then
      match cs with
      | '-' :: ds => (digits? 10 ds).map fun n => -(n : Int)
      | '+' :: ds => (digits? 10 ds).map Int.ofNat
      | ds => (digits? 10 ds).map Int.ofNat
    else none

/-- A decimal without a sign, with a digit on at least one side of its point. -/
def decimal? (s : List Char) : Option Number.Decimal :=
  let whole := s.takeWhile Char.isDigit
  let (part, rest) :=
    match s.dropWhile Char.isDigit with
    | '.' :: cs => (cs.takeWhile Char.isDigit, cs.dropWhile Char.isDigit)
    | cs => ([], cs)
  (digits? 10 (whole ++ part)).bind fun n => (exponent? rest).map fun e => ⟨n, e - part.length⟩

def isInfinity (s : List Char) : Bool := [".inf", ".Inf", ".INF"].any (·.toList = s)

def finite? (negative : Bool) (s : List Char) : Option Real :=
  (decimal? s).bind fun d => (Number.Binary64.ofDecimal? d).map (Real.finite negative)

def real? (s : List Char) : Option Real :=
  match s with
  | '+' :: cs => if isInfinity cs then some (.infinite false) else finite? false cs
  | '-' :: cs => if isInfinity cs then some (.infinite true) else finite? true cs
  | cs =>
    if isInfinity cs then some (.infinite false)
    else if [".nan", ".NaN", ".NAN"].any (·.toList = cs) then some .nan
    else finite? false cs

/-- The value of a plain scalar. -/
def Value.ofPlain (text : String) : Value :=
  let s := text.toList
  if s = [] ∨ isNull s then .null
  else
    match bool? s, int? s, real? s with
    | some b, _, _ => .bool b
    | none, some i, _ => .int i
    | none, none, some x => if hasLeadingZero s then .text text else .real x
    | none, none, none => .text text

/-! ### Tags -/

/-- The octets of a tag of the common types. -/
def typeTag (name : String) : Octets := octets ("tag:yaml.org,2002:" ++ name)

/-- Whether a tag belongs to the document alone. -/
def isLocalTag (tag : Octets) : Bool := tag.head? = some '!'.toNat.toUInt8

/-- What a local tag names. -/
def localName? (tag : Option Octets) : Option String :=
  tag.bind fun t =>
    if isLocalTag t then String.fromUTF8? ⟨(if t.length = 1 then t else t.tail).toArray⟩ else none

/-- The value of a scalar, or what its tag asks for if the text does not fit. -/
def Scalar.value (s : Scalar) : Except String Value :=
  let cs := s.text.toList
  let fit (v : Option Value) (expected : String) : Except String Value :=
    match v with
    | some v => .ok v
    | none => .error expected
  match s.tag with
  | none => .ok (if s.style = .plain then .ofPlain s.text else .text s.text)
  | some tag =>
    if tag = typeTag "bool" then fit ((bool? cs).map .bool) "a boolean"
    else if tag = typeTag "int" then fit ((int? cs).map .int) "an integer"
    else if tag = typeTag "float" then fit ((real? cs).map .real) "a float"
    else if tag = typeTag "null" then fit (if isNull cs then some .null else none) "null"
    else .ok (if isLocalTag tag ∧ s.style = .plain then .ofPlain s.text else .text s.text)

/-! ### Descriptions -/

def Real.text : Real → String
  | .nan => "NaN"
  | .infinite negative => if negative then "-inf" else "inf"
  | .finite negative x => (if negative then "-" else "") ++ x.shortest.text

/-- A text between grave accents. -/
def ticked (s : String) : String :=
  let tick := String.singleton (Char.ofNat 0x60)
  tick ++ s ++ tick

/-- A number is described with its width if that is more than 64 bits. -/
def Value.describe : Value → String
  | .null => "unit value"
  | .bool b => "boolean " ++ ticked (if b then "true" else "false")
  | .int i =>
    "integer " ++ ticked (toString i) ++
      (if (Number.bound 64 : Int) ≤ i then " as u128" else if i < -(Number.bound 63 : Int) then " as i128" else "")
  | .real x => "floating point " ++ ticked x.text
  | .text s => "string " ++ Text.quoted s

namespace Content

/-- The complaint about a content that is not of the expected kind. -/
def mismatch (expected : String) : Content → String
  | .scalar s =>
    match s.value with
    | .ok v => s!"invalid type: {v.describe}, expected {expected}"
    | .error wanted => s!"invalid value: string {Text.quoted s.text}, expected {wanted}"
  | .sequence _ => s!"invalid type: sequence, expected {expected}"
  | .mapping _ => s!"invalid type: map, expected {expected}"

def tag? : Content → Option Octets
  | .scalar s => s.tag
  | .sequence tag => tag
  | .mapping tag => tag

/-! ### Readers -/

def text? : Content → Option String
  | .scalar s => some s.text
  | _ => none

/-- The text of a scalar that may be of another type: one without quotes, whatever its tag, or a literal one that has
the tag of the type. -/
def typedText? (name : String) : Content → Option (List Char)
  | .scalar s =>
    if s.style = .plain ∨ (s.style = .literal ∧ s.tag = some (typeTag name)) then some s.text.toList else none
  | _ => none

def bool? (c : Content) : Option Bool := (c.typedText? "bool").bind Yaml.bool?

/-- A number of at most 64 bits. -/
def nat? (c : Content) : Option Nat := (c.typedText? "int").bind (Yaml.nat? (Number.bound 64))

/-- Whether a scalar whose tag does not count stands for nothing. -/
def isNothing : Content → Bool
  | .scalar s => s.style = .plain && (s.text = "" || isNull s.text.toList)
  | _ => false

end Content

end TapeLang.Yaml
