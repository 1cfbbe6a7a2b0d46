import TapeLang.Text.CaseTables
import TapeLang.Text.CasedTables

/-!
# Upper and lower case

Case mappings of single characters, which may yield several, and the lower case of a whole text. On ASCII they are
the mapping between `a`–`z` and `A`–`Z`; elsewhere the Unicode tables decide.
-/

namespace TapeLang.Text

def isAsciiUpper (c : Char) : Bool := 'A' ≤ c && c ≤ 'Z'

def isAsciiLower (c : Char) : Bool := 'a' ≤ c && c ≤ 'z'

def isAsciiDigit (c : Char) : Bool := '0' ≤ c && c ≤ '9'

def isAsciiAlphanum (c : Char) : Bool := isAsciiUpper c || isAsciiLower c || isAsciiDigit c

def toAsciiUpper (c : Char) : Char := if isAsciiLower c then Char.ofNat (c.toNat - 32) else c

def toAsciiLower (c : Char) : Char := if isAsciiUpper c then Char.ofNat (c.toNat + 32) else c

/-- The image of `c` under the mapping that `runs` and `expansions` list; `c` itself if they do not. -/
def mapCase (runs : List CaseRun) (expansions : List (Nat × List Nat)) (c : Char) : List Char :=
  match expansions.find? (·.1 = c.toNat) with
  | some (_, image) => image.map Char.ofNat
  | none =>
    match runs.findSome? (·.image? c.toNat) with
    | some n => [Char.ofNat n]
    | none => [c]

/-- The upper case of a character. -/
def upperOf (c : Char) : List Char :=
  if c.toNat < 128 then [toAsciiUpper c] else mapCase upperRuns upperExpansions c

/-- The lower case of a character. -/
def lowerOf (c : Char) : List Char :=
  if c.toNat < 128 then [toAsciiLower c] else mapCase lowerRuns lowerExpansions c

/-- Whether the first of `cs` that is not looked through has a case. -/
def casedAhead (cs : List Char) : Bool :=
  match cs.dropWhile caseIgnorable.contains with
  | [] => false
  | c :: _ => cased.contains c

/-- Lower case of `cs`, where `before` are the characters in front, nearest first. A capital sigma that ends a word
becomes the final form. -/
def lowerFrom (before : List Char) : List Char → List Char
  | [] => []
  | c :: cs =>
    (if c = 'Σ' then [if casedAhead before && !casedAhead cs then 'ς' else 'σ'] else lowerOf c) ++
      lowerFrom (c :: before) cs

/-- The lower case of a text. -/
def lower (s : String) : String :=
  String.ofList (lowerFrom [] s.toList)

end TapeLang.Text
