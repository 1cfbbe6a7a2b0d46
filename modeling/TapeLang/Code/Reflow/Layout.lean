import TapeLang.Code.Reflow.Items
import TapeLang.Text.Width

/-!
# The layout of Rust code

Tokens are written with four spaces per level, one statement or item on a line, and without comments and empty
lines. Braces with nothing between them stay together. The parameters of a function go on a line of their own when
the line of its name would be wider than 89 bytes.
-/

namespace TapeLang.Code.Reflow

/-- A line of tokens at a depth. -/
structure Row where
  depth : Nat
  tokens : List Token

/-- The rows of tokens. `line` is the row read so far, latest token first, `depth` its depth, and `inside` the number
of parentheses and brackets that are open. -/
def rowsFrom (depth inside : Nat) (line : List Token) : List Token → List Row
  | [] => if line.isEmpty then [] else [⟨depth, line.reverse⟩]
  | .opening .brace :: .closing .brace :: rest =>
    ⟨depth, (.closing .brace :: .opening .brace :: line).reverse⟩ :: rowsFrom depth 0 [] rest
  | .opening .brace :: rest => ⟨depth, (.opening .brace :: line).reverse⟩ :: rowsFrom (depth + 1) 0 [] rest
  | .closing .brace :: rest =>
    let close := ⟨depth - 1, [.closing .brace]⟩ :: rowsFrom (depth - 1) 0 [] rest
    if line.isEmpty then close else ⟨depth, line.reverse⟩ :: close
  | .doc cs :: rest => ⟨depth, (.doc cs :: line).reverse⟩ :: rowsFrom depth inside [] rest
  | .opening d :: rest => rowsFrom depth (inside + 1) (.opening d :: line) rest
  | .closing d :: rest =>
    if inside ≤ 1 && line.getLast? = some (.mark ['#']) then
      ⟨depth, (.closing d :: line).reverse⟩ :: rowsFrom depth 0 [] rest
    else rowsFrom depth (inside - 1) (.closing d :: line) rest
  | .mark [';'] :: rest =>
    if inside = 0 then ⟨depth, (.mark [';'] :: line).reverse⟩ :: rowsFrom depth 0 [] rest
    else rowsFrom depth inside (.mark [';'] :: line) rest
  | t :: rest => rowsFrom depth inside (t :: line) rest

/-- Whether a space stands between the neighbours `a` and `b`. -/
def spaced (a b : Token) : Bool :=
  match a, b with
  | _, .mark m =>
    match a with
    | .mark ['#'] => false
    | _ => !([[';'], [','], ['.'], [':'], [':', ':'], ['?']].contains m) &&
      !(m = ['!'] && (match a with | .word _ => true | _ => false)) &&
      !(match a with | .opening d => d ≠ .brace | .mark n => [['&'], ['.'], [':', ':'], ['!']].contains n | _ => false)
  | .opening .brace, .closing .brace => false
  | _, .closing .brace => true
  | _, .closing _ => false
  | .word _, .opening .parenthesis => false
  | .word _, .opening .bracket => false
  | .closing _, .opening .parenthesis => false
  | .closing _, .opening .bracket => false
  | .opening .brace, _ => true
  | .opening _, _ => false
  | .mark m, _ => !([['.'], [':', ':'], ['&'], ['!'], ['#'], ['\'']].contains m)
  | _, _ => true

/-- The characters of a row after its indentation, where `prev` is the token before. -/
def rowChars (prev : Option Token) : List Token → List Char
  | [] => []
  | t :: rest => (if prev.any (spaced · t) then [' '] else []) ++ t.chars ++ rowChars (some t) rest

def spaces (depth : Nat) : List Char := List.replicate (4 * depth) ' '

/-- Whether a row begins a function. -/
def beginsFunction : List Token → Bool
  | .word ['f', 'n'] :: _ => true
  | .word ['p', 'u', 'b'] :: .word ['f', 'n'] :: _ => true
  | _ => false

/-- Splits a row behind its first opening parenthesis and before the parenthesis that closes it. -/
def splitParameters (row : List Token) : Option (List Token × List Token × List Token) :=
  match row.span (· ≠ .opening .parenthesis) with
  | (_, []) => none
  | (front, p :: rest) =>
    match rest.span (· ≠ .closing .parenthesis) with
    | (_, []) => none
    | (parameters, back) => some (front ++ [p], parameters, back)

/-- The lines of a row. -/
def rowLines (r : Row) : List Char :=
  let plain := spaces r.depth ++ rowChars none r.tokens
  match if beginsFunction r.tokens && 89 < Text.byteCount plain then splitParameters r.tokens else none with
  | some (front, parameters, back) =>
    spaces r.depth ++ rowChars none front ++ ['\n'] ++
      spaces (r.depth + 1) ++ rowChars none parameters ++ [',', '\n'] ++
      spaces r.depth ++ rowChars none back ++ ['\n']
  | none => plain ++ ['\n']

/-- The standard layout of a Rust file. -/
def reflow (code : String) : Except SyntaxError String :=
  match tokenize code.toList with
  | none => .error .notTokens
  | some ts => (checkFile ts).map fun _ => String.ofList ((rowsFrom 0 0 [] ts).flatMap rowLines)

end TapeLang.Code.Reflow
