import TapeLang.Code.Reflow.Token

/-!
# The items of a Rust file

Checks that tokens form modules, constants and functions, and says what was expected where they do not. The inside
of a function is not looked at: a body holds statements that are well formed by themselves.
-/

namespace TapeLang.Code.Reflow

/-- What a place in the code calls for. -/
inductive Expectation where
  | identifier
  | identifierNot (keyword : List Char)
  | bang
  | delimiter
  | semicolon
  | brackets
  | parentheses
  | braces
  | moduleBody
  | item (macros : Bool)
  deriving DecidableEq

namespace Expectation

def itemKeywords : List String := [
  "fn", "extern", "use", "static", "const", "unsafe", "mod", "type", "struct", "enum", "union", "trait", "auto",
  "impl", "default", "macro"]

def tick (s : String) : String := Char.toString (Char.ofNat 96) ++ s ++ Char.toString (Char.ofNat 96)

def message : Expectation → String
  | .identifier => "expected identifier"
  | .identifierNot w => "expected identifier, found keyword " ++ tick (String.ofList w)
  | .bang => "expected " ++ tick "!"
  | .delimiter => "expected delimiter"
  | .semicolon => "expected " ++ tick ";"
  | .brackets => "expected square brackets"
  | .parentheses => "expected parentheses"
  | .braces => "expected curly braces"
  | .moduleBody => "expected " ++ tick ";" ++ " or curly braces"
  | .item macros =>
    let paths := if macros then ["identifier"] ++ ["self", "super", "crate", "::"].map tick else []
    "expected one of: " ++ ", ".intercalate (itemKeywords.map tick ++ paths)

end Expectation

/-- Why a text is no Rust file of the kind that is laid out here. -/
inductive SyntaxError where
  | notTokens
  | expected (e : Expectation) (atEnd : Bool)
  deriving DecidableEq

namespace SyntaxError

def message : SyntaxError → String
  | .notTokens => "cannot parse string into token stream"
  | .expected e false => e.message
  | .expected e true => "unexpected end of input, " ++ e.message

end SyntaxError

/-- Words that are no identifiers. -/
def keywords : List String := [
  "_", "abstract", "as", "async", "await", "become", "box", "break", "const", "continue", "crate", "do", "dyn",
  "else", "enum", "extern", "false", "final", "fn", "for", "if", "impl", "in", "let", "loop", "macro", "match", "mod",
  "move", "mut", "override", "priv", "pub", "ref", "return", "Self", "self", "static", "struct", "super", "trait",
  "true", "try", "type", "typeof", "unsafe", "unsized", "use", "virtual", "where", "while", "yield"]

def isKeyword (w : List Char) : Bool := keywords.any (·.toList = w)

/-- Fails with an expectation at the tokens `ts`; a closing delimiter or the end of the file ends the input. -/
def expect {α : Type} (e : Expectation) : List Token → Except SyntaxError α
  | [] => .error (.expected e true)
  | .closing _ :: _ => .error (.expected e true)
  | _ => .error (.expected e false)

/-- What follows the group that is open `depth + 1` times. -/
def afterGroup (depth : Nat) : List Token → List Token
  | [] => []
  | .opening _ :: rest => afterGroup (depth + 1) rest
  | .closing _ :: rest => match depth with | 0 => rest | d + 1 => afterGroup d rest
  | _ :: rest => afterGroup depth rest

/-- Takes an identifier. -/
def identifier : List Token → Except SyntaxError (List Token)
  | .word w :: rest => if isKeyword w then .error (.expected (.identifierNot w) false) else .ok rest
  | ts => expect .identifier ts

/-- What follows the first semicolon outside groups, or the end of the group. -/
def afterSemicolon (depth : Nat) : List Token → List Token
  | [] => []
  | .mark [';'] :: rest => match depth with | 0 => rest | _ => afterSemicolon depth rest
  | .opening _ :: rest => afterSemicolon (depth + 1) rest
  | .closing d :: rest => match depth with | 0 => .closing d :: rest | n + 1 => afterSemicolon n rest
  | _ :: rest => afterSemicolon depth rest

/-- What stands before the body of a function, from its return type on. -/
def beforeBody : List Token → List Token
  | .mark ['-', '>'] :: rest => rest.dropWhile fun t =>
      match t with | .word _ => true | .mark m => m ≠ [';'] | _ => false
  | ts => ts

/-- A function after the word that begins it. -/
def functionItem (ts : List Token) : Except SyntaxError (List Token) := do
  match ← identifier ts with
  | .opening .parenthesis :: rest =>
    match beforeBody (afterGroup 0 rest) with
    | .mark [';'] :: after => .ok after
    | .opening .brace :: body => .ok (afterGroup 0 body)
    | after => expect .braces after
  | after => expect .parentheses after

/-- The segments of a path after its first one. -/
def pathRest : List Token → List Token
  | .mark [':', ':'] :: .word _ :: rest => pathRest rest
  | ts => ts

/-- A macro call from the exclamation mark after its path on. -/
def macroItem : List Token → Except SyntaxError (List Token)
  | .mark ['!'] :: rest =>
    match (match rest with | .word _ :: r => r | r => r) with
    | .opening .brace :: body => .ok (afterGroup 0 body)
    | .opening _ :: body =>
      match afterGroup 0 body with
      | .mark [';'] :: after => .ok after
      | after => expect .semicolon after
    | after => expect .delimiter after
  | ts => expect .bang ts

/-- Skips the attribute of the file or module that `ts` begin, if it has one. -/
def afterInner : List Token → List Token
  | .mark ['#'] :: .mark ['!'] :: .opening .bracket :: rest => afterGroup 0 rest
  | ts => ts

/-- Skips outer attributes and doc comments, in at most `fuel` steps. -/
def outerAttributes : (fuel : Nat) → List Token → Except SyntaxError (List Token)
  | 0, ts => .ok ts
  | n + 1, .mark ['#'] :: .opening .bracket :: rest => outerAttributes n (afterGroup 0 rest)
  | _ + 1, .mark ['#'] :: rest => expect .brackets rest
  | n + 1, .doc ('/' :: '/' :: '/' :: _) :: rest => outerAttributes n rest
  | _ + 1, .doc cs :: rest => expect .brackets (.doc cs :: rest)
  | _ + 1, ts => .ok ts

/-- Checks the items in `ts` up to the end of their group, in at most `fuel` steps; what is left begins with the
closing delimiter. -/
def itemsWithin : (fuel : Nat) → List Token → Except SyntaxError (List Token)
  | 0, ts => .ok ts
  | _ + 1, [] => .ok []
  | _ + 1, .closing d :: rest => .ok (.closing d :: rest)
  | n + 1, ts => do
    let bare ← outerAttributes ts.length ts
    let (shown, item) :=
      match bare with
      | .word ['p', 'u', 'b'] :: .opening .parenthesis :: rest => (true, afterGroup 0 rest)
      | .word ['p', 'u', 'b'] :: rest => (true, rest)
      | other => (false, other)
    let after ←
      match item with
      | .word ['f', 'n'] :: rest => functionItem rest
      | .word ['c', 'o', 'n', 's', 't'] :: .word ['f', 'n'] :: rest => functionItem rest
      | .word ['c', 'o', 'n', 's', 't'] :: .word _ :: rest => .ok (afterSemicolon 0 rest)
      | .word ['c', 'o', 'n', 's', 't'] :: rest => expect .identifier rest
      | .word ['m', 'o', 'd'] :: rest =>
        match ← identifier rest with
        | .mark [';'] :: r => .ok r
        | .opening .brace :: body =>
          match ← itemsWithin n (afterInner body) with
          | _ :: r => .ok r
          | [] => .ok []
        | r => expect .moduleBody r
      | .mark [':', ':'] :: .word w :: rest =>
        if shown then expect (.item false) (.mark [':', ':'] :: .word w :: rest) else macroItem (pathRest rest)
      | .word w :: rest =>
        if !shown && (!isKeyword w || [['s', 'e', 'l', 'f'], ['s', 'u', 'p', 'e', 'r'],
            ['c', 'r', 'a', 't', 'e']].contains w) then macroItem (pathRest rest)
        else expect (.item !shown) (.word w :: rest)
      | other => expect (.item !shown) other
    itemsWithin n after

/-- Checks that tokens form a file. -/
def checkFile (ts : List Token) : Except SyntaxError Unit :=
  (itemsWithin (ts.length + 1) (afterInner ts)).map fun _ => ()

end TapeLang.Code.Reflow
