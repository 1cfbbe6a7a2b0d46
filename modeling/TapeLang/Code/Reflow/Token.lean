import TapeLang.Text.IdentifierTables
import TapeLang.Text.WhiteSpace

/-!
# Tokens of Rust code

Rust code is read as words, literals, punctuation and delimiters; spaces and plain comments fall away. A text that
is no sequence of tokens, or whose delimiters do not match, has no token list.
-/

namespace TapeLang.Code.Reflow

inductive Delimiter where
  | parenthesis
  | bracket
  | brace
  deriving DecidableEq

namespace Delimiter

def opening : Delimiter → Char
  | .parenthesis => '('
  | .bracket => '['
  | .brace => '\x7b'

def closing : Delimiter → Char
  | .parenthesis => ')'
  | .bracket => ']'
  | .brace => '\x7d'

end Delimiter

inductive Token where
  | word (chars : List Char)
  | literal (chars : List Char)
  | mark (chars : List Char)
  | doc (chars : List Char)
  | opening (d : Delimiter)
  | closing (d : Delimiter)
  deriving DecidableEq

namespace Token

/-- The characters of a token. -/
def chars : Token → List Char
  | .word cs => cs
  | .literal cs => cs
  | .mark cs => cs
  | .doc cs => cs
  | .opening d => [d.opening]
  | .closing d => [d.closing]

end Token

def isLetter (c : Char) : Bool := ('a' ≤ c && c ≤ 'z') || ('A' ≤ c && c ≤ 'Z')

def isDigit (c : Char) : Bool := '0' ≤ c && c ≤ '9'

/-- Whether a word may start with `c`. -/
def startsWord (c : Char) : Bool :=
  c = '_' || isLetter c || (128 ≤ c.toNat && Text.identifierStart.contains c)

/-- Whether `c` may stand inside a word. -/
def continuesWord (c : Char) : Bool :=
  c = '_' || isLetter c || isDigit c || (128 ≤ c.toNat && Text.identifierPart.contains c)

/-- Whether `c` separates tokens: white space, or a mark of writing direction. -/
def isSpace (c : Char) : Bool :=
  Text.whiteSpace.contains c || c.toNat = 0x200e || c.toNat = 0x200f

/-- Punctuation of more than one character. -/
def joinedMarks : List (List Char) := [
  ['.', '.', '='], ['.', '.', '.'], ['<', '<', '='], ['>', '>', '='],
  [':', ':'], ['-', '>'], ['=', '>'], ['!', '='], ['=', '='], ['<', '='], ['>', '='], ['+', '='], ['-', '='],
  ['*', '='], ['/', '='], ['%', '='], ['^', '='], ['&', '='], ['|', '='], ['&', '&'], ['|', '|'], ['<', '<'],
  ['>', '>'], ['.', '.']]

def isMark (c : Char) : Bool := "~!@#$%^&*-=+|;:,<.>/?".toList.contains c

/-- The rest of a line comment, from its line end on. -/
def afterLine (cs : List Char) : List Char := cs.dropWhile (· ≠ '\n')

/-- The text of a doc comment up to its line end, without a carriage return there and without spaces before it. -/
def docText (cs : List Char) : List Char :=
  let line := cs.takeWhile (· ≠ '\n')
  let line := if line.getLast? = some '\r' then line.dropLast else line
  (line.reverse.dropWhile (· = ' ')).reverse

/-- What follows a block comment that is open `depth + 1` times; none if it does not end. -/
def afterBlock (depth : Nat) : List Char → Option (List Char)
  | '*' :: '/' :: cs => match depth with | 0 => some cs | d + 1 => afterBlock d cs
  | '/' :: '*' :: cs => afterBlock (depth + 1) cs
  | _ :: cs => afterBlock depth cs
  | [] => none

/-- The characters of a string up to and with its closing quote, and what follows. -/
def stringBody : List Char → Option (List Char × List Char)
  | '\\' :: c :: cs => (stringBody cs).map fun (s, rest) => ('\\' :: c :: s, rest)
  | '"' :: cs => some (['"'], cs)
  | c :: cs => (stringBody cs).map fun (s, rest) => (c :: s, rest)
  | [] => none

/-- The characters of a raw string up to and with the quote that `hashes` number signs follow, and what follows. -/
def rawBody (hashes : Nat) : List Char → Option (List Char × List Char)
  | [] => none
  | c :: cs =>
    let close := List.replicate hashes '#'
    if c = '"' && close.isPrefixOf cs then some ('"' :: close, cs.drop hashes)
    else (rawBody hashes cs).map fun (s, rest) => (c :: s, rest)

/-- A string or character whose quote has not been read yet, with the number signs of a raw string before it. -/
def quotedLiteral (raw : Bool) (cs : List Char) : Option (List Char × List Char) :=
  if raw then
    let hashes := cs.takeWhile (· = '#')
    match cs.dropWhile (· = '#') with
    | '"' :: body => (rawBody hashes.length body).map fun (s, rest) => (hashes ++ '"' :: s, rest)
    | _ => none
  else
    match cs with
    | '"' :: body => (stringBody body).map fun (s, rest) => ('"' :: s, rest)
    | '\'' :: '\\' :: e :: '\'' :: rest => some (['\'', '\\', e, '\''], rest)
    | '\'' :: e :: '\'' :: rest => some (['\'', e, '\''], rest)
    | _ => none

/-- The letters of a literal that begins with letters, whether they make it raw, and what follows them. -/
def literalLetters? : List Char → Option (List Char × Bool × List Char)
  | 'r' :: '"' :: cs => some (['r'], true, '"' :: cs)
  | 'r' :: '#' :: '"' :: cs => some (['r'], true, '#' :: '"' :: cs)
  | 'r' :: '#' :: '#' :: cs => some (['r'], true, '#' :: '#' :: cs)
  | 'b' :: 'r' :: '"' :: cs => some (['b', 'r'], true, '"' :: cs)
  | 'b' :: 'r' :: '#' :: cs => some (['b', 'r'], true, '#' :: cs)
  | 'c' :: 'r' :: '"' :: cs => some (['c', 'r'], true, '"' :: cs)
  | 'c' :: 'r' :: '#' :: cs => some (['c', 'r'], true, '#' :: cs)
  | 'b' :: '"' :: cs => some (['b'], false, '"' :: cs)
  | 'c' :: '"' :: cs => some (['c'], false, '"' :: cs)
  | 'b' :: '\'' :: cs => some (['b'], false, '\'' :: cs)
  | _ => none

/-- The word at the start of `cs`; a raw word, which may be a keyword, follows a letter and a number sign. -/
def wordToken (cs : List Char) : Option (Token × List Char) :=
  match cs with
  | 'r' :: '#' :: rest =>
    let w := rest.takeWhile continuesWord
    if rest.head?.any startsWord && !(["_", "super", "self", "Self", "crate"].any (·.toList = w)) then
      some (.word ('r' :: '#' :: w), rest.dropWhile continuesWord)
    else none
  | _ => some (.word (cs.takeWhile continuesWord), cs.dropWhile continuesWord)

/-- The token at the start of `cs`, which is no space or comment, and what follows it. -/
def nextToken (cs : List Char) : Option (Token × List Char) :=
  match cs with
  | [] => none
  | c :: rest =>
    if startsWord c then
      match literalLetters? cs with
      | some (letters, raw, after) =>
        (quotedLiteral raw after).map fun (s, rest) => (.literal (letters ++ s), rest)
      | none => wordToken cs
    else if isDigit c then some (.literal (cs.takeWhile continuesWord), cs.dropWhile continuesWord)
    else if c = '"' then (stringBody rest).map fun (s, after) => (.literal ('"' :: s), after)
    else if c = '\'' then
      match rest with
      | '\\' :: e :: '\'' :: after => some (.literal ['\'', '\\', e, '\''], after)
      | e :: '\'' :: after => some (.literal ['\'', e, '\''], after)
      | e :: after => if startsWord e then some (.mark ['\''], e :: after) else none
      | [] => none
    else if c = '(' then some (.opening .parenthesis, rest)
    else if c = ')' then some (.closing .parenthesis, rest)
    else if c = '[' then some (.opening .bracket, rest)
    else if c = ']' then some (.closing .bracket, rest)
    else if c = '\x7b' then some (.opening .brace, rest)
    else if c = '\x7d' then some (.closing .brace, rest)
    else
      match joinedMarks.find? (·.isPrefixOf cs) with
      | some m => some (.mark m, cs.drop m.length)
      | none => if isMark c then some (.mark [c], rest) else none

/-- The tokens of `cs`, read in at most `fuel` steps. -/
def tokensWithin : (fuel : Nat) → List Char → Option (List Token)
  | _, [] => some []
  | 0, _ :: _ => none
  | n + 1, c :: cs =>
    if isSpace c then tokensWithin n cs
    else
      match c :: cs with
      | '/' :: '/' :: '/' :: '/' :: rest => tokensWithin n (afterLine rest)
      | '/' :: '/' :: '/' :: rest =>
        (tokensWithin n (afterLine rest)).map (.doc ('/' :: '/' :: '/' :: docText rest) :: ·)
      | '/' :: '/' :: '!' :: rest =>
        (tokensWithin n (afterLine rest)).map (.doc ('/' :: '/' :: '!' :: docText rest) :: ·)
      | '/' :: '/' :: rest => tokensWithin n (afterLine rest)
      | '/' :: '*' :: rest =>
        match afterBlock 0 rest with
        | some after => tokensWithin n after
        | none => none
      | all =>
        match nextToken all with
        | some (t, after) => (tokensWithin n after).map (t :: ·)
        | none => none

/-- Whether every delimiter is closed by its own kind; `pending` holds the open ones, innermost first. -/
def balanced (pending : List Delimiter) : List Token → Bool
  | [] => pending.isEmpty
  | .opening d :: rest => balanced (d :: pending) rest
  | .closing d :: rest =>
    match pending with
    | [] => false
    | p :: outer => p = d && balanced outer rest
  | _ :: rest => balanced pending rest

/-- The tokens of a text with matching delimiters. -/
def tokenize (cs : List Char) : Option (List Token) :=
  match tokensWithin (cs.length + 1) cs with
  | some ts => if balanced [] ts then some ts else none
  | none => none

end TapeLang.Code.Reflow
