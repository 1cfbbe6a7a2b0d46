import TapeLang.Text.LetterCase

/-!
# Names and their casings

A function is named in words joined by underscores; the targets write the same name in Pascal case or camel case.
`Name.identifier?` derives a name from any text: the words over ASCII letters and digits, each in snake case.
-/

namespace TapeLang.Name

open Text (isAsciiLower isAsciiUpper isAsciiDigit isAsciiAlphanum toAsciiLower upperOf lowerOf)

/-- Pascal case of `cs`, where `fresh` says whether a word starts here. -/
def pascalFrom (fresh : Bool) : List Char → List Char
  | [] => []
  | c :: cs =>
    if c = '_' then pascalFrom true cs
    else if fresh then upperOf c ++ pascalFrom false cs
    else c :: pascalFrom false cs

/-- The words without their underscores, each with its first letter in upper case. -/
def pascal (s : String) : String :=
  String.ofList (pascalFrom true s.toList)

/-- Pascal case with its first letter in lower case. -/
def camel (s : String) : String :=
  match pascalFrom true s.toList with
  | [] => ""
  | c :: cs => String.ofList (lowerOf c ++ cs)

/-- Whether a word boundary stands before an upper-case letter, between its neighbours `prev` and `next`: after a
lower-case letter or digit, and before the last letter of a run of capitals that a lower-case letter follows. -/
def boundary (prev next : Option Char) : Bool :=
  prev.any (fun p => isAsciiLower p || isAsciiDigit p) || (prev.any isAsciiUpper && next.any isAsciiLower)

/-- Snake case of `cs`, which follow the character `prev`. -/
def snakeFrom (prev : Option Char) : List Char → List Char
  | [] => []
  | c :: cs =>
    if isAsciiUpper c then
      (if boundary prev cs.head? then ['_', toAsciiLower c] else [toAsciiLower c]) ++ snakeFrom (some c) cs
    else c :: snakeFrom (some c) cs

/-- The words of a Pascal or camel case name in lower case, joined by underscores. -/
def snake (s : String) : String :=
  String.ofList (snakeFrom none s.toList)

/-- The maximal runs of ASCII letters and digits in `cs`, where `word` is the run read so far, latest first. -/
def wordsFrom (word : List Char) : List Char → List (List Char)
  | [] => if word = [] then [] else [word.reverse]
  | c :: cs =>
    if isAsciiAlphanum c then wordsFrom (c :: word) cs
    else if word = [] then wordsFrom [] cs
    else word.reverse :: wordsFrom [] cs

/-- The words of `cs` in snake case, joined by underscores; nothing if there are none. A leading digit is put
behind `bf_`. -/
def identifierChars (cs : List Char) : List Char :=
  match ['_'].intercalate ((wordsFrom [] cs).map (snakeFrom none)) with
  | [] => []
  | c :: rest => if isAsciiDigit c then 'b' :: 'f' :: '_' :: c :: rest else c :: rest

/-- The function name that a text gives, if it has a letter or digit. -/
def identifier? (text : String) : Option String :=
  match identifierChars text.toList with
  | [] => none
  | cs => some (String.ofList cs)

/-- Whether `s` is an ASCII letter or underscore followed by letters, digits and underscores. -/
def isIdentifier (s : String) : Bool :=
  match s.toList with
  | [] => false
  | c :: cs =>
    (c = '_' || (isAsciiAlphanum c && !isAsciiDigit c)) && cs.all fun d => d = '_' || isAsciiAlphanum d

end TapeLang.Name
