/-!
# Slash-separated paths

Paths are texts whose parts are separated by slashes. Empty parts and single dots do not count; `stem` is the last
part without its extension, and `join` puts one path under another.
-/

namespace TapeLang.Path

/-- The parts of `cs` between slashes, where `part` is the part read so far, latest first. -/
def splitFrom (part : List Char) : List Char → List (List Char)
  | [] => [part.reverse]
  | c :: cs => if c = '/' then part.reverse :: splitFrom [] cs else splitFrom (c :: part) cs

/-- The parts of a path that name something, `..` included. -/
def parts (path : List Char) : List (List Char) :=
  (splitFrom [] path).filter fun p => p ≠ [] && p ≠ ['.']

/-- The parts of a path, with the slash that it begins with, if it does, and a dot at its front. -/
def components (path : String) : List String :=
  let front := if path.startsWith "/" then ["/"] else if path = "." || path.startsWith "./" then ["."] else []
  front ++ (parts path.toList).map String.ofList

/-- What the parts of a path have behind those of another, if they begin with them. -/
def stripPrefix? : List String → List String → Option (List String)
  | [], parts => some parts
  | _ :: _, [] => none
  | a :: base, b :: parts => if a = b then stripPrefix? base parts else none

/-- A path from its parts. -/
def ofParts (parts : List String) : String := "/".intercalate parts

/-- Splits a part before its last dot, if it has one. -/
def beforeLastDot : List Char → Option (List Char)
  | [] => none
  | c :: cs =>
    match beforeLastDot cs with
    | some front => some (c :: front)
    | none => if c = '.' then some [] else none

/-- A part without its extension. A dot at the front starts no extension. -/
def withoutExtension (part : List Char) : List Char :=
  match beforeLastDot part with
  | none => part
  | some [] => part
  | some front => front

/-- The last part of a path without its extension, or the whole path if it ends in no name. -/
def stem (path : String) : String :=
  match (parts path.toList).getLast? with
  | none => path
  | some part => if part = ['.', '.'] then path else String.ofList (withoutExtension part)

/-- The path `name` seen from the directory `base`. -/
def join (base name : String) : String :=
  if name.startsWith "/" then name
  else if base = "" || base.endsWith "/" then base ++ name
  else base ++ "/" ++ name

/-- The path without its last part and the slashes and dots around it; none for a path without parts. -/
def parent? (path : String) : Option String :=
  match (parts path.toList).reverse with
  | [] => none
  | _ :: front =>
    let body := String.ofList (['/'].intercalate front.reverse)
    some (if path.startsWith "/" then "/" ++ body else body)

end TapeLang.Path
