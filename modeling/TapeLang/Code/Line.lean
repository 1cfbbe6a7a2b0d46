/-!
# Lines of code

Code is produced as lines that know their depth. Writing a line puts the indent in front once per depth; a line
without text is written as an empty line.
-/

namespace TapeLang.Code

/-- A line of code, to be indented `depth` times. -/
structure Line where
  depth : Nat
  text : String
  deriving DecidableEq

namespace Line

/-- The line `n` levels further in. -/
def inward (n : Nat) (l : Line) : Line := ⟨l.depth + n, l.text⟩

def blank : Line := ⟨0, ""⟩

/-- The characters of a line with the indent `unit`, its line feed included. -/
def chars (unit : String) (l : Line) : List Char :=
  if l.text = "" then ['\n']
  else (List.replicate l.depth unit.toList).flatten ++ l.text.toList ++ ['\n']

end Line

/-- Lines of text at one depth. -/
def linesAt (depth : Nat) (texts : List String) : List Line :=
  texts.map fun t => ⟨depth, t⟩

/-- The text of lines with the indent `unit`. -/
def writeLines (unit : String) (lines : List Line) : String :=
  String.ofList (lines.flatMap (·.chars unit))

end TapeLang.Code
