import TapeLang.Text.LetterCase

/-!
# Target languages

The languages that functions can be rendered in, with their names, aliases and file extensions.
-/

namespace TapeLang

/-- A language to render functions in. -/
inductive Target where
  | rust
  | csharp
  | python
  | typescript
  | go
  | java
  deriving DecidableEq

namespace Target

def all : List Target := [.rust, .csharp, .python, .typescript, .go, .java]

def name : Target → String
  | .rust => "rust"
  | .csharp => "csharp"
  | .python => "python"
  | .typescript => "typescript"
  | .go => "go"
  | .java => "java"

/-- Other names that a target answers to. -/
def aliases : Target → List String
  | .rust => ["rs"]
  | .csharp => ["cs", "c#"]
  | .python => ["py"]
  | .typescript => ["ts"]
  | .go => ["golang"]
  | .java => []

/-- The extension of the files rendered for a target. -/
def extension : Target → String
  | .rust => "rs"
  | .csharp => "cs"
  | .python => "py"
  | .typescript => "ts"
  | .go => "go"
  | .java => "java"

/-- The target with a name or alias, which is written in lower case. -/
def ofLowerName? (s : String) : Option Target :=
  all.find? fun t => t.name = s || t.aliases.contains s

/-- The target with a name or alias in any case, or the lower-case text if there is none. -/
def ofName (s : String) : Except String Target :=
  match ofLowerName? (Text.lower s) with
  | some t => .ok t
  | none => .error (Text.lower s)

/-- The complaint about a text that names no target. -/
def unknownMessage (s : String) : String :=
  s!"unknown target '{s}' (expected rust, csharp, python, typescript, go or java)"

end Target

end TapeLang
