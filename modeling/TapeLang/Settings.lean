import TapeLang.Code.Render

/-!
# Settings

What a generator run is told: the target, the container and the tape of the functions, the extension of the sources,
and two choices about the layout of the output.
-/

namespace TapeLang

/-- The settings of a generator run. -/
structure Settings where
  target : Target
  container : String
  tapeSize : Nat
  /-- The extension of sources, without the dot. -/
  extension : String
  /-- Whether the output begins with a header that names the sources. -/
  provenance : Bool
  autoFormat : Bool
  deriving DecidableEq

/-- Why settings cannot be used. -/
inductive SettingsError where
  | noCells
  | badContainer (name : String)
  | badExtension (name : String)
  deriving DecidableEq

namespace SettingsError

def message : SettingsError → String
  | .noCells => "tape_size must be at least 1"
  | .badContainer name => s!"container '{name}' is not a valid identifier"
  | .badExtension name => s!"extension '{name}' must be non-empty and given without a leading dot"

end SettingsError

namespace Settings

def default : Settings := ⟨.rust, "BF", 256, "bf", true, true⟩

/-- The file in an input directory that may hold settings. -/
def fileName : String := "tapegen.yaml"

/-- The first reason why the settings cannot be used, if there is one. -/
def check (s : Settings) : Except SettingsError Unit :=
  if s.tapeSize = 0 then .error .noCells
  else if !Name.isIdentifier s.container then .error (.badContainer s.container)
  else if s.extension = "" ∨ s.extension.toList.head? = some '.' then .error (.badExtension s.extension)
  else .ok ()

/-- What stands before `ending` in a text that ends so. -/
def beforeEnding? (ending text : List Char) : Option (List Char) :=
  if ending.isSuffixOf text then some (text.take (text.length - ending.length)) else none

/-- Whether a file is a source by its name: something, a dot and the extension. -/
def isSource (s : Settings) (file : String) : Bool :=
  (beforeEnding? s.extension.toList file.toList).any fun front => front.getLast? = some '.' && 1 < front.length

/-- How functions are rendered under these settings. -/
def options (s : Settings) : Code.Options :=
  { Code.Options.standard with
    container := s.container, tapeSize := s.tapeSize, provenance := s.provenance, reflow := s.autoFormat }

end Settings

end TapeLang
