import TapeLang.Host

/-!
# Running on files

What a command needs of a file system, and the host that reads an input directory and writes an output directory.
-/

namespace TapeLang

/-- What a walk takes an entry for. It does not look behind links. -/
inductive EntryKind where
  | file
  | link
  | special
  | directory
  deriving DecidableEq

/-- What a walk comes to. -/
structure Entry where
  /-- The parts of its path, behind those of the path that the walk began with. -/
  path : List String
  kind : EntryKind
  deriving DecidableEq

/-- What a walk gives: entries, and errors with the paths that they are about. -/
abbrev Walk := List (Except (String × FileError) Entry)

namespace Walk

/-- The files of a walk, seen from the path that it began with, up to the first error. -/
def files (input : String) : Walk → Except Failure (List String)
  | [] => return []
  | .error (path, e) :: _ => throw (.listing path e)
  | .ok entry :: rest =>
    if entry.kind ≠ .file then files input rest
    else
      match Path.stripPrefix? (Path.components input) entry.path with
      | none => throw .elsewhere
      | some parts => return Path.ofParts parts :: (← files input rest)

end Walk

/-- A file system. All paths are seen from the working directory. -/
structure FileSystem (m : Type → Type) where
  isFile (path : String) : m Bool
  isDirectory (path : String) : m Bool
  /-- Walks down from a path, depth first: a directory comes before its entries, and these in the order of their names.
  A link at the beginning is followed if it leads to a directory. -/
  walk (path : String) : m Walk
  read (path : String) : ExceptT FileError m String
  write (path text : String) : ExceptT FileError m Unit
  /-- Makes a directory and those above it, as far as they are missing. -/
  makeDirectory (path : String) : ExceptT FileError m Unit

/-- Turns the errors of a file into failures. -/
def failing {m : Type → Type} [Monad m] {α : Type} (failure : FileError → Failure) (x : ExceptT FileError m α) :
    ExceptT Failure m α :=
  ExceptT.adapt failure x

namespace FileSystem

variable {m : Type → Type} [Monad m]

/-- The host with the files under `input`, which puts its output under `output`. -/
def host (fs : FileSystem m) (input output : String) : Host m where
  files := do
    let walk ← fs.walk input
    MonadExcept.ofExcept (walk.files input)
  read name := failing .file (fs.read (Path.join input name))
  emit name text := do
    failing .file (fs.makeDirectory output)
    failing .file (fs.write (Path.join output name) text)

/-- The settings in a file. -/
def loadSettings (fs : FileSystem m) (path : String) : ExceptT Failure m Settings := do
  let text ← failing .file (fs.read path)
  match Settings.ofText text with
  | .ok s => return s
  | .error e => throw (.settingsFile path e)

/-- The settings for an input directory: those in its settings file, or else the defaults. -/
def findSettings (fs : FileSystem m) (input : String) : ExceptT Failure m Settings := do
  let path := Path.join input Settings.fileName
  if ← fs.isFile path then fs.loadSettings path else return .default

/-- A program, named as its path is given. -/
def readProgram (fs : FileSystem m) (path : String) : ExceptT Failure m Source := do
  let text ← failing (.program path) (fs.read path)
  return .ofText path text

/-- Programs, read in the given order. -/
def readPrograms (fs : FileSystem m) : List String → ExceptT Failure m (List Source)
  | [] => return []
  | path :: paths => do
    let s ← fs.readProgram path
    return s :: (← fs.readPrograms paths)

end FileSystem

end TapeLang
