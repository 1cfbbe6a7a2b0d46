import TapeLang.CommandLine.Arguments

/-!
# The program

Runs a call on the files of the machine and prints its outcome.
-/

namespace TapeLang.Program

def fileError : IO.Error → FileError
  | .noFileOrDirectory .. => .missing
  | .alreadyExists .. => .exists
  | .inappropriateType _ code _ => if code = 20 then .notDirectory else .isDirectory
  | e => .other (toString e)

/-- Runs an action on files and catches its error. -/
def onFiles {α : Type} (action : IO α) : ExceptT FileError IO α :=
  ExceptT.mk do
    try return .ok (← action) catch e => return .error (fileError e)

/-- A path as an entry of the working directory. -/
def entryAt (path : String) : IO.FS.DirEntry := ⟨".", path⟩

/-- Whether a path leads to something of a kind. -/
def hasKind (kind : IO.FS.FileType) (path : String) : IO Bool := do
  if path = "" then return false
  else try return (← (entryAt path).path.metadata).type == kind catch _ => return false

def entryKind : IO.FS.FileType → EntryKind
  | .file => .file
  | .symlink => .link
  | .dir => .directory
  | .other => .special

/-- Walks down from an entry. A link is followed only if it is the `first` entry and leads to a directory. -/
partial def walkFrom (first : Bool) (entry : IO.FS.DirEntry) (path : String) (parts : List String) : IO Walk := do
  match ← (onFiles entry.path.symlinkMetadata).run with
  | .error e => return [.error (path, e)]
  | .ok found =>
    let here : Walk := [.ok ⟨parts, entryKind found.type⟩]
    let behind ← if first && found.type == .symlink then (onFiles entry.path.metadata).run else pure (.ok found)
    match behind with
    | .error e => return [.error (path, e)]
    | .ok behind =>
      if behind.type != .dir then return here
      else
        match ← (onFiles entry.path.readDir).run with
        | .error e => return here ++ [.error (path, e)]
        | .ok found =>
          let entries := found.toList.mergeSort fun a b => a.fileName ≤ b.fileName
          let below ← entries.mapM fun e => walkFrom false e (Path.join path e.fileName) (parts ++ [e.fileName])
          return here ++ below.flatten

/-- Walks down from a path. -/
def walkPath (path : String) : IO Walk := do
  if path = "" then return [.error (path, .missing)]
  else walkFrom true (entryAt path) path (Path.components path)

def readText (path : String) : ExceptT FileError IO String := do
  match String.fromUTF8? (← onFiles (IO.FS.readBinFile path)) with
  | some text => return text
  | none => throw .notText

/-- The file system of the machine. -/
def fileSystem : FileSystem IO where
  isFile := hasKind .file
  isDirectory := hasKind .dir
  walk := walkPath
  read := readText
  write path text := onFiles (IO.FS.writeFile path text)
  makeDirectory path := onFiles (IO.FS.createDirAll path)

/-- Waits as long as it takes, with more patience each time. -/
partial def awaiting (ticks : Nat) : Waiting IO := fun outcome =>
  match outcome ticks with
  | some o => return some o
  | none => awaiting (16 * ticks) outcome

end TapeLang.Program

open TapeLang in
def main (arguments : List String) : IO UInt32 := do
  match ← (Call.ofArguments arguments).perform Program.fileSystem (Program.awaiting 1000000) with
  | some o =>
    IO.eprint o.err
    IO.print o.out
    return o.code.toUInt32
  | none => return 0
