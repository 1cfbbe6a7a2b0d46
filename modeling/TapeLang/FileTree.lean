import TapeLang.FileSystem

/-!
# File trees

A file system as a value: files, links, directories and other entries below one root, which is also the working
directory and has nothing above it. Paths are followed part by part through links; `FileTree.entries` goes through a
tree depth first.
-/

namespace TapeLang

/-- A file, a link, a directory with its entries, or an entry of another kind, such as a socket, which cannot be
opened. -/
inductive FileTree where
  | file (bytes : ByteArray)
  | link (target : String)
  | special
  | directory (entries : List (String × FileTree))

namespace FileTree

def empty : FileTree := .directory []

/-! ### Entries -/

def child? (name : String) (entries : List (String × FileTree)) : Option FileTree :=
  (entries.find? (·.1 = name)).map (·.2)

/-- Replaces an entry, or adds it. -/
def setEntry (name : String) (t : FileTree) : List (String × FileTree) → List (String × FileTree)
  | [] => [(name, t)]
  | (n, x) :: rest => if n = name then (n, t) :: rest else (n, x) :: setEntry name t rest

/-- The tree at a place, given by the names on the way to it. -/
def at? (t : FileTree) : List String → Option FileTree
  | [] => some t
  | name :: names =>
    match t with
    | .directory entries => (child? name entries).bind (·.at? names)
    | _ => none

/-- Puts a tree in a place. -/
def put : FileTree → List String → FileTree → FileTree
  | _, [], x => x
  | .directory entries, name :: names, x =>
    .directory (setEntry name (put ((child? name entries).getD empty) names x) entries)
  | t, _ :: _, _ => t

/-! ### Walks -/

def kind : FileTree → EntryKind
  | .file _ => .file
  | .link _ => .link
  | .special => .special
  | .directory _ => .directory

/-- The lists behind named entries, in the order of the names. -/
def inOrder {α : Type} (parts : List (String × List α)) : List α :=
  (parts.mergeSort fun a b => a.1 ≤ b.1).flatMap (·.2)

mutual

/-- What is in a tree, with the names on the way to it: each directory before its entries, and these in the order of
their names. Links are not followed. -/
def entries : FileTree → List Entry
  | .file _ => [⟨[], .file⟩]
  | .link _ => [⟨[], .link⟩]
  | .special => [⟨[], .special⟩]
  | .directory named => ⟨[], .directory⟩ :: inOrder (entriesBehind named)

def entriesBehind : List (String × FileTree) → List (String × List Entry)
  | [] => []
  | (name, t) :: rest => (name, t.entries.map fun e => ⟨name :: e.path, e.kind⟩) :: entriesBehind rest

end

/-! ### Following paths -/

/-- Where a path leads: to a tree, or to a name that its directory does not have. -/
inductive Spot where
  | found (place : List String) (t : FileTree)
  | vacant (directory : List String) (name : String)

/-- The parts of a path. A slash at the end stands for the directory itself. -/
def partsOf (path : String) : List String :=
  let parts := (Path.splitFrom [] path.toList).map String.ofList
  parts.filter (· ≠ "") ++ if path.endsWith "/" then ["."] else []

/-- The longest name, in bytes. -/
def maxNameSize : Nat := 255

/-- Follows `parts` from a place through at most `links` links. A link at the end is followed only if `last` says so. -/
def follow (root : FileTree) (last : Bool) (links : Nat) (place : List String) :
    List String → Except FileError Spot
  | [] =>
    match root.at? place with
    | some t => .ok (.found place t)
    | none => .error .missing
  | name :: rest =>
    match root.at? place with
    | none => .error .missing
    | some (.directory entries) =>
      if name = "." then follow root last links place rest
      else if name = ".." then follow root last links place.dropLast rest
      else if maxNameSize < name.utf8ByteSize then .error .longName
      else
        match child? name entries, links with
        | none, _ => if rest = [] then .ok (.vacant place name) else .error .missing
        | some (.link target), links =>
          if rest = [] ∧ !last then .ok (.found (place ++ [name]) (.link target))
          else
            match links with
            | 0 => .error .linkCycle
            | n + 1 => follow root last n (if target.startsWith "/" then [] else place) (partsOf target ++ rest)
        | some _, links => follow root last links (place ++ [name]) rest
    | some _ => .error .notDirectory
termination_by parts => (links, parts.length)

/-- The most links that a path may lead through. -/
def maxLinks : Nat := 40

/-- Where a path leads in a tree. -/
def locate (root : FileTree) (last : Bool) (path : String) : Except FileError Spot :=
  if path = "" then .error .missing else follow root last maxLinks [] (partsOf path)

/-- The tree that a path leads to. -/
def resolve (root : FileTree) (last : Bool) (path : String) : Except FileError FileTree :=
  match locate root last path with
  | .ok (.found _ t) => .ok t
  | .ok (.vacant _ _) => .error .missing
  | .error e => .error e

/-! ### Reading and writing -/

def isFile (root : FileTree) (path : String) : Bool :=
  match root.resolve true path with
  | .ok (.file _) => true
  | _ => false

def isDirectory (root : FileTree) (path : String) : Bool :=
  match root.resolve true path with
  | .ok (.directory _) => true
  | _ => false

/-- The walk from a path. -/
def walk (root : FileTree) (path : String) : Walk :=
  let below (e : Entry) : Except (String × FileError) Entry := .ok ⟨Path.components path ++ e.path, e.kind⟩
  match root.resolve false path with
  | .error e => [.error (path, e)]
  | .ok (.link target) =>
    match root.resolve true path with
    | .error e => [.error (path, e)]
    | .ok (.directory named) => ((link target).entries ++ inOrder (entriesBehind named)).map below
    | .ok _ => (link target).entries.map below
  | .ok t => t.entries.map below

def read (root : FileTree) (path : String) : Except FileError String :=
  match root.resolve true path with
  | .error e => .error e
  | .ok (.file bytes) =>
    match String.fromUTF8? bytes with
    | some text => .ok text
    | none => .error .notText
  | .ok .special => .error .noDevice
  | .ok _ => .error .isDirectory

/-- Writes a file, which is made if its directory exists. A path with a slash at the end leads to no file. -/
def write (root : FileTree) (path : String) (bytes : ByteArray) : Except FileError FileTree :=
  if path.endsWith "/" then
    match follow root true maxLinks [] ((partsOf path).dropLast.dropLast ++ ["."]) with
    | .error e => .error e
    | .ok _ => .error .isDirectory
  else
    match root.locate true path with
    | .error e => .error e
    | .ok (.vacant place name) => .ok (root.put (place ++ [name]) (.file bytes))
    | .ok (.found place (.file _)) => .ok (root.put place (.file bytes))
    | .ok (.found _ .special) => .error .noDevice
    | .ok (.found _ _) => .error .isDirectory

/-- Puts a tree where nothing is, in a directory that exists. -/
def add (root : FileTree) (path : String) (t : FileTree) : Except FileError FileTree :=
  let parts := if path.endsWith "/" then (partsOf path).dropLast else partsOf path
  match if path = "" then .error .missing else follow root false maxLinks [] parts with
  | .error e => .error e
  | .ok (.vacant place name) => .ok (root.put (place ++ [name]) t)
  | .ok (.found _ _) => .error .exists

/-- The directories above a path, nearest first, behind the path itself. -/
def ancestors : (fuel : Nat) → String → List String
  | 0, _ => []
  | n + 1, path => path :: (Path.parent? path).elim [] (ancestors n)

/-- Makes the first of some directories, each in the next one, which is made before if it is missing. -/
def makeDirectories (root : FileTree) : List String → Except FileError FileTree
  | [] => .ok root
  | path :: above =>
    let unlessThere (root : FileTree) (e : FileError) : Except FileError FileTree :=
      if root.isDirectory path then .ok root else .error e
    if path = "" then .ok root
    else
      match root.add path empty with
      | .ok root => .ok root
      | .error .missing =>
        match makeDirectories root above with
        | .error e => .error e
        | .ok root =>
          match root.add path empty with
          | .ok root => .ok root
          | .error e => unlessThere root e
      | .error e => unlessThere root e

def makeDirectory (root : FileTree) (path : String) : Except FileError FileTree :=
  root.makeDirectories (ancestors ((partsOf path).length + 2) path)

/-- Turns a reader into an action that leaves the tree as it is. -/
def reading {α : Type} (f : FileTree → Except FileError α) : ExceptT FileError (StateM FileTree) α := do
  match f (← get) with
  | .ok x => return x
  | .error e => throw e

/-- Turns an update into an action that leaves the tree as it is when it fails. -/
def updating (f : FileTree → Except FileError FileTree) : ExceptT FileError (StateM FileTree) Unit := do
  match f (← get) with
  | .ok t => set t
  | .error e => throw e

/-- The file system whose state is a tree. -/
def fileSystem : FileSystem (StateM FileTree) where
  isFile path := return (← get).isFile path
  isDirectory path := return (← get).isDirectory path
  walk path := return (← get).walk path
  read path := reading (·.read path)
  write path text := updating (·.write path text.toUTF8)
  makeDirectory path := updating (·.makeDirectory path)

end FileTree

end TapeLang
