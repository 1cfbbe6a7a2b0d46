import TapeLang.Failure

/-!
# Generator runs

A run takes the sources that a host has, compiles them, renders what compiles into one file and gives it back to the
host. The report accounts for every source. Nothing is emitted unless something compiled.
-/

namespace TapeLang

/-- Where a run takes its files from and puts its output. -/
structure Host (m : Type → Type) where
  /-- The names of all files. -/
  files : ExceptT Failure m (List String)
  read (name : String) : ExceptT Failure m String
  emit (name text : String) : ExceptT Failure m Unit

/-- What a run has done. -/
structure Report where
  target : Target
  /-- The names of the sources, in the order of the host. -/
  sources : List String
  /-- The names of the functions that are rendered. -/
  functions : List String
  rejections : List Rejection
  /-- The file that was emitted. -/
  emitted : Option String
  deriving DecidableEq

namespace Report

/-- The report on sources and what they compile to, before anything is emitted. -/
def ofBatch (t : Target) (sources : List String) (b : Batch) : Report :=
  ⟨t, sources, b.functions.map (·.name), b.rejections, none⟩

end Report

/-- Reads the sources with the given names. -/
def Host.readAll {m : Type → Type} [Monad m] (h : Host m) : List String → ExceptT Failure m (List Source)
  | [] => return []
  | name :: names => do
    let text ← h.read name
    return .ofText name text :: (← h.readAll names)

/-- Runs the generator under given settings. -/
def generate {m : Type → Type} [Monad m] (h : Host m) (s : Settings) : ExceptT Failure m Report := do
  let sources := (← h.files).filter s.isSource
  let batch := compileAll (← h.readAll sources)
  let report := Report.ofBatch s.target sources batch
  if batch.functions.isEmpty then return report
  else
    match Code.render s.target s.options batch.functions with
    | .error e => throw (.render e)
    | .ok code =>
      let file := Code.fileName s.target s.container
      h.emit file code
      return { report with emitted := some file }

/-! ### Hosts without a file system -/

/-- Files given by name and text, and what has been emitted, both in order. A name may be given more than once, and
the first of its texts is read. -/
structure MemoryHost where
  files : List (String × String)
  emitted : List (String × String)

namespace MemoryHost

def empty : MemoryHost := ⟨[], []⟩

def add (name text : String) (h : MemoryHost) : MemoryHost :=
  { h with files := h.files ++ [(name, text)] }

def emit (name text : String) (h : MemoryHost) : MemoryHost :=
  { h with emitted := h.emitted ++ [(name, text)] }

def names (h : MemoryHost) : List String := h.files.map (·.1)

def read (h : MemoryHost) (name : String) : Except Failure String :=
  match h.files.find? (·.1 = name) with
  | some (_, text) => .ok text
  | none => .error (.noSuchFile name)

/-- The host whose state is a memory host. -/
def host : Host (StateM MemoryHost) where
  files := return (← get).names
  read name := do
    match (← get).read name with
    | .ok text => return text
    | .error e => throw e
  emit name text := modify (MemoryHost.emit name text)

/-- Runs the generator on a memory host. -/
def generate (s : Settings) (h : MemoryHost) : Except Failure Report × MemoryHost :=
  (TapeLang.generate host s).run.run h

end MemoryHost

end TapeLang
