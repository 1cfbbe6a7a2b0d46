import TapeLang.Bracket
import TapeLang.Statement
import TapeLang.Name
import TapeLang.Path
import TapeLang.Digest

/-!
# From sources to functions

A source that passes the bracket check becomes a function named after its file. In a batch a failing source never
stops the others, and of several sources whose names coincide in some casing the first keeps the name.
-/

namespace TapeLang

/-- A named program text reduced to its symbols. -/
structure Source where
  name : String
  program : List Occurrence
  digest : String

namespace Source

def ofText (name text : String) : Source :=
  ⟨name, lex text, Digest.ofText text⟩

/-- The file name without directories and extension. -/
def stem (s : Source) : String := Path.stem s.name

end Source

/-- A compiled source, ready to be rendered or run. -/
structure Function where
  /-- The name in snake case. -/
  name : String
  source : String
  digest : String
  body : List Statement
  deriving DecidableEq

/-- Why a source gave no function. -/
inductive CompileError where
  | brackets (e : BracketError)
  | nameTaken (name first : String)
  | noName (file : String)
  deriving DecidableEq

namespace CompileError

def message : CompileError → String
  | .brackets e => e.message
  | .nameTaken name first => s!"function name '{name}' is already taken by {first}"
  | .noName file => s!"cannot derive a function name from '{file}'"

end CompileError

/-- Compiles one source: brackets are checked first, then the name. -/
def compile (s : Source) : Except CompileError Function :=
  match matchBrackets s.program with
  | .error e => .error (.brackets e)
  | .ok _ =>
    match Name.identifier? s.stem with
    | none => .error (.noName s.name)
    | some name => .ok ⟨name, s.name, s.digest, emit s.program⟩

theorem compile_eq_ok {s : Source} {f : Function} :
    compile s = .ok f ↔ (∃ m, matchBrackets s.program = .ok m) ∧
      ∃ name, Name.identifier? s.stem = some name ∧ f = ⟨name, s.name, s.digest, emit s.program⟩ := by
  unfold compile
  cases matchBrackets s.program with
  | error e => simp
  | ok m => cases Name.identifier? s.stem <;> simp [eq_comm]

/-- A source that gave no function, and why. -/
structure Rejection where
  file : String
  error : CompileError
  deriving DecidableEq

/-- What a list of sources compiles to: functions and rejections, each in source order. -/
structure Batch where
  functions : List Function
  rejections : List Rejection
  deriving DecidableEq

/-- Two functions whose names have one clash key cannot stand side by side in every target. -/
def clashKey (name : String) : String := Name.pascal name

/-- The source that took the clash key `key`, if any; `taken` holds keys with their sources. -/
def takenBy? (taken : List (String × String)) (key : String) : Option String :=
  (taken.find? (·.1 = key)).map (·.2)

namespace Batch

def empty : Batch := ⟨[], []⟩

def accept (f : Function) (b : Batch) : Batch := { b with functions := f :: b.functions }

def reject (r : Rejection) (b : Batch) : Batch := { b with rejections := r :: b.rejections }

end Batch

/-- Compiles sources one after the other, where `taken` holds the clash keys of the functions so far. -/
def compileFrom (taken : List (String × String)) : List Source → Batch
  | [] => .empty
  | s :: rest =>
    match compile s with
    | .error e => (compileFrom taken rest).reject ⟨s.name, e⟩
    | .ok f =>
      match takenBy? taken (clashKey f.name) with
      | some first => (compileFrom taken rest).reject ⟨s.name, .nameTaken f.name first⟩
      | none => (compileFrom ((clashKey f.name, s.name) :: taken) rest).accept f

/-- Compiles every source that can be. -/
def compileAll (sources : List Source) : Batch :=
  compileFrom [] sources

end TapeLang
