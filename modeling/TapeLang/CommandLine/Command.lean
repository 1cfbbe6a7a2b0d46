import TapeLang.CommandLine.Schema
import TapeLang.CommandLine.Steps

/-!
# Commands

What the commands do, step by step. Each ends with whether it has accepted all programs.
-/

namespace TapeLang

/-- A command. -/
inductive Command where
  /-- Compiles the programs under one directory into a file in another. -/
  | build (input output : String) (target : Option Target) (settings : Option String) (json : Bool)
  /-- Compiles programs and shows what is wrong with them. -/
  | check (files : List String) (statements json : Bool)
  /-- Writes the functions of programs to the output or a file. -/
  | render (files : List String) (target : Target) (container : String) (tapeSize : Nat) (provenance : Bool)
    (output : Option String)
  | run (file input : String) (tapeSize : UInt64) (limit : Option Nat)
  | schema
  deriving DecidableEq

/-- How to wait for what a program comes to within some number of ticks. Nothing is known of a program that the caller
has no patience for. -/
abbrev Waiting (m : Type → Type) := (Nat → Option (Except Fault String)) → m (Option (Except Fault String))

/-- To have patience for a number of ticks. -/
def patience {m : Type → Type} [Monad m] (ticks : Nat) : Waiting m := fun outcome => return outcome ticks

namespace Command

open Steps

variable {m : Type → Type} [Monad m]

/-- Complains about programs that are rejected. -/
def complain : List Rejection → Steps m Unit
  | [] => return
  | r :: rest => do
    complainLine s!"✗ {r.file}: {r.error.message}"
    complain rest

/-! ### Building -/

/-- What is said about a build. -/
def buildLine (s : Settings) (input output : String) (r : Report) : String :=
  match r.emitted with
  | some file => s!"✓ {r.functions.length} function(s) -> {Path.join output file}"
  | none => if r.sources.isEmpty then s!"No .{s.extension} sources under {input}" else "Nothing generated"

/-- Tells about a build. -/
def reportBuild (s : Settings) (input output : String) (json : Bool) (r : Report) : Steps m Unit := do
  if json then write .out (Json.text r.value)
  else
    complain r.rejections
    printLine (buildLine s input output r)

/-- The settings of a build. -/
def buildSettings (fs : FileSystem m) (input : String) (target : Option Target) (settings : Option String) :
    ExceptT Failure m Settings := do
  let s ←
    match settings with
    | some path => fs.loadSettings path
    | none => fs.findSettings input
  return { s with target := target.getD s.target }

def performBuild (fs : FileSystem m) (input output : String) (target : Option Target) (settings : Option String)
    (json : Bool) : Steps m Bool := do
  if !(← fs.isDirectory input) then fail (.noInput input)
  else
    let s ← attempt (buildSettings fs input target settings)
    let r ← attempt (generate (fs.host input output) s)
    reportBuild s input output json r
    return r.rejections.isEmpty

/-! ### Checking -/

/-- What a check finds out about a program, with the statements of a valid one if they are to be shown. -/
structure Finding where
  file : String
  error : Option CompileError
  statements : Option (List Statement)

namespace Finding

def ofSource (statements : Bool) (s : Source) : Finding :=
  match compile s with
  | .ok f => ⟨s.name, none, if statements then some f.body else none⟩
  | .error e => ⟨s.name, some e, none⟩

def value (f : Finding) : Code.Value :=
  .object ([("file", .text f.file), ("valid", .bool f.error.isNone)] ++
    Json.given "error" (f.error.map CompileError.value) ++
    Json.given "ir" (f.statements.map fun body => .list (body.map Statement.value)))

def line (f : Finding) : String :=
  match f.error with
  | none => s!"✓ {f.file}"
  | some e => s!"✗ {f.file}: {e.message}"

end Finding

def printStatements : List Statement → Steps m Unit
  | [] => return
  | s :: rest => do
    printLine s!"    {s.describe}"
    printStatements rest

def printFindings : List Finding → Steps m Unit
  | [] => return
  | f :: rest => do
    printLine f.line
    printStatements (f.statements.getD [])
    printFindings rest

/-- Tells about a check. -/
def reportFindings (json : Bool) (findings : List Finding) : Steps m Unit := do
  if json then write .out (Json.text (.list (findings.map Finding.value)))
  else printFindings findings

def performCheck (fs : FileSystem m) (files : List String) (statements json : Bool) : Steps m Bool := do
  let sources ← attempt (fs.readPrograms files)
  let findings := sources.map (Finding.ofSource statements)
  reportFindings json findings
  return findings.all (·.error.isNone)

/-! ### Rendering -/

/-- Puts code into a file, or else into the output. -/
def writeOutput (fs : FileSystem m) (output : Option String) (code : String) : Steps m Unit := do
  match output with
  | some path =>
    attempt (failing .file (fs.write path code))
    complainLine s!"Written to: {path}"
  | none => write .out code

def performRender (fs : FileSystem m) (files : List String) (target : Target) (container : String) (tapeSize : Nat)
    (provenance : Bool) (output : Option String) : Steps m Bool := do
  if tapeSize = 0 then fail .noTape
  else if !Name.isIdentifier container then fail (.settings (.badContainer container))
  else
    let batch := compileAll (← attempt (fs.readPrograms files))
    complain batch.rejections
    if batch.functions.isEmpty then return false
    else
      let options :=
        { Code.Options.standard with container := container, tapeSize := tapeSize, provenance := provenance }
      match Code.render target options batch.functions with
      | .error e => fail (.render e)
      | .ok code =>
        writeOutput fs output code
        return batch.rejections.isEmpty

/-! ### Running -/

/-- The output of a program on an input. Without a limit it takes patience. -/
def runFunction (wait : Waiting m) (f : Function) (input : String) (tapeSize : UInt64) (limit : Option Nat) :
    Steps m String := do
  let k : Machine := ⟨tapeSize⟩
  let bytes := input.toUTF8.toList
  match limit with
  | some l =>
    match k.run l f.body bytes with
    | .ok (.ok out) => return out
    | .ok (.error e) => fail (.run e)
    | .error fault => throw (.fault fault)
  | none =>
    match ← (wait fun ticks => k.outputWithin ticks f.body bytes : m _) with
    | some (.ok out) => return out
    | some (.error fault) => throw (.fault fault)
    | none => throw .impatience

def performRun (fs : FileSystem m) (wait : Waiting m) (file input : String) (tapeSize : UInt64) (limit : Option Nat) :
    Steps m Bool := do
  let s ← attempt (fs.readProgram file)
  match compile s with
  | .error e => fail (.compile e)
  | .ok f =>
    let out ← runFunction wait f input tapeSize limit
    write .out out
    return true

/-! ### All commands -/

/-- The steps of a command. -/
def steps (fs : FileSystem m) (wait : Waiting m) : Command → Steps m Bool
  | .build input output target settings json => performBuild fs input output target settings json
  | .check files statements json => performCheck fs files statements json
  | .render files target container tapeSize provenance output =>
    performRender fs files target container tapeSize provenance output
  | .run file input tapeSize limit => performRun fs wait file input tapeSize limit
  | .schema => do
    write .out (Json.text Settings.schema)
    return true

/-- Does what a command asks for. There is no outcome only if the patience does not suffice. -/
def perform (fs : FileSystem m) (wait : Waiting m) (c : Command) : m (Option Outcome) :=
  Outcome.ofSteps <$> (c.steps fs wait).run.run []

end Command

end TapeLang
