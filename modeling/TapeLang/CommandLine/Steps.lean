import TapeLang.FileSystem

/-!
# Steps of commands

A command looks at files, writes to its two streams, and may be stopped by a failure or a fault. What it writes is kept
in order, so that a command that is stopped leaves behind what it has written until then. `Outcome.ofSteps` is what the
caller sees in the end.
-/

namespace TapeLang

/-- The streams that a command writes to. -/
inductive Stream where
  | out
  | err
  deriving DecidableEq

/-- What has been written, in order. -/
abbrev Transcript := List (Stream × String)

namespace Transcript

/-- What has been written to one stream. -/
def text (log : Transcript) (s : Stream) : String := String.join ((log.filter (·.1 = s)).map (·.2))

end Transcript

/-- What stops a command. -/
inductive Stop where
  | failure (f : Failure)
  | fault (f : Fault)
  /-- The patience of the caller is at an end. -/
  | impatience
  deriving DecidableEq

/-- Steps that may write and may be stopped. -/
abbrev Steps (m : Type → Type) := ExceptT Stop (StateT Transcript m)

namespace Steps

variable {m : Type → Type} [Monad m] {α : Type}

def write (s : Stream) (text : String) : Steps m Unit := modify (· ++ [(s, text)])

/-- Writes a line to the output. -/
def printLine (text : String) : Steps m Unit := write .out (text ++ "\n")

/-- Writes a line to the error stream. -/
def complainLine (text : String) : Steps m Unit := write .err (text ++ "\n")

def fail (f : Failure) : Steps m α := throw (.failure f)

/-- Takes an action whose failure stops the command. -/
def attempt (x : ExceptT Failure m α) : Steps m α := do
  match ← (x.run : m (Except Failure α)) with
  | .ok a => return a
  | .error f => fail f

end Steps

/-- What a command leaves behind apart from files. -/
structure Outcome where
  code : Nat
  out : String
  err : String
  deriving DecidableEq

namespace Outcome

/-- The outcome with a code, of a command that has written `log`. -/
def ofLog (code : Nat) (log : Transcript) : Outcome := ⟨code, log.text .out, log.text .err⟩

/-- The code of a command that has done its work, by whether all programs were accepted. -/
def codeOf (clean : Bool) : Nat := if clean then 0 else 1

/-- What becomes of a command, if it was not given up. A failure is told behind what has been written, and so is a
fault. -/
def ofSteps : Except Stop Bool × Transcript → Option Outcome
  | (.ok clean, log) => some (ofLog (codeOf clean) log)
  | (.error (.failure f), log) => some (ofLog 2 (log ++ [(.err, s!"Error: {f.message}\n")]))
  | (.error (.fault f), log) => some (ofLog 101 (log ++ [(.err, f.message ++ "\n")]))
  | (.error .impatience, _) => none

end Outcome

end TapeLang
