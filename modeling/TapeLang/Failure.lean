import TapeLang.Settings.Reading
import TapeLang.Machine

/-!
# Failures

What ends a generator run or a command: bad settings, files that cannot be read or written, programs that do not
compile, and code that cannot be laid out. Programs of a batch that do not compile are no failure of the run.
-/

namespace TapeLang

/-- Why a file or directory could not be used. -/
inductive FileError where
  | missing
  | exists
  | notDirectory
  | isDirectory
  | longName
  | linkCycle
  | noDevice
  /-- Bytes that are no text. -/
  | notText
  | other (message : String)
  deriving DecidableEq

namespace FileError

def message : FileError → String
  | .missing => "No such file or directory (os error 2)"
  | .exists => "File exists (os error 17)"
  | .notDirectory => "Not a directory (os error 20)"
  | .isDirectory => "Is a directory (os error 21)"
  | .longName => "File name too long (os error 36)"
  | .linkCycle => "Too many levels of symbolic links (os error 40)"
  | .noDevice => "No such device or address (os error 6)"
  | .notText => "stream did not contain valid UTF-8"
  | .other message => message

end FileError

/-- What ends a run. -/
inductive Failure where
  | compile (e : CompileError)
  | run (e : RunError)
  | settings (e : SettingsError)
  | noTape
  /-- Settings in a file that give none. -/
  | settingsFile (path : String) (e : Settings.Fault)
  | noSuchFile (name : String)
  | noInput (path : String)
  | listing (path : String) (e : FileError)
  /-- A file that was found elsewhere than below its directory. -/
  | elsewhere
  /-- A program that could not be read. -/
  | program (path : String) (e : FileError)
  | file (e : FileError)
  | render (e : Code.RenderError)
  deriving DecidableEq

namespace Failure

def message : Failure → String
  | .compile e => e.message
  | .run e => e.message
  | .settings e => s!"Config error: {e.message}"
  | .noTape => "Config error: tape size must be at least 1"
  | .settingsFile path e => s!"Config error: {path}: {e.message}"
  | .noSuchFile name => s!"Host error: no such file: {name}"
  | .noInput path => s!"Host error: input '{path}' is not a directory"
  | .listing path e => s!"Host error: IO error for operation on {path}: {e.message}"
  | .elsewhere => "Host error: prefix not found"
  | .program path e => s!"Host error: {path}: {e.message}"
  | .file e => s!"IO error: {e.message}"
  | .render e => e.message

end Failure

end TapeLang
