import TapeLang.Block
import TapeLang.Tape

/-!
# Running a program

The reference machine executes nested blocks on a tape. Each statement and each test of a loop condition is one
tick, and a run is given a number of ticks. It ends with its output or with a fault, or the ticks do not suffice.
`Machine.Yields` is the run without such a bound.
-/

namespace TapeLang

/-- What a running program has: its tape, the input still to read, and the output so far. -/
structure Memory where
  tape : Tape
  input : List UInt8
  output : String

namespace Memory

/-- A zeroed tape before the first statement. -/
def start (size : UInt64) (input : List UInt8) : Except Fault Memory := do
  return ⟨← Tape.blank size, input, ""⟩

/-- Reading takes the next byte of the input, or zero when it is exhausted. -/
def read (m : Memory) : Memory :=
  match m.input with
  | [] => { m with tape := m.tape.set 0 }
  | b :: rest => { m with tape := m.tape.set b, input := rest }

/-- Writing appends the current cell as the character with its code. -/
def write (m : Memory) : Memory :=
  { m with output := m.output.push (Char.ofNat m.tape.get.toNat) }

/-- The effect of one statement. Brackets have none of their own. -/
def apply (m : Memory) : Statement → Except Fault Memory
  | .increment => return { m with tape := m.tape.increment }
  | .decrement => return { m with tape := m.tape.decrement }
  | .move d => return { m with tape := ← m.tape.move d }
  | .write => return m.write
  | .read => return m.read
  | .loopOpen => return m
  | .loopClose => return m

end Memory

/-- Executes blocks with at most `ticks` ticks; none if they do not suffice. A loop whose condition holds runs its
body and is then tested again. -/
def execute : (ticks : Nat) → List Block → Memory → Option (Except Fault Memory)
  | _, [], m => some (.ok m)
  | 0, _ :: _, _ => none
  | n + 1, .plain s :: rest, m =>
    match m.apply s with
    | .ok m => execute n rest m
    | .error f => some (.error f)
  | n + 1, .loop body :: rest, m =>
    if m.tape.get = 0 then execute n rest m else execute n (body ++ .loop body :: rest) m

/-- A machine by the number of cells on its tape; zero stands for one cell. -/
structure Machine where
  tapeSize : UInt64

/-- Why a run gave no output. -/
inductive RunError where
  | limitExceeded (limit : Nat)
  deriving DecidableEq

namespace RunError

def message : RunError → String
  | .limitExceeded limit => s!"step limit of {limit} exceeded"

end RunError

namespace Machine

/-- What `body` comes to on `input`, its output or a fault, if it does so within `ticks` ticks. -/
def outputWithin (k : Machine) (ticks : Nat) (body : List Statement) (input : List UInt8) :
    Option (Except Fault String) :=
  match Memory.start k.tapeSize input with
  | .ok m => (execute ticks (nest body) m).map (·.map (·.output))
  | .error f => some (.error f)

/-- Runs `body` and stops when it needs more than `limit` ticks. A fault is no result. -/
def run (k : Machine) (limit : Nat) (body : List Statement) (input : List UInt8) :
    Except Fault (Except RunError String) :=
  match k.outputWithin limit body input with
  | some (.ok out) => .ok (.ok out)
  | some (.error f) => .error f
  | none => .ok (.error (.limitExceeded limit))

/-- `body` ends on `input` after some number of ticks, with the output `out`. -/
def Yields (k : Machine) (body : List Statement) (input : List UInt8) (out : String) : Prop :=
  ∃ ticks, k.outputWithin ticks body input = some (.ok out)

/-- `body` ends on `input` after some number of ticks, with the fault `f`. -/
def Faults (k : Machine) (body : List Statement) (input : List UInt8) (f : Fault) : Prop :=
  ∃ ticks, k.outputWithin ticks body input = some (.error f)

end Machine

end TapeLang
