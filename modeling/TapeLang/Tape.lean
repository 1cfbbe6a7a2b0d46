import Std.Data.HashMap
import TapeLang.Number.Bound

/-!
# The tape

A tape is a ring of bytes with one pointer. Its cells are one block of memory, which is shorter than the signed 64-bit
range; only those that have been written are stored here. Pointer moves are sums of signed 64-bit numbers, and a sum
that leaves their range is a fault, like a tape that is too long. The distance that code is printed with casts the
length of the tape instead: a length above the signed range counts as the negative number with the same bits.
-/

namespace TapeLang

/-- The signed 64-bit number with the bits of `n`. -/
def signed64 (n : Int) : Int := n.bmod (Number.bound 64)

/-- The length of a tape that was asked for with `size` cells: never zero. -/
def tapeLength (size : Nat) : Nat := max size 1

/-- The forward distance that `delta` amounts to on a tape asked for with `size` cells. -/
def pointerStep (delta : Int) (size : Nat) : Nat :=
  (delta.emod (signed64 (tapeLength size))).toNat

/-- What ends a program on the spot. -/
inductive Fault where
  /-- A block of memory is longer than the signed range. -/
  | capacity
  /-- A sum leaves the signed range. -/
  | overflow
  deriving DecidableEq

namespace Fault

def message : Fault → String
  | .capacity => "capacity overflow"
  | .overflow => "attempt to add with overflow"

end Fault

/-- The sum of two signed 64-bit numbers. -/
def addSigned (a b : Int) : Except Fault Int :=
  if -(Number.bound 63 : Int) ≤ a + b ∧ a + b < Number.bound 63 then .ok (a + b) else .error .overflow

/-- A ring of byte cells with a pointer. -/
structure Tape where
  length : Nat
  pointer : Nat
  written : Std.HashMap Nat UInt8
  length_pos : 0 < length
  length_lt : length < Number.bound 63

namespace Tape

/-- A zeroed tape, if memory can hold it. -/
def blank (size : UInt64) : Except Fault Tape :=
  if h : tapeLength size.toNat < Number.bound 63 then
    .ok ⟨tapeLength size.toNat, 0, ∅, Nat.lt_of_lt_of_le Nat.zero_lt_one (Nat.le_max_right ..), h⟩
  else .error .capacity

/-- The value of the cell at `i`. -/
def cell (t : Tape) (i : Nat) : UInt8 := t.written.getD i 0

/-- The value of the cell under the pointer. -/
def get (t : Tape) : UInt8 := t.cell t.pointer

def set (t : Tape) (v : UInt8) : Tape := { t with written := t.written.insert t.pointer v }

def increment (t : Tape) : Tape := t.set (t.get + 1)

def decrement (t : Tape) : Tape := t.set (t.get - 1)

/-- Moves the pointer by `delta` around the ring. -/
def move (t : Tape) (delta : Int64) : Except Fault Tape := do
  let sum ← addSigned t.pointer delta.toInt
  return { t with pointer := (sum.emod t.length).toNat }

end Tape

end TapeLang
