import TapeLang.Yaml.Fault

/-!
# Scalars

The texts of plain, quoted and block scalars. Inside plain and quoted scalars a gap of blanks and line ends is folded:
a single line end becomes a space, and further ones are kept.
-/

namespace TapeLang.Yaml

/-- How a scalar is written. -/
inductive Style where
  | plain
  | singleQuoted
  | doubleQuoted
  | literal
  | folded
  deriving DecidableEq

/-- A gap inside a scalar: the blanks of its first line, and once a line has ended the first line end and the others. -/
structure Gap where
  blanks : List Char
  ended : Bool
  first : List Char
  others : List Char

namespace Gap

def none : Gap := ⟨[], false, [], []⟩

/-- The gap after a line end that does not count. -/
def escaped : Gap := ⟨[], true, [], []⟩

def addBlank (g : Gap) (c : Char) : Gap :=
  if g.ended then g else { g with blanks := g.blanks ++ [c] }

def addBreak (g : Gap) (text : List Char) : Gap :=
  if g.ended then { g with others := g.others ++ text } else ⟨[], true, text, []⟩

/-- What the gap stands for. -/
def fold (g : Gap) : List Char :=
  if !g.ended then g.blanks
  else if g.first = ['\n'] then (if g.others = [] then [' '] else g.others)
  else g.first ++ g.others

end Gap

/-- Reads a gap, in at most `fuel` steps. In a plain scalar, where `indent` gives the least column of a line, a tab
before that column is a fault. -/
def readGap (indent : Option Nat) : (fuel : Nat) → Gap → Cursor → Except Mark (Gap × Cursor)
  | 0, g, c => .ok (g, c)
  | n + 1, g, c =>
    match c.rest with
    | [] => .ok (g, c)
    | ch :: _ =>
      if isBlank ch then
        if ch = '\t' && g.ended && indent.any (c.mark.column < ·) then .error c.mark
        else readGap indent n (g.addBlank ch) c.skip
      else if isBreak ch then readGap indent n (g.addBreak c.breakText) c.skipBreak
      else .ok (g, c)

/-! ### Plain scalars -/

/-- Whether `c` separates the parts of a flow collection. -/
def isFlowIndicator (c : Char) : Bool := [',', '[', ']', '\x7b', '\x7d'].contains c

/-- The characters of a plain scalar up to the next gap or the end of the scalar, latest first. In a flow collection a
colon before an indicator is a fault. -/
def plainRun (flow : Bool) (read : List Char) : Cursor → List Char → Except Mark (List Char × Cursor)
  | c, [] => .ok (read, c)
  | c, ch :: rest =>
    if isBlank ch || isBreak ch then .ok (read, c)
    else if flow && ch = ':' && rest.head?.any (fun d => isFlowIndicator d || d = '?') then .error c.mark
    else if (ch = ':' && gapAhead rest) || (flow && isFlowIndicator ch) then .ok (read, c)
    else plainRun flow (ch :: read) c.skip rest

/-- A plain scalar as far as it has been read. -/
structure PlainText where
  /-- The characters, latest first. -/
  read : List Char
  /-- The gap behind them. -/
  gap : Gap
  /-- The place behind the last character. -/
  stop : Mark

/-- Reads on in a plain scalar whose lines begin at column `indent` or later, in at most `fuel` steps. -/
def plainFrom (flow : Bool) (indent : Nat) (start : Mark) :
    (fuel : Nat) → PlainText → Cursor → Except Fault (PlainText × Cursor)
  | 0, t, c => .ok (t, c)
  | n + 1, t, c =>
    if c.atMarker || c.at? '#' then .ok (t, c)
    else
      match plainRun flow [] c c.rest with
      | .error m => .error (.during .plainScalar start .colonInPlain m)
      | .ok (run, after) =>
        let t := if run = [] then t else ⟨run ++ (t.gap.fold.reverse ++ t.read), .none, after.mark⟩
        if breakAhead after.rest && after.rest = [] || !gapAhead after.rest then .ok (t, after)
        else
          match readGap (some indent) after.rest.length t.gap after with
          | .error m => .error (.during .plainScalar start .tabInPlain m)
          | .ok (gap, next) =>
            if !flow && next.mark.column < indent then .ok ({ t with gap := gap }, next)
            else plainFrom flow indent start n { t with gap := gap } next

/-! ### Quoted scalars -/

def hexValue? (c : Char) : Option Nat :=
  if '0' ≤ c && c ≤ '9' then some (c.toNat - 48)
  else if 'a' ≤ c && c ≤ 'f' then some (c.toNat - 87)
  else if 'A' ≤ c && c ≤ 'F' then some (c.toNat - 55)
  else none

/-- The number that `n` hexadecimal digits write; none if there are fewer. -/
def hexNumber (value : Nat) : Nat → List Char → Option Nat
  | 0, _ => some value
  | _ + 1, [] => none
  | n + 1, c :: cs => (hexValue? c).bind fun d => hexNumber (16 * value + d) n cs

/-- The character that an escape stands for. -/
def simpleEscape? : Char → Option Char
  | '0' => some (Char.ofNat 0)
  | 'a' => some (Char.ofNat 7)
  | 'b' => some (Char.ofNat 8)
  | 't' => some '\t'
  | '\t' => some '\t'
  | 'n' => some '\n'
  | 'v' => some (Char.ofNat 11)
  | 'f' => some (Char.ofNat 12)
  | 'r' => some '\r'
  | 'e' => some (Char.ofNat 27)
  | ' ' => some ' '
  | '"' => some '"'
  | '/' => some '/'
  | '\\' => some '\\'
  | 'N' => some (Char.ofNat 0x85)
  | '_' => some (Char.ofNat 0xa0)
  | 'L' => some (Char.ofNat 0x2028)
  | 'P' => some (Char.ofNat 0x2029)
  | _ => none

/-- The number of hexadecimal digits after an escape that gives a code. -/
def codeLength? : Char → Option Nat
  | 'x' => some 2
  | 'u' => some 4
  | 'U' => some 8
  | _ => none

/-- The character that the escape at the cursor stands for, and the cursor behind it. -/
def readEscape (start : Mark) (c : Cursor) : Except Fault (Char × Cursor) :=
  match c.rest with
  | _ :: e :: rest =>
    match simpleEscape? e, codeLength? e with
    | some ch, _ => .ok (ch, c.skip 2)
    | none, some n =>
      match hexNumber 0 n rest with
      | none => .error (.during .parseQuoted start .noHexDigit (c.skip 2).mark)
      | some v =>
        if v.isValidChar then .ok (Char.ofNat v, c.skip (2 + n))
        else .error (.during .parseQuoted start .invalidCode (c.skip 2).mark)
    | none, none => .error (.during .parseQuoted start .unknownEscape c.mark)
  | _ => .error (.during .parseQuoted start .unknownEscape c.mark)

/-- Reads the characters of a quoted scalar up to the next gap or the closing quote, in at most `fuel` steps. The
characters come latest first, with the gap that an escaped line end begins. -/
def quotedRun (single : Bool) (start : Mark) :
    (fuel : Nat) → List Char → Cursor → Except Fault (List Char × Gap × Cursor)
  | 0, read, c => .ok (read, .none, c)
  | n + 1, read, c =>
    match c.rest with
    | [] => .ok (read, .none, c)
    | ch :: rest =>
      if isBlank ch || isBreak ch then .ok (read, .none, c)
      else if single && ch = '\'' && rest.head? = some '\'' then quotedRun single start n ('\'' :: read) (c.skip 2)
      else if ch = (if single then '\'' else '"') then .ok (read, .none, c)
      else if !single && ch = '\\' && !rest.isEmpty && breakAhead rest then .ok (read, .escaped, c.skip.skipBreak)
      else if !single && ch = '\\' then
        match readEscape start c with
        | .error f => .error f
        | .ok (e, after) => quotedRun single start n (e :: read) after
      else quotedRun single start n (ch :: read) c.skip

/-- Reads a quoted scalar from behind its opening quote, in at most `fuel` steps: its characters, latest first, and
the cursor behind the closing quote. -/
def quotedFrom (single : Bool) (start : Mark) :
    (fuel : Nat) → List Char → Cursor → Except Fault (List Char × Cursor)
  | 0, read, c => .ok (read, c)
  | n + 1, read, c =>
    if c.atMarker then .error (.during .scanQuoted start .markerInQuoted c.mark)
    else if c.rest = [] then .error (.during .scanQuoted start .endInQuoted c.mark)
    else
      match quotedRun single start c.rest.length read c with
      | .error f => .error f
      | .ok (read, gap, after) =>
        if after.at? (if single then '\'' else '"') then .ok (read, after.skip)
        else
          match readGap none after.rest.length gap after with
          | .error m => .error (.during .scanQuoted start .endInQuoted m)
          | .ok (gap, next) => quotedFrom single start n (gap.fold.reverse ++ read) next

/-! ### Block scalars -/

/-- What happens to the line ends behind the last line of a block scalar. -/
inductive Chomping where
  | strip
  | clip
  | keep
  deriving DecidableEq

/-- The indicators behind the mark of a block scalar: its chomping and the indentation it asks for. -/
def blockHeader (start : Mark) (c : Cursor) : Except Fault (Chomping × Nat × Cursor) :=
  let sign? (c : Cursor) : Option Chomping :=
    if c.at? '+' then some .keep else if c.at? '-' then some .strip else none
  let digit (c : Cursor) : Except Fault (Nat × Cursor) :=
    match c.rest with
    | '0' :: _ => .error (.during .blockScalar start .zeroIndent c.mark)
    | d :: _ => if '1' ≤ d && d ≤ '9' then .ok (d.toNat - 48, c.skip) else .ok (0, c)
    | [] => .ok (0, c)
  match sign? c with
  | some chomping => (digit c.skip).map fun (n, after) => (chomping, n, after)
  | none =>
    (digit c).map fun (n, after) =>
      match sign? after with
      | some chomping => if n = 0 then (.clip, n, after) else (chomping, n, after.skip)
      | none => (.clip, n, after)

/-- The empty lines of a block scalar before its next text: their line ends, the widest indentation among them, the
place behind them, and the cursor at the text. An `indent` of zero stands for one not known yet. -/
def blockBreaks (start : Mark) (indent : Nat) :
    (fuel : Nat) → List Char → Nat → Mark → Cursor → Except Fault (List Char × Nat × Mark × Cursor)
  | 0, breaks, widest, stop, c => .ok (breaks, widest, stop, c)
  | n + 1, breaks, widest, stop, c =>
    let c := c.skip ((c.rest.takeWhile (· = ' ')).take
      (if indent = 0 then c.rest.length else indent - c.mark.column)).length
    let widest := max widest c.mark.column
    if (indent = 0 || c.mark.column < indent) && c.at? '\t' then
      .error (.during .blockScalar start .tabIndent c.mark)
    else
      match c.rest with
      | [] => .ok (breaks, widest, stop, c)
      | b :: _ =>
        if isBreak b then
          blockBreaks start indent n (breaks ++ c.breakText) widest c.skipBreak.mark c.skipBreak
        else .ok (breaks, widest, stop, c)

/-- A block scalar as far as it has been read. -/
structure BlockText where
  /-- The characters, latest first. -/
  read : List Char
  /-- The line end behind the last line, or nothing before the first. -/
  lineEnd : List Char
  /-- The line ends of the empty lines after it. -/
  breaks : List Char
  /-- Whether the last line begins with a blank. -/
  blankLed : Bool
  stop : Mark

/-- Reads the lines of a block scalar with a known indentation, in at most `fuel` steps. -/
def blockLines (literal : Bool) (start : Mark) (indent : Nat) :
    (fuel : Nat) → BlockText → Cursor → Except Fault (BlockText × Cursor)
  | 0, t, c => .ok (t, c)
  | n + 1, t, c =>
    if c.mark.column ≠ indent || c.rest = [] then .ok (t, c)
    else
      let led := c.rest.head?.any isBlank
      let joint :=
        if !literal && t.lineEnd = ['\n'] && !t.blankLed && !led then
          (if t.breaks = [] then [' '] else []) ++ t.breaks
        else t.lineEnd ++ t.breaks
      let (line, after) := c.takeWhile (!isBreak ·)
      let read := line.reverse ++ (joint.reverse ++ t.read)
      match blockBreaks start indent (after.rest.length + 1) [] 0 after.skipBreak.mark after.skipBreak with
      | .error f => .error f
      | .ok (breaks, _, stop, next) =>
        blockLines literal start indent n ⟨read, after.breakText, breaks, led, stop⟩ next

/-- Reads a block scalar from behind its mark, where `outer` is the indentation of the collection around it: its
characters and where they end. -/
def readBlock (literal : Bool) (start : Mark) (outer : Int) (c : Cursor) :
    Except Fault (List Char × Mark × Cursor) :=
  match blockHeader start c with
  | .error f => .error f
  | .ok (chomping, increment, c) =>
    let c := c.skipWhile isBlank
    let c := if c.at? '#' then c.skipWhile (!isBreak ·) else c
    if !breakAhead c.rest then .error (.during .blockScalar start .noLineEnd c.mark)
    else
      let c := c.skipBreak
      let asked := if increment = 0 then 0 else (if 0 ≤ outer then outer.toNat else 0) + increment
      match blockBreaks start asked (c.rest.length + 1) [] 0 c.mark c with
      | .error f => .error f
      | .ok (breaks, widest, stop, c) =>
        let indent := if asked = 0 then max (max widest (outer + 1).toNat) 1 else asked
        match blockLines literal start indent (c.rest.length + 1) ⟨[], [], breaks, false, stop⟩ c with
        | .error f => .error f
        | .ok (t, after) =>
          let tail :=
            match chomping with
            | .strip => []
            | .clip => t.lineEnd
            | .keep => t.lineEnd ++ t.breaks
          .ok (t.read.reverse ++ tail, t.stop, after)

end TapeLang.Yaml
