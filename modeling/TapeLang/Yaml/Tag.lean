import TapeLang.Yaml.Scalar

/-!
# Tags and anchors

A tag is a handle and a suffix; what a handle stands for is declared by directives. Anchors name a node, aliases
refer to it.
-/

namespace TapeLang.Yaml

/-- The octets of a tag. Its escapes may write octets that are no text. -/
abbrev Octets := List UInt8

/-- A tag as it is written: a handle of name characters and exclamation marks, and a suffix. -/
structure TagName where
  handle : List Char
  suffix : Octets
  deriving DecidableEq

/-- Whether `c` may stand in the suffix of a tag; the indicators of flow collections may not where a tag ends with a
blank. -/
def isUriChar (verbatim : Bool) (c : Char) : Bool :=
  isNameChar c || [';', '/', '?', ':', '@', '&', '=', '+', '$', '.', '%', '!', '~', '*', '\'', '(', ')'].contains c ||
    (verbatim && [',', '[', ']'].contains c)

/-- The octet that a percent sign and two hexadecimal digits write. -/
def escapedOctet? : List Char → Option UInt8
  | '%' :: a :: b :: _ => (hexValue? a).bind fun x => (hexValue? b).map fun y => (16 * x + y).toUInt8
  | _ => none

/-- The number of octets that have to follow a leading octet. -/
def trailingCount? (b : UInt8) : Option Nat :=
  if b < 0x80 then some 0
  else if 0xc0 ≤ b && b < 0xe0 then some 1
  else if 0xe0 ≤ b && b < 0xf0 then some 2
  else if 0xf0 ≤ b && b < 0xf8 then some 3
  else none

/-- Reads `n` escaped octets that continue a character. -/
def trailingOctets (a : Activity) (start : Mark) : (n : Nat) → Cursor → Except Fault (Octets × Cursor)
  | 0, c => .ok ([], c)
  | n + 1, c =>
    match escapedOctet? c.rest with
    | none => .error (.during a start .noUriEscape c.mark)
    | some b =>
      if b < 0x80 || 0xc0 ≤ b then .error (.during a start .trailingOctet c.mark)
      else (trailingOctets a start n (c.skip 3)).map fun (bs, after) => (b :: bs, after)

/-- Reads the escaped octets of one character. -/
def escapedChar (a : Activity) (start : Mark) (c : Cursor) : Except Fault (Octets × Cursor) :=
  match escapedOctet? c.rest with
  | none => .error (.during a start .noUriEscape c.mark)
  | some b =>
    match trailingCount? b with
    | none => .error (.during a start .leadingOctet c.mark)
    | some n => (trailingOctets a start n (c.skip 3)).map fun (bs, after) => (b :: bs, after)

/-- Reads the octets of a suffix, in at most `fuel` steps. -/
def uriFrom (a : Activity) (verbatim : Bool) (start : Mark) :
    (fuel : Nat) → Octets → Cursor → Except Fault (Octets × Cursor)
  | 0, read, c => .ok (read, c)
  | n + 1, read, c =>
    match c.rest with
    | [] => .ok (read, c)
    | ch :: _ =>
      if !isUriChar verbatim ch then .ok (read, c)
      else if ch = '%' then
        match escapedChar a start c with
        | .error f => .error f
        | .ok (octets, after) => uriFrom a verbatim start n (read ++ octets) after
      else uriFrom a verbatim start n (read ++ [ch.toNat.toUInt8]) c.skip

/-- Reads a suffix, of which `head` has been read already. -/
def readUri (a : Activity) (verbatim : Bool) (start : Mark) (head : List Char) (c : Cursor) :
    Except Fault (Octets × Cursor) :=
  match uriFrom a verbatim start c.rest.length (head.tail.map (·.toNat.toUInt8)) c with
  | .error f => .error f
  | .ok (octets, after) =>
    if head = [] ∧ after.mark = c.mark then .error (.during a start .noTagUri after.mark) else .ok (octets, after)

/-- Reads a handle: an exclamation mark, name characters, and mostly another exclamation mark. -/
def readHandle (a : Activity) (start : Mark) (c : Cursor) : Except Fault (List Char × Cursor) :=
  if !c.at? '!' then .error (.during a start .noTagMark c.mark)
  else
    let (name, after) := c.skip.takeWhile isNameChar
    if after.at? '!' then .ok ('!' :: name ++ ['!'], after.skip) else .ok ('!' :: name, after)

/-- Reads a tag; in a flow collection a comma may follow it directly. -/
def readTag (flow : Bool) (c : Cursor) : Except Fault (TagName × Cursor) := do
  let (tag, after) ←
    if c.skip.at? '<' then do
      let (suffix, after) ← readUri .parseTag true c.mark [] (c.skip 2)
      if after.at? '>' then .ok (⟨[], suffix⟩, after.skip)
      else .error (.during .scanTag c.mark .noTagEnd after.mark)
    else do
      let (handle, next) ← readHandle .scanTag c.mark c
      if handle.length ≠ 1 ∧ handle.getLast? = some '!' then
        let (suffix, after) ← readUri .parseTag false c.mark [] next
        .ok (⟨handle, suffix⟩, after)
      else
        let (suffix, after) ← readUri .parseTag false c.mark handle next
        .ok (if suffix = [] then ⟨[], ['!'.toNat.toUInt8]⟩ else ⟨['!'], suffix⟩, after)
  if gapAhead after.rest || (flow && after.at? ',') then .ok (tag, after)
  else .error (.during .scanTag c.mark .noWhitespaceOrBreak after.mark)

/-- Reads the name of an anchor or an alias. -/
def readAnchor (a : Activity) (c : Cursor) : Except Fault (List Char × Cursor) :=
  let (name, after) := c.skip.takeWhile isNameChar
  let ended := gapAhead after.rest ||
    after.rest.head?.any (fun ch => ['?', ':', ',', ']', '\x7d', '%', '@', Char.ofNat 0x60].contains ch)
  if name = [] || !ended then .error (.during a c.mark .noAnchorName after.mark) else .ok (name, after)

/-! ### Directives -/

/-- What a document declares before it begins. -/
inductive Directive where
  | version (major minor : Nat)
  | tag (handle : List Char) (expansion : Octets)
  deriving DecidableEq

/-- Reads one of the numbers of a version, of at most nine digits. -/
def readVersionNumber (start : Mark) (c : Cursor) : Except Fault (Nat × Cursor) :=
  let (digits, after) := c.takeWhile Char.isDigit
  if digits.length > 9 then .error (.during .versionDirective start .longVersion (c.skip 9).mark)
  else if digits = [] then .error (.during .versionDirective start .noVersion c.mark)
  else .ok (digits.foldl (fun n d => 10 * n + (d.toNat - 48)) 0, after)

def readVersion (start : Mark) (c : Cursor) : Except Fault (Directive × Cursor) := do
  let (major, c) ← readVersionNumber start (c.skipWhile isBlank)
  if !c.at? '.' then .error (.during .versionDirective start .noVersionDot c.mark)
  else
    let (minor, c) ← readVersionNumber start c.skip
    .ok (.version major minor, c)

def readTagDirective (start : Mark) (c : Cursor) : Except Fault (Directive × Cursor) := do
  let (handle, c) ← readHandle .scanTagHandleDirective start (c.skipWhile isBlank)
  if handle.length ≠ 1 ∧ handle.getLast? ≠ some '!' then
    .error (.during .parseTagHandleDirective start .noTagMark c.mark)
  else if !c.rest.head?.any isBlank then .error (.during .scanTagDirective start .noWhitespace c.mark)
  else
    let (expansion, c) ← readUri .parseTagDirective true start [] (c.skipWhile isBlank)
    if gapAhead c.rest then .ok (.tag handle expansion, c)
    else .error (.during .scanTagDirective start .noWhitespaceOrBreak c.mark)

/-- Reads a directive with the rest of its line: the directive, the place behind it, and the next line. -/
def readDirective (c : Cursor) : Except Fault (Directive × Mark × Cursor) := do
  let start := c.mark
  let (name, after) := c.skip.takeWhile isNameChar
  if name = [] then .error (.during .directive start .noDirectiveName after.mark)
  else if !gapAhead after.rest then .error (.during .directive start .directiveNameChar after.mark)
  else
    let (directive, after) ←
      if name = "YAML".toList then readVersion start after
      else if name = "TAG".toList then readTagDirective start after
      else .error (.during .directive start .unknownDirective after.mark)
    let next := after.skipWhile isBlank
    let next := if next.at? '#' then next.skipWhile (!isBreak ·) else next
    if breakAhead next.rest then .ok (directive, after.mark, next.skipBreak)
    else .error (.during .directive start .noLineEnd next.mark)

end TapeLang.Yaml
