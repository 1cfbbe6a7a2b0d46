import TapeLang.Yaml.Tag

/-!
# Tokens

The tokens of a document. Indentation becomes explicit: a block collection has a token where it begins and one where
it ends. A key need not be marked; that a token began one is known only at the colon behind it, so the tokens from a
possible key on are held back until it is settled. A key without a mark lies on one line and has at most 1024 bytes.
-/

namespace TapeLang.Yaml

/-- What a token is. -/
inductive Lexeme where
  | streamEnd
  | directive (d : Directive)
  | documentStart
  | documentEnd
  | blockSequenceStart
  | blockMappingStart
  | blockEnd
  | flowSequenceStart
  | flowSequenceEnd
  | flowMappingStart
  | flowMappingEnd
  | blockEntry
  | flowEntry
  | key
  | value
  | alias (name : List Char)
  | anchor (name : List Char)
  | tag (t : TagName)
  | scalar (text : List Char) (style : Style)
  deriving DecidableEq

/-- A lexeme and the places where it begins and ends. -/
structure Token where
  lexeme : Lexeme
  start : Mark
  stop : Mark
  deriving DecidableEq

namespace Token

/-- A token without text. -/
def empty (l : Lexeme) (m : Mark) : Token := ⟨l, m, m⟩

end Token

/-- A token that may turn out to begin a key: its number among all tokens, and its place. It has to be a key where
nothing else may stand at its column. -/
structure KeySlot where
  required : Bool
  number : Nat
  mark : Mark

namespace KeySlot

/-- Whether the key would be too long if it ended at `m`. -/
def isStale (k : KeySlot) (m : Mark) : Bool := k.mark.line < m.line || k.mark.offset + 1024 < m.offset

def fault (k : KeySlot) (m : Mark) : Fault := .during .simpleKey k.mark .noColon m

end KeySlot

/-- A fault that ends the reading once `offset` bytes have been passed. -/
structure Barrier where
  offset : Nat
  fault : Fault

/-- How far the tokens of a document have been read. -/
structure Reading where
  cursor : Cursor
  /-- The tokens that are held back. -/
  pending : List Token
  /-- The number of tokens before them. -/
  released : Nat
  /-- The column of the innermost block collection, and −1 outside of all. -/
  indent : Int
  /-- The columns of the collections around it. -/
  indents : List Int
  /-- Whether a key without a mark may begin here. -/
  keyAllowed : Bool
  /-- The possible key in the innermost flow collection, or outside of all. -/
  key : Option KeySlot
  /-- The possible keys around it, one for each open flow collection. -/
  outerKeys : List (Option KeySlot)

namespace Reading

def ofText (cs : List Char) : Reading := ⟨.ofText cs, [], 0, -1, [], true, none, []⟩

def inFlow (r : Reading) : Bool := !r.outerKeys.isEmpty

def mark (r : Reading) : Mark := r.cursor.mark

/-- Adds a token and goes on behind it. -/
def push (r : Reading) (l : Lexeme) (stop : Mark) (after : Cursor) : Reading :=
  { r with pending := r.pending ++ [⟨l, r.mark, stop⟩], cursor := after }

/-- Adds a token of `n` characters. -/
def pushChars (r : Reading) (l : Lexeme) (n : Nat := 1) : Reading :=
  r.push l (r.cursor.skip n).mark (r.cursor.skip n)

/-! ### Keys -/

/-- Gives up a possible key that has become too long. -/
def dropStaleKey (m : Mark) : Option KeySlot → Except Fault (Option KeySlot)
  | none => .ok none
  | some k => if !k.isStale m then .ok (some k) else if k.required then .error (k.fault m) else .ok none

def dropStaleKeys (r : Reading) : Except Fault Reading := do
  let outerKeys ← r.outerKeys.mapM (dropStaleKey r.mark)
  let key ← dropStaleKey r.mark r.key
  .ok { r with key := key, outerKeys := outerKeys }

/-- Gives up the possible key: what follows is not the colon behind it. -/
def dropKey (r : Reading) : Except Fault Reading :=
  match r.key with
  | some k => if k.required then .error (k.fault r.mark) else .ok { r with key := none }
  | none => .ok r

/-- Notes that the next token may begin a key. -/
def noteKey (r : Reading) : Except Fault Reading := do
  if !r.keyAllowed then .ok r
  else
    let r ← r.dropKey
    let required := !r.inFlow && r.indent = r.mark.column
    .ok { r with key := some ⟨required, r.released + r.pending.length, r.mark⟩ }

/-- The number of pending tokens that no possible key concerns. -/
def settledCount (r : Reading) : Nat :=
  ((r.key :: r.outerKeys).filterMap id).foldl (fun n k => min n (k.number - r.released)) r.pending.length

/-- Releases the tokens before the first possible key. -/
def release (r : Reading) : List Token × Reading :=
  let n := r.settledCount
  (r.pending.take n, { r with pending := r.pending.drop n, released := r.released + n })

/-! ### Indentation -/

/-- The block collections further right than `column` end: their number, and the columns that are left. -/
def closedBelow (column indent : Int) : List Int → Nat × Int × List Int
  | [] => (0, indent, [])
  | i :: is =>
    if column < indent then
      let (n, left) := closedBelow column i is
      (n + 1, left)
    else (0, indent, i :: is)

/-- Ends the block collections further right than `column`. -/
def closeBlocks (r : Reading) (column : Int) : Reading :=
  if r.inFlow then r
  else
    let (n, indent, indents) := closedBelow column r.indent r.indents
    { r with
      pending := r.pending ++ List.replicate n (.empty .blockEnd r.mark), indent := indent, indents := indents }

/-- Begins a block collection at `m` if it is further right than the innermost one. Its token, and the `more` behind
it, come before the pending token number `i`. -/
def openBlock (r : Reading) (l : Lexeme) (m : Mark) (i : Nat) (more : List Token) : Reading :=
  let opens := !r.inFlow && r.indent < m.column
  let added := (if opens then [.empty l m] else []) ++ more
  let r := { r with pending := r.pending.take i ++ added ++ r.pending.drop i }
  if opens then { r with indent := m.column, indents := r.indent :: r.indents } else r

/-! ### Reading one token -/

/-- Passes blanks, comments and line ends, in at most `fuel` steps. A byte order mark may begin a line, and a tab
counts as a blank only where no key may begin. -/
def skipGap : (fuel : Nat) → Reading → Reading
  | 0, r => r
  | n + 1, r =>
    let c := r.cursor
    let c := if c.mark.column = 0 && c.at? '\ufeff' then c.skip else c
    let c := c.skipWhile fun ch => ch = ' ' || (ch = '\t' && (r.inFlow || !r.keyAllowed))
    let c := if c.at? '#' then c.skipWhile (!isBreak ·) else c
    if c.rest.head?.any isBreak then
      skipGap n { r with cursor := c.skipBreak, keyAllowed := r.keyAllowed || !r.inFlow }
    else { r with cursor := c }

/-- The end of the text ends a line. -/
def readStreamEnd (r : Reading) : Except Fault Reading := do
  let m := r.mark
  let m := if m.column = 0 then m else { m with line := m.line + 1, column := 0 }
  let r := { r with cursor := { r.cursor with mark := m } }
  let r ← (r.closeBlocks (-1)).dropKey
  .ok ({ r with keyAllowed := false }.pushChars .streamEnd 0)

/-- A token that stands outside of all collections. -/
def outermost (r : Reading) : Except Fault Reading := do
  let r ← (r.closeBlocks (-1)).dropKey
  .ok { r with keyAllowed := false }

def readFlowStart (r : Reading) (l : Lexeme) : Except Fault Reading := do
  let r ← r.noteKey
  .ok ({ r with key := none, outerKeys := r.key :: r.outerKeys, keyAllowed := true }.pushChars l)

def readFlowEnd (r : Reading) (l : Lexeme) : Except Fault Reading := do
  let r ← r.dropKey
  let r :=
    match r.outerKeys with
    | k :: ks => { r with key := k, outerKeys := ks }
    | [] => r
  .ok ({ r with keyAllowed := false }.pushChars l)

def readFlowEntry (r : Reading) : Except Fault Reading := do
  let r ← r.dropKey
  .ok ({ r with keyAllowed := true }.pushChars .flowEntry)

/-- A marked entry or key, which begins a block collection if it is the first of it. -/
def readMarked (r : Reading) (collection l : Lexeme) (p : Problem) (keyAllowed : Bool) : Except Fault Reading := do
  if !r.inFlow && !r.keyAllowed then .error (.bare p r.mark)
  else
    let r ← (r.openBlock collection r.mark r.pending.length []).dropKey
    .ok ({ r with keyAllowed := keyAllowed }.pushChars l)

/-- A colon. If a key was possible, it is one, and its tokens come before those that were held back. -/
def readValue (r : Reading) : Except Fault Reading :=
  match r.key with
  | some k =>
    let r := r.openBlock .blockMappingStart k.mark (k.number - r.released) [.empty .key k.mark]
    .ok ({ r with key := none, keyAllowed := false }.pushChars .value)
  | none => r.readMarked .blockMappingStart .value .mappingValue (!r.inFlow)

/-- A token that may begin a key, read by `read`. -/
def readHead (r : Reading) (read : Cursor → Except Fault (Lexeme × Mark × Cursor)) : Except Fault Reading := do
  let r ← r.noteKey
  let (l, stop, after) ← read r.cursor
  .ok ({ r with keyAllowed := false }.push l stop after)

def readPlain (r : Reading) : Except Fault Reading := do
  let r ← r.noteKey
  let (t, after) ←
    plainFrom r.inFlow (r.indent + 1).toNat r.mark r.cursor.rest.length ⟨[], .none, r.mark⟩ r.cursor
  .ok ({ r with keyAllowed := t.gap.ended }.push (.scalar t.read.reverse .plain) t.stop after)

def readBlockScalar (r : Reading) (literal : Bool) : Except Fault Reading := do
  let r ← r.dropKey
  let (text, stop, after) ← readBlock literal r.mark r.indent r.cursor.skip
  .ok ({ r with keyAllowed := true }.push (.scalar text (if literal then .literal else .folded)) stop after)

def readQuoted (single : Bool) (c : Cursor) : Except Fault (Lexeme × Mark × Cursor) := do
  let (read, after) ← quotedFrom single c.mark c.rest.length [] c.skip
  .ok (.scalar read.reverse (if single then .singleQuoted else .doubleQuoted), after.mark, after)

/-- Whether a plain scalar may begin with `ch` before `rest`. -/
def beginsPlain (flow : Bool) (ch : Char) (rest : List Char) : Bool :=
  let indicators :=
    ['-', '?', ':', ',', '[', ']', '\x7b', '\x7d', '#', '&', '*', '!', '|', '>', '\'', '"', '%', '@', Char.ofNat 0x60]
  !(isBlank ch || isBreak ch || indicators.contains ch) ||
    (ch = '-' && !rest.head?.any isBlank) ||
    (!flow && (ch = '?' || ch = ':') && !gapAhead rest)

/-- Reads the token that begins with `ch` at the cursor. -/
def readAt (r : Reading) (ch : Char) (rest : List Char) : Except Fault Reading :=
  let flow := r.inFlow
  if ch = '%' && r.mark.column = 0 then do
    let r ← r.outermost
    let (d, stop, after) ← readDirective r.cursor
    .ok (r.push (.directive d) stop after)
  else if r.cursor.atMarker then
    (·.pushChars (if ch = '-' then .documentStart else .documentEnd) 3) <$> r.outermost
  else if ch = '[' then r.readFlowStart .flowSequenceStart
  else if ch = '\x7b' then r.readFlowStart .flowMappingStart
  else if ch = ']' then r.readFlowEnd .flowSequenceEnd
  else if ch = '\x7d' then r.readFlowEnd .flowMappingEnd
  else if ch = ',' then r.readFlowEntry
  else if ch = '-' && gapAhead rest then r.readMarked .blockSequenceStart .blockEntry .sequenceEntry true
  else if ch = '?' && (flow || gapAhead rest) then r.readMarked .blockMappingStart .key .mappingKey (!flow)
  else if ch = ':' && (flow || gapAhead rest) then r.readValue
  else if ch = '*' then
    r.readHead fun c => (readAnchor .alias c).map fun (name, after) => (.alias name, after.mark, after)
  else if ch = '&' then
    r.readHead fun c => (readAnchor .anchor c).map fun (name, after) => (.anchor name, after.mark, after)
  else if ch = '!' then
    r.readHead fun c => (readTag flow c).map fun (t, after) => (.tag t, after.mark, after)
  else if ch = '|' && !flow then r.readBlockScalar true
  else if ch = '>' && !flow then r.readBlockScalar false
  else if ch = '\'' then r.readHead (readQuoted true)
  else if ch = '"' then r.readHead (readQuoted false)
  else if beginsPlain flow ch rest then r.readPlain
  else .error (.during .nextToken r.mark .noToken r.mark)

/-- Reads the next token with what its place implies. -/
def next (r : Reading) : Except Fault Reading := do
  let r ← (skipGap (r.cursor.rest.length + 1) r).dropStaleKeys
  let r := r.closeBlocks r.mark.column
  match r.cursor.rest with
  | [] => r.readStreamEnd
  | ch :: rest => r.readAt ch rest

/-- Reads the next token, unless the barrier comes first. -/
def step (barrier : Option Barrier) (r : Reading) : Except Fault Reading :=
  match barrier, r.next >>= dropStaleKeys with
  | none, result => result
  | some b, .ok s => if b.offset ≤ s.mark.offset then .error b.fault else .ok s
  | some b, .error f => .error (if b.offset ≤ f.offset then b.fault else f)

/-- The tokens from here on, as far as they can be read in `fuel` steps, and what stopped the reading before the end.
What is held back when a fault is found gets lost. -/
def tokens (barrier : Option Barrier) : (fuel : Nat) → Reading → List Token × Option Fault
  | 0, _ => ([], none)
  | n + 1, r =>
    match r.step barrier with
    | .error f => ([], some f)
    | .ok r =>
      let (ready, r) := r.release
      if ready.any (·.lexeme = .streamEnd) then (ready, none)
      else
        let (more, fault) := tokens barrier n r
        (ready ++ more, fault)

end Reading

namespace Token

/-- The tokens of a text, as far as they can be read. Each step but the last passes a character. -/
def ofText (barrier : Option Barrier) (cs : List Char) : List Token × Option Fault :=
  (Reading.ofText cs).tokens barrier (cs.length + 1)

end Token

end TapeLang.Yaml
