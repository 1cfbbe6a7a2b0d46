import TapeLang.Yaml.Token

/-!
# Documents

What the first document of a text says, as far as a document of named scalars goes: its root and, if that is a
mapping, the keys and values in turn up to the first that is a collection. What cannot be read comes last, so that
all before it still counts.
-/

namespace TapeLang.Yaml

/-- A scalar with its tag. -/
structure Scalar where
  text : String
  style : Style
  tag : Option Octets
  deriving DecidableEq

/-- How a node begins. -/
inductive Content where
  | scalar (s : Scalar)
  | sequence (tag : Option Octets)
  | mapping (tag : Option Octets)
  deriving DecidableEq

namespace Content

def isScalar : Content → Bool
  | .scalar _ => true
  | _ => false

/-- The content of a place where a node could stand and none does. -/
def empty : Content := .scalar ⟨"", .plain, none⟩

end Content

/-- A node as it is written: named or not, or the name of another node. -/
inductive Item where
  | content (anchor : Option (List Char)) (c : Content)
  | alias (name : List Char)
  deriving DecidableEq

namespace Item

/-- Whether what stands behind the item has to be read without regard to its inside. -/
def isFlat : Item → Bool
  | .content _ c => c.isScalar
  | .alias _ => true

end Item

/-- Tokens, and what stopped their reading. -/
structure Stream where
  tokens : List Token
  fault : Option Fault

namespace Stream

/-- The next token. Behind the last one stands the fault that made it the last. -/
def peek (s : Stream) : Except Fault Token :=
  match s.tokens, s.fault with
  | t :: _, _ => .ok t
  | [], some f => .error f
  | [], none => .ok (.empty .streamEnd .start)

def skip (s : Stream) : Stream := { s with tokens := s.tokens.tail }

end Stream

/-! ### Nodes -/

/-- What the handles of tags stand for. -/
abbrev TagTable := List (List Char × Octets)

def octets (s : String) : Octets := s.toUTF8.toList

/-- The handles that need no declaration. -/
def TagTable.default : TagTable := [(['!'], octets "!"), (['!', '!'], octets "tag:yaml.org,2002:")]

/-- The properties of a node, each at most once and in any order. -/
structure Properties where
  anchor : Option (List Char)
  tag : Option (TagName × Mark)
  start : Mark
  stop : Mark

/-- Reads the properties before a node. -/
def readProperties (s : Stream) : Except Fault (Properties × Stream) := do
  let t ← s.peek
  match t.lexeme with
  | .anchor name =>
    let u ← s.skip.peek
    match u.lexeme with
    | .tag tag => .ok (⟨some name, some (tag, u.start), t.start, u.stop⟩, s.skip.skip)
    | _ => .ok (⟨some name, none, t.start, t.stop⟩, s.skip)
  | .tag tag =>
    let u ← s.skip.peek
    match u.lexeme with
    | .anchor name => .ok (⟨some name, some (tag, t.start), t.start, u.stop⟩, s.skip.skip)
    | _ => .ok (⟨none, some (tag, t.start), t.start, t.stop⟩, s.skip)
  | _ => .ok (⟨none, none, t.start, t.start⟩, s)

/-- The tag that a handle and a suffix stand for. -/
def resolveTag (table : TagTable) (start : Mark) : Option (TagName × Mark) → Except Fault (Option Octets)
  | none => .ok none
  | some (t, place) =>
    if t.handle = [] then .ok (some t.suffix)
    else
      match table.find? (·.1 = t.handle) with
      | some (_, expansion) => .ok (some (expansion ++ t.suffix))
      | none => .error (.during .node start .undefinedHandle place)

/-- A kind of place in a document where a node may stand. -/
structure Site where
  /-- Whether a block collection may stand here. -/
  block : Bool
  /-- Whether a block sequence may stand here without being indented. -/
  indentless : Bool

/-- The beginning of a node. -/
structure Head where
  item : Item
  place : Mark
  /-- The first token behind the properties. -/
  first : Token
  rest : Stream

/-- Reads how the next node begins, up to its first token if it is a collection. -/
def readHead (table : TagTable) (site : Site) (s : Stream) : Except Fault Head := do
  let t ← s.peek
  match t.lexeme with
  | .alias name => .ok ⟨.alias name, t.start, t, s.skip⟩
  | _ =>
    let (p, s) ← readProperties s
    let t ← s.peek
    let tag ← resolveTag table p.start p.tag
    let begun (c : Content) : Except Fault Head := .ok ⟨.content p.anchor c, p.start, t, s.skip⟩
    let unread (c : Content) : Except Fault Head := .ok ⟨.content p.anchor c, p.start, t, s⟩
    match t.lexeme with
    | .scalar text style =>
      begun (.scalar ⟨String.ofList text, style, tag⟩)
    | .flowSequenceStart => begun (.sequence tag)
    | .flowMappingStart => begun (.mapping tag)
    | l =>
      if l = .blockEntry ∧ site.indentless then unread (.sequence tag)
      else if l = .blockSequenceStart ∧ site.block then begun (.sequence tag)
      else if l = .blockMappingStart ∧ site.block then begun (.mapping tag)
      else if p.anchor.isSome ∨ p.tag.isSome then unread (.scalar ⟨"", .plain, tag⟩)
      else .error (.during (if site.block then .blockNode else .flowNode) p.start .noContent t.start)

/-! ### Mappings -/

/-- What is due next in a mapping. -/
inductive Turn where
  | firstKey
  | key
  | value
  /-- The value of a key in a flow mapping that has no colon. -/
  | noValue
  deriving DecidableEq

/-- The next item of a mapping, or its end. -/
inductive Step where
  | item (i : Item) (place : Mark) (next : Turn) (rest : Stream)
  | close (rest : Stream)

namespace Step

def missing (place : Mark) (next : Turn) (rest : Stream) : Except Fault Step :=
  .ok (.item (.content none .empty) place next rest)

def node (table : TagTable) (site : Site) (next : Turn) (s : Stream) : Except Fault Step :=
  (readHead table site s).map fun h => .item h.item h.place next h.rest

/-- One step in a block mapping that begins at `since`. -/
def inBlock (table : TagTable) (since : Mark) (turn : Turn) (s : Stream) : Except Fault Step := do
  let site : Site := ⟨true, true⟩
  let behind (mark : Mark) (next : Turn) (s : Stream) : Except Fault Step := do
    let t ← s.peek
    if t.lexeme = .key ∨ t.lexeme = .value ∨ t.lexeme = .blockEnd then missing mark next s else node table site next s
  let t ← s.peek
  if turn = .value then
    if t.lexeme = .value then behind t.stop .key s.skip else missing t.start .key s
  else if t.lexeme = .key then behind t.stop .value s.skip
  else if t.lexeme = .blockEnd then .ok (.close s.skip)
  else .error (.during .blockMapping since .noKey t.start)

/-- One step in a flow mapping that begins at `since`. -/
def inFlow (table : TagTable) (since : Mark) (turn : Turn) (s : Stream) : Except Fault Step := do
  let site : Site := ⟨false, false⟩
  let keyAt (s : Stream) : Except Fault Step := do
    let t ← s.peek
    if t.lexeme = .key then
      let u ← s.skip.peek
      if u.lexeme = .value ∨ u.lexeme = .flowEntry ∨ u.lexeme = .flowMappingEnd then missing u.start .value s.skip
      else node table site .value s.skip
    else if t.lexeme = .flowMappingEnd then .ok (.close s.skip)
    else node table site .noValue s
  let t ← s.peek
  match turn with
  | .noValue => missing t.start .key s
  | .value =>
    if t.lexeme = .value then
      let u ← s.skip.peek
      if u.lexeme = .flowEntry ∨ u.lexeme = .flowMappingEnd then missing u.start .key s.skip
      else node table site .key s.skip
    else missing t.start .key s
  | .firstKey => keyAt s
  | .key =>
    if t.lexeme = .flowMappingEnd then .ok (.close s.skip)
    else if t.lexeme = .flowEntry then keyAt s.skip
    else .error (.during .flowMapping since .noCommaOrBrace t.start)

end Step

/-- How the reading of a document ends. -/
inductive Ending where
  /-- All has been read, and what is left is behind the document's last node. -/
  | complete (rest : Stream)
  /-- The inside of a collection comes next. -/
  | nested
  | fault (f : Fault)

/-- The items of a mapping in turn, in at most `fuel` steps. -/
def itemsFrom (step : Turn → Stream → Except Fault Step) :
    (fuel : Nat) → Turn → Stream → List (Item × Mark) × Ending
  | 0, _, s => ([], .complete s)
  | n + 1, turn, s =>
    match step turn s with
    | .error f => ([], .fault f)
    | .ok (.close rest) => ([], .complete rest)
    | .ok (.item i place next rest) =>
      if i.isFlat then
        let (more, ending) := itemsFrom step n next rest
        ((i, place) :: more, ending)
      else ([(i, place)], .nested)

/-! ### Documents -/

/-- Reads the directives of a document into a table of tag handles. -/
def readDirectives : (fuel : Nat) → (version : Bool) → TagTable → Stream → Except Fault (TagTable × Stream)
  | 0, _, table, s => .ok (table, s)
  | n + 1, version, table, s => do
    let t ← s.peek
    match t.lexeme with
    | .directive (.version major minor) =>
      if version then .error (.bare .duplicateVersion t.start)
      else if major = 1 ∧ (minor = 1 ∨ minor = 2) then readDirectives n true table s.skip
      else .error (.bare .incompatibleVersion t.start)
    | .directive (.tag handle expansion) =>
      if table.any (·.1 = handle) then .error (.bare .duplicateTag t.start)
      else readDirectives n version (table ++ [(handle, expansion)]) s.skip
    | _ => .ok (table, s)

/-- Whether nothing can follow a document start but an empty document. -/
def Lexeme.endsContent : Lexeme → Bool
  | .directive _ | .documentStart | .documentEnd | .streamEnd => true
  | _ => false

/-- The root of a document, and the items inside if it is a mapping. -/
def readRoot (table : TagTable) (s : Stream) : List (Item × Mark) × Ending :=
  match readHead table ⟨true, false⟩ s with
  | .error f => ([], .fault f)
  | .ok h =>
    let items (step : Turn → Stream → Except Fault Step) : List (Item × Mark) × Ending :=
      itemsFrom step (2 * h.rest.tokens.length + 2) .firstKey h.rest
    let (inside, ending) :=
      match h.first.lexeme with
      | .blockMappingStart => items (Step.inBlock table h.first.start)
      | .flowMappingStart => items (Step.inFlow table h.first.start)
      | _ => ([], if h.item.isFlat then .complete h.rest else .nested)
    ((h.item, h.place) :: inside, ending)

/-- What stands in a text before its documents are told apart: the items of the first one, and whether there is
another. -/
structure Outline where
  items : List (Item × Mark)
  fault : Option Fault
  more : Bool

namespace Outline

/-- Whether another document begins in `s`, behind the end of the first. Text that cannot be read counts as one. -/
def hasMore : (fuel : Nat) → Stream → Bool
  | 0, _ => false
  | n + 1, s =>
    match s.peek with
    | .ok t =>
      match t.lexeme with
      | .documentEnd => hasMore n s.skip
      | .streamEnd => false
      | _ => true
    | .error _ => true

def ofItems : List (Item × Mark) × Ending → Outline
  | (items, .complete rest) =>
    match rest.peek with
    | .ok _ => ⟨items, none, hasMore (rest.tokens.length + 1) rest⟩
    | .error f => ⟨items, some f, false⟩
  | (items, .nested) => ⟨items, none, false⟩
  | (items, .fault f) => ⟨items, some f, false⟩

/-- The outline of a text with the given tokens. A document may begin without a mark. -/
def ofStream (s : Stream) : Outline :=
  match s.peek with
  | .error f => ⟨[], some f, false⟩
  | .ok t =>
    match t.lexeme with
    | .streamEnd => ⟨[], none, false⟩
    | .directive _ | .documentStart =>
      match readDirectives s.tokens.length false [] s with
      | .error f => ⟨[], some f, false⟩
      | .ok (table, rest) =>
        match rest.peek with
        | .error f => ⟨[], some f, false⟩
        | .ok u =>
          if u.lexeme ≠ .documentStart then ⟨[], some (.bare .noDocumentStart u.start), false⟩
          else
            match rest.skip.peek with
            | .error f => ⟨[], some f, false⟩
            | .ok v =>
              if v.lexeme.endsContent then
                ofItems ([(.content none .empty, v.start)], .complete rest.skip)
              else ofItems (readRoot (table ++ .default) rest.skip)
    | _ => ofItems (readRoot .default s)

end Outline

/-! ### Names -/

/-- A node of a document: where it stands, and what it is. An alias stands for another node. -/
structure Node where
  place : Mark
  content : Content
  /-- Where the content stands. -/
  origin : Mark
  isAlias : Bool
  deriving DecidableEq

/-- The document of a text. -/
structure Document where
  /-- The root, and the keys and values inside in turn. -/
  nodes : List Node
  fault : Option Fault
  /-- Whether the text holds another document. -/
  more : Bool

namespace Document

/-- Gives numbers to names: a named node gets the number of different names before it, and an alias the last number
of its name. Ends at an alias without one. -/
def number (names : List (List Char × Nat)) :
    List (Item × Mark) → List (Item × Mark × Option Nat) × Option Fault
  | [] => ([], none)
  | (i, place) :: items =>
    match i with
    | .content none _ =>
      let (more, fault) := number names items
      ((i, place, none) :: more, fault)
    | .content (some name) _ =>
      let n := names.length
      let known := names.any (·.1 = name)
      let names := if known then names.map fun (m, k) => (m, if m = name then n else k) else names ++ [(name, n)]
      let (more, fault) := number names items
      ((i, place, some n) :: more, fault)
    | .alias name =>
      match names.find? (·.1 = name) with
      | none => ([], some (.unknownAnchor place))
      | some (_, n) =>
        let (more, fault) := number names items
        ((i, place, some n) :: more, fault)

/-- The content with a number, and its place. Of several the last counts. -/
def contentOf? (items : List (Item × Mark × Option Nat)) (n : Option Nat) : Option (Content × Mark) :=
  (items.filterMap fun (i, place, k) =>
    match i with
    | .content _ c => if k = n then some (c, place) else none
    | .alias _ => none).getLast?

/-- The nodes of numbered items. -/
def nodesOf (items : List (Item × Mark × Option Nat)) : List Node :=
  items.filterMap fun (i, place, n) =>
    match i with
    | .content _ c => some ⟨place, c, place, false⟩
    | .alias _ => (contentOf? items n).map fun (c, origin) => ⟨place, c, origin, true⟩

def ofOutline (o : Outline) : Document :=
  match number [] o.items with
  | (items, some f) => ⟨nodesOf items, some f, false⟩
  | (items, none) => ⟨nodesOf items, o.fault, o.more⟩

/-- Whether a document may hold the character. -/
def isAllowed (c : Char) : Bool :=
  let n := c.toNat
  n = 0x09 || n = 0x0a || n = 0x0d || (0x20 ≤ n && n ≤ 0x7e) || n = 0x85 || (0xa0 ≤ n && n ≤ 0xfffd) || 0x10000 ≤ n

/-- The number of bytes that are taken from a text at once; a character is not divided. -/
def blockSize : Nat := 16384

/-- The barrier that the first character which no document may hold puts before its block. The block begins after
`block` bytes and has room for `room` more, and `offset` bytes are before `cs`. -/
def barrierFrom (block room offset : Nat) : List Char → Option Barrier
  | [] => none
  | c :: cs =>
    let (block, room) := if room < c.utf8Size then (offset, blockSize) else (block, room)
    if isAllowed c then barrierFrom block (room - c.utf8Size) (offset + c.utf8Size) cs
    else some ⟨block, .control offset⟩

/-- The first document of a text. -/
def ofText (text : String) : Document :=
  let (tokens, fault) := Token.ofText (barrierFrom 0 blockSize 0 text.toList) text.toList
  ofOutline (.ofStream ⟨tokens, fault⟩)

end Document

end TapeLang.Yaml
