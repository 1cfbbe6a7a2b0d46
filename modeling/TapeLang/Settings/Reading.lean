import TapeLang.Settings
import TapeLang.Yaml.Value
import TapeLang.Text.WhiteSpace

/-!
# Reading settings

Settings are written as a mapping from field names to scalars. A field that is not mentioned keeps its default, and a
blank text means the defaults. The fields are read in the order of the text, and the first complaint ends the
reading; what cannot be read at all counts only when nothing before it is wrong.
-/

namespace TapeLang.Settings

open Yaml (Mark Content Node Document)

/-- The fields of settings. -/
inductive Field where
  | target
  | container
  | tapeSize
  | extension
  | provenance
  | autoFormat
  deriving DecidableEq

namespace Field

def all : List Field := [.target, .container, .tapeSize, .extension, .provenance, .autoFormat]

def name : Field → String
  | .target => "target"
  | .container => "container"
  | .tapeSize => "tape_size"
  | .extension => "extension"
  | .provenance => "provenance"
  | .autoFormat => "auto_format"

def ofName? (s : String) : Option Field := all.find? (·.name = s)

end Field

/-- What is wrong with a key or a value. -/
inductive Complaint where
  | mismatch (found : Content) (expected : String)
  /-- A text behind a tag that says everything. -/
  | notNull (text : String)
  | unknownField (name : String)
  | duplicateField (f : Field)
  | unknownTarget (name : String)
  deriving DecidableEq

/-- The names that a target may be written with. -/
def targetNames : List String :=
  ["rs", "rust", "c#", "cs", "csharp", "py", "python", "ts", "typescript", "go", "golang", "java"]

def choices (names : List String) : String :=
  "expected one of " ++ ", ".intercalate (names.map Yaml.ticked)

namespace Complaint

def message : Complaint → String
  | .mismatch found expected => found.mismatch expected
  | .notNull text => s!"invalid value: string {Text.quoted text}, expected null"
  | .unknownField name => s!"unknown field {Yaml.ticked name}, {choices (Field.all.map Field.name)}"
  | .duplicateField f => s!"duplicate field {Yaml.ticked f.name}"
  | .unknownTarget name => s!"unknown variant {Yaml.ticked name}, {choices targetNames}"

end Complaint

/-- Why a text gives no settings. -/
inductive ReadingError where
  /-- A complaint about the value of a key, or about the whole if there is no key. -/
  | complaint (c : Complaint) (key : Option String) (place : Mark)
  | fault (f : Yaml.Fault)
  | severalDocuments
  deriving DecidableEq

namespace ReadingError

def message : ReadingError → String
  | .complaint c key place => (key.elim "" (· ++ ": ")) ++ c.message ++ place.suffix
  | .fault f => f.message
  | .severalDocuments => "deserializing from YAML containing more than one document is not supported"

end ReadingError

/-! ### Values -/

/-- Reads the target, which is a name or a tag without a value. -/
def readTarget (root : Mark) (key : String) (v : Node) : Except ReadingError Target :=
  let wrong (c : Complaint) : Except ReadingError Target := .error (.complaint c (some key) v.origin)
  match Yaml.localName? v.content.tag? with
  | some name =>
    match Target.ofLowerName? name with
    | none =>
      .error (if v.isAlias then .complaint (.unknownTarget name) (some key) v.place
        else .complaint (.unknownTarget name) none root)
    | some t =>
      if v.content.isNothing then .ok t
      else
        match v.content with
        | .scalar s => wrong (.notNull s.text)
        | c => wrong (.mismatch c "unit")
  | none =>
    match v.content with
    | .scalar s =>
      match Target.ofLowerName? s.text with
      | some t => .ok t
      | none => wrong (.unknownTarget s.text)
    | c => wrong (.mismatch c "a YAML tag starting with '!'")

/-- Reads a value by `read?`. -/
def readValue {α : Type} (key : String) (v : Node) (expected : String) (read? : Content → Option α) :
    Except ReadingError α :=
  match read? v.content with
  | some x => .ok x
  | none => .error (.complaint (.mismatch v.content expected) (some key) v.origin)

/-- Reads the value of a field. -/
def readField (root : Mark) (key : String) (v : Node) (s : Settings) : Field → Except ReadingError Settings
  | .target => (readTarget root key v).map fun x => { s with target := x }
  | .container => (readValue key v "a string" Content.text?).map fun x => { s with container := x }
  | .tapeSize => (readValue key v "usize" Content.nat?).map fun x => { s with tapeSize := x }
  | .extension => (readValue key v "a string" Content.text?).map fun x => { s with extension := x }
  | .provenance => (readValue key v "a boolean" Content.bool?).map fun x => { s with provenance := x }
  | .autoFormat => (readValue key v "a boolean" Content.bool?).map fun x => { s with autoFormat := x }

/-! ### Documents -/

/-- Reads the field that a key names. -/
def readKey (k : Node) : Except ReadingError Field :=
  match k.content with
  | .scalar s =>
    match Field.ofName? s.text with
    | some f => .ok f
    | none => .error (.complaint (.unknownField s.text) none k.origin)
  | c => .error (.complaint (.mismatch c "field identifier") none k.origin)

/-- Reads keys and values in turn, where `seen` holds the fields so far. Only at the end of what can be read a key
may be without a value. -/
def readFields (root : Mark) (seen : List Field) (s : Settings) : List Node → Except ReadingError Settings
  | [] => .ok s
  | [k] => do
    let f ← readKey k
    if f ∈ seen then .error (.complaint (.duplicateField f) none root) else .ok s
  | k :: v :: rest => do
    let f ← readKey k
    if f ∈ seen then .error (.complaint (.duplicateField f) none root)
    else
      -- a key that is an alias is not named in complaints
      let s ← readField root (if k.isAlias then "?" else f.name) v s f
      readFields root (f :: seen) s rest

/-- The settings that the nodes of a document write. -/
def ofNodes : List Node → Except ReadingError Settings
  | [] => .ok .default
  | root :: nodes =>
    match root.content with
    | .mapping _ => readFields root.place [] .default nodes
    | .scalar s =>
      if s.text = "" ∧ s.style = .plain then .ok .default
      else .error (.complaint (.mismatch root.content "struct Config") none root.place)
    | c => .error (.complaint (.mismatch c "struct Config") none root.place)

/-- The settings that a document writes. -/
def ofDocument (d : Document) : Except ReadingError Settings :=
  match ofNodes d.nodes, d.fault with
  | .error e, _ => .error e
  | .ok _, some f => .error (.fault f)
  | .ok s, none => if d.more then .error .severalDocuments else .ok s

/-- The settings that a text writes, not checked yet. -/
def parse (text : String) : Except ReadingError Settings :=
  if Text.isBlank text then .ok .default else ofDocument (.ofText text)

/-- Why a text gives no settings that can be used. -/
inductive Fault where
  | reading (e : ReadingError)
  | settings (e : SettingsError)
  deriving DecidableEq

namespace Fault

def message : Fault → String
  | .reading e => s!"YAML error: {e.message}"
  | .settings e => s!"Config error: {e.message}"

end Fault

/-- The settings that a text writes. -/
def ofText (text : String) : Except Fault Settings :=
  match parse text with
  | .error e => .error (.reading e)
  | .ok s =>
    match s.check with
    | .error e => .error (.settings e)
    | .ok () => .ok s

end TapeLang.Settings
