import TapeLang.CommandLine.Command

/-!
# Arguments

From the arguments of a call to a command. Options come in any order and may stand between the other arguments; a
value follows its option or is attached to it. An option without its value is found out only when the next option or
argument begins, and an argument that nobody knows comes before that.
-/

namespace TapeLang

/-- What is wrong with the arguments. -/
inductive UsageError where
  | unexpected (argument : String)
  | unneededValue (value parameter : String)
  | noValue (parameter : String)
  | repeated (parameter : String)
  | badValue (value parameter reason : String)
  | missing
  | unknownCommand (name : String)
  | noCommand
  deriving DecidableEq

namespace UsageError

def message : UsageError → String
  | .unexpected argument => s!"unexpected argument '{argument}' found"
  | .unneededValue value parameter => s!"unexpected value '{value}' for '{parameter}' found; no more were expected"
  | .noValue parameter => s!"a value is required for '{parameter}' but none was supplied"
  | .repeated parameter => s!"the argument '{parameter}' cannot be used multiple times"
  | .badValue value parameter reason => s!"invalid value '{value}' for '{parameter}': {reason}"
  | .missing => "the following required arguments were not provided:"
  | .unknownCommand name => s!"unrecognized subcommand '{name}'"
  | .noCommand => "'tapegen' requires a subcommand but one was not provided"

end UsageError

/-- What a call asks for. -/
inductive Call where
  | command (c : Command)
  | version
  | help
  /-- Nothing at all is asked for. -/
  | nothing
  | wrong (e : UsageError)
  deriving DecidableEq

namespace Call

/-! ### Parameters -/

/-- The arguments of a command as far as they have been read. -/
structure Draft where
  /-- The arguments that belong to no option. -/
  paths : List String
  target : Option Target
  settings : Option String
  container : Option String
  tapeSize : Option Nat
  limit : Option Nat
  input : Option String
  output : Option String
  json : Bool
  statements : Bool
  bare : Bool

namespace Draft

def empty : Draft := ⟨[], none, none, none, none, none, none, none, false, false, false⟩

end Draft

/-- Why a value is not accepted. -/
inductive ValueError where
  | blank
  | because (reason : String)

/-- How a parameter is given. -/
inductive Kind where
  | flag (note : Draft → Draft)
  /-- A flag that may be repeated. -/
  | count
  | version
  | help
  | option (value : String) (read : String → Draft → Except ValueError Draft)
  /-- An argument without a name, or any number of them. -/
  | argument (value : String) (many : Bool)

/-- A parameter of a command. -/
structure Parameter where
  long : String
  short : Option Char
  kind : Kind

namespace Parameter

/-- How messages write a parameter. -/
def display (p : Parameter) : String :=
  match p.kind with
  | .option value _ => s!"--{p.long} <{value}>"
  | .argument value many => s!"<{value}>" ++ if many then "..." else ""
  | .count => s!"--{p.long}..."
  | _ => s!"--{p.long}"

end Parameter

/-- A path, which is not empty. -/
def readPath (s : String) : Except ValueError String :=
  if s = "" then .error .blank else .ok s

def readTarget (s : String) : Except ValueError Target :=
  match Target.ofName s with
  | .ok t => .ok t
  | .error lower => .error (.because (Target.unknownMessage lower))

/-- The number that digits continue. The first digit that makes it too large is found before what follows it. -/
def readDigits (n : Nat) : List Char → Except ValueError Nat
  | [] => .ok n
  | c :: cs =>
    if !c.isDigit then .error (.because "invalid digit found in string")
    else if Number.bound 64 ≤ 10 * n + (c.toNat - 48) then .error (.because "number too large to fit in target type")
    else readDigits (10 * n + (c.toNat - 48)) cs

/-- A number of 64 bits, with or without a plus sign. -/
def readNumber (s : String) : Except ValueError Nat :=
  match s.toList with
  | [] => .error (.because "cannot parse integer from empty string")
  | '+' :: c :: cs => readDigits 0 (c :: cs)
  | cs => readDigits 0 cs

def verboseFlag : Parameter := ⟨"verbose", some 'v', .count⟩

def helpFlag : Parameter := ⟨"help", some 'h', .help⟩

def jsonFlag : Parameter := ⟨"json", none, .flag fun d => { d with json := true }⟩

def targetOption : Parameter :=
  ⟨"target", some 't', .option "TARGET" fun s d => (readTarget s).map fun t => { d with target := some t }⟩

def tapeSizeOption : Parameter :=
  ⟨"tape-size", none, .option "TAPE_SIZE" fun s d => (readNumber s).map fun n => { d with tapeSize := some n }⟩

/-- The commands by their names, with what each takes. -/
inductive Name where
  | build
  | check
  | render
  | run
  | schema
  deriving DecidableEq

namespace Name

def ofText? (s : String) : Option Name :=
  [("build", build), ("check", check), ("render", render), ("run", run), ("schema", schema)].lookup s

/-- The options of a command, without those that all have. -/
def options : Name → List Parameter
  | .build => [targetOption,
      ⟨"config", some 'c', .option "CONFIG" fun s d => (readPath s).map fun x => { d with settings := some x }⟩,
      jsonFlag]
  | .check => [⟨"ir", none, .flag fun d => { d with statements := true }⟩, jsonFlag]
  | .render => [targetOption,
      ⟨"container", none, .option "CONTAINER" fun s d => .ok { d with container := some s }⟩, tapeSizeOption,
      ⟨"no-provenance", none, .flag fun d => { d with bare := true }⟩,
      ⟨"output", some 'o', .option "OUTPUT" fun s d => (readPath s).map fun x => { d with output := some x }⟩]
  | .run => [⟨"input", some 'i', .option "INPUT" fun s d => .ok { d with input := some s }⟩, tapeSizeOption,
      ⟨"max-steps", none,
        .option "MAX_STEPS" fun s d => (readNumber s).map fun n => { d with limit := some n }⟩]
  | .schema => []

/-- The arguments of a command that belong to no option. -/
def arguments : Name → List Parameter
  | .build => [⟨"", none, .argument "INPUT" false⟩, ⟨"", none, .argument "OUTPUT" false⟩]
  | .check => [⟨"", none, .argument "FILES" true⟩]
  | .render => [⟨"", none, .argument "FILES" true⟩]
  | .run => [⟨"", none, .argument "FILE" false⟩]
  | .schema => []

/-- The command that a draft describes, if nothing is missing. -/
def command? (d : Draft) : Name → Option Command
  | .build =>
    match d.paths with
    | [input, output] => some (.build input output d.target d.settings d.json)
    | _ => none
  | .check => if d.paths = [] then none else some (.check d.paths d.statements d.json)
  | .render =>
    if d.paths = [] then none
    else some (.render d.paths (d.target.getD .rust) (d.container.getD Settings.default.container)
      (d.tapeSize.getD Settings.default.tapeSize) (!d.bare) d.output)
  | .run =>
    match d.paths with
    | [file] => some (.run file (d.input.getD "") (.ofNat (d.tapeSize.getD Settings.default.tapeSize)) d.limit)
    | _ => none
  | .schema => some .schema

end Name

/-! ### Reading arguments -/

/-- How far the arguments of a command have been read. -/
structure Progress where
  draft : Draft
  /-- The parameters that may not be given again. -/
  used : List String
  /-- The parameter given last, with its values, which have not been looked at yet. -/
  pending : Option (Parameter × List String)
  /-- Whether the next argument is a value of the pending option. -/
  awaiting : Bool
  /-- The arguments without names that are still to come. -/
  arguments : List Parameter

/-- What ends the reading of arguments. -/
inductive Stop where
  | version
  | help
  | wrong (e : UsageError)

namespace Progress

/-- Looks at the values of a parameter. -/
def take (s : Progress) (p : Parameter) (values : List String) : Except Stop Progress :=
  let s := { s with awaiting := false }
  let accepted (value : String) : Except ValueError Draft → Except Stop Draft
    | .ok d => .ok d
    | .error .blank => .error (.wrong (.noValue p.display))
    | .error (.because reason) => .error (.wrong (.badValue value p.display reason))
  match p.kind with
  | .version => .error .version
  | .help => .error .help
  | .count => .ok s
  | .flag note =>
    if p.long ∈ s.used then .error (.wrong (.repeated p.display))
    else .ok { s with draft := note s.draft, used := p.long :: s.used }
  | .option _ reader =>
    if values = [] then .error (.wrong (.noValue p.display))
    else if p.long ∈ s.used then .error (.wrong (.repeated p.display))
    else do
      let d ← values.foldlM (fun d v => accepted v (reader v d)) s.draft
      .ok { s with draft := d, used := p.long :: s.used }
  | .argument _ _ => do
    let d ← values.foldlM (fun d v => accepted v ((readPath v).map fun x => { d with paths := d.paths ++ [x] })) s.draft
    .ok { s with draft := d }

/-- Looks at the values that are pending. -/
def settle (s : Progress) : Except Stop Progress :=
  match s.pending with
  | none => .ok s
  | some (p, values) => { s with pending := none }.take p values

/-- Takes a parameter with values, behind what is pending. -/
def give (s : Progress) (p : Parameter) (values : List String) : Except Stop Progress := do
  (← s.settle).take p values

/-- Begins an option whose value comes next. -/
def await (s : Progress) (p : Parameter) : Except Stop Progress := do
  .ok { ← s.settle with pending := some (p, []), awaiting := true }

def unexpected (argument : String) : Except Stop Progress := .error (.wrong (.unexpected argument))

/-- Takes an option by its long name, with a value behind an equals sign if there is one. -/
def giveLong (s : Progress) (parameters : List Parameter) (body : List Char) : Except Stop Progress :=
  let name := String.ofList (body.takeWhile (· ≠ '='))
  let attached := (body.dropWhile (· ≠ '=')).tail
  let hasValue := '=' ∈ body
  match parameters.find? (·.long = name) with
  | none => unexpected ("--" ++ name)
  | some p =>
    match p.kind with
    | .option _ _ => if hasValue then s.give p [String.ofList attached] else s.await p
    | _ => if hasValue then .error (.wrong (.unneededValue (String.ofList attached) p.display)) else s.give p []

/-- Takes options by their short names. What follows the name of an option with a value is the value. -/
def giveShort (s : Progress) (parameters : List Parameter) : List Char → Except Stop Progress
  | [] => .ok s
  | c :: cs =>
    match parameters.find? (·.short = some c) with
    | none => unexpected (String.ofList ['-', c])
    | some p =>
      match p.kind with
      | .option _ _ =>
        match cs with
        | [] => s.await p
        | '=' :: value => s.give p [String.ofList value]
        | value => s.give p [String.ofList value]
      | _ => do (← s.give p []).giveShort parameters cs

/-- Takes an argument that belongs to no option. -/
def giveArgument (s : Progress) (text : String) : Except Stop Progress :=
  match s.arguments with
  | [] => unexpected text
  | p :: rest =>
    match p.kind, s.pending with
    | .argument _ true, some (⟨_, _, .argument _ _⟩, values) =>
      .ok { s with pending := some (p, values ++ [text]), awaiting := false }
    | .argument _ many, _ => do
      let s ← s.settle
      .ok { s with pending := some (p, [text]), awaiting := false, arguments := if many then s.arguments else rest }
    | _, _ => unexpected text

/-- Takes the value that the pending option waits for. -/
def giveValue (s : Progress) (text : String) : Progress :=
  { s with pending := s.pending.map fun (p, values) => (p, values ++ [text]), awaiting := false }

/-- Takes arguments in turn. Behind two dashes no argument is an option. -/
def giveAll (parameters : List Parameter) (trailing : Bool) (s : Progress) : List String → Except Stop Progress
  | [] => s.settle
  | text :: rest => do
    if trailing then giveAll parameters true (← s.giveArgument text) rest
    else
      match text.toList with
      | ['-', '-'] => giveAll parameters true s rest
      | '-' :: '-' :: body => giveAll parameters false (← s.giveLong parameters body) rest
      | '-' :: c :: cs => giveAll parameters false (← s.giveShort parameters (c :: cs)) rest
      | _ =>
        if s.awaiting then giveAll parameters false (s.giveValue text) rest
        else giveAll parameters false (← s.giveArgument text) rest

end Progress

def ofStop : Stop → Call
  | .version => .version
  | .help => .help
  | .wrong e => .wrong e

/-- The call of a command with arguments. -/
def ofCommand (n : Name) (arguments : List String) : Call :=
  let start : Progress := ⟨.empty, [], none, false, n.arguments⟩
  match start.giveAll (n.options ++ [verboseFlag, helpFlag]) false arguments with
  | .error stop => ofStop stop
  | .ok s =>
    match n.command? s.draft with
    | some c => .command c
    | none => .wrong .missing

/-- The options before the command. -/
def generalOptions : List Parameter := [verboseFlag, ⟨"version", some 'V', .version⟩, helpFlag]

/-- Reads arguments up to the name of the command; `given` says whether there was an option before. -/
def ofArgumentsFrom (given trailing : Bool) : List String → Call
  | [] => if given then .wrong .noCommand else .nothing
  | text :: rest =>
    let start : Progress := ⟨.empty, [], none, false, []⟩
    let behind (s : Except Stop Progress) : Call :=
      match s with
      | .error stop => ofStop stop
      | .ok _ => ofArgumentsFrom true false rest
    let name? := Name.ofText? text
    if trailing then .wrong (if name?.isSome ∨ text = "help" then .unexpected text else .unknownCommand text)
    else
      match name?, text.toList with
      | some n, _ => ofCommand n rest
      | none, ['-', '-'] => ofArgumentsFrom given true rest
      | none, '-' :: '-' :: body => behind (start.giveLong generalOptions body)
      | none, '-' :: c :: cs => behind (start.giveShort generalOptions (c :: cs))
      | none, _ => if text = "help" then .help else .wrong (.unknownCommand text)

/-- What the arguments of a call ask for. -/
def ofArguments (arguments : List String) : Call := ofArgumentsFrom false false arguments

/-! ### Answers -/

def versionText : String := "tapegen 0.1.0\n"

def helpText : String := "Usage: tapegen [OPTIONS] <COMMAND>\n"

/-- Does what a call asks for. -/
def perform {m : Type → Type} [Monad m] (fs : FileSystem m) (wait : Waiting m) : Call → m (Option Outcome)
  | .command c => c.perform fs wait
  | .version => return some ⟨0, versionText, ""⟩
  | .help => return some ⟨0, helpText, ""⟩
  | .nothing => return some ⟨2, "", helpText⟩
  | .wrong e => return some ⟨2, "", s!"error: {e.message}\n"⟩

end Call

end TapeLang
