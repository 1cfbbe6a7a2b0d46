import Mathlib
import TapeLang.CommandLine.Arguments
import TapeLang.Proofs.Batch
import TapeLang.Proofs.Bracket.Spans
import TapeLang.Proofs.Faults
import TapeLang.Proofs.Steps

/-!
# Exit codes

A command first reads what it works on (`Command.task`), then renders what compiles, and only then delivers the code. So
the code 2 belongs to the commands that fail in one of these steps (`Command.Fails`), and these leave no trace: what
they have written goes to the error stream, as all commands are quiet. The other commands end with 0 if every program
was accepted and with 1 if not, and what they write depends on whether anything compiled
(`Command.exitCode_separates`). The one exception is a program that is to be run on a tape which is too long
(`Command.Faults`).
-/

namespace TapeLang.Command

open FileSystem (after ReadOnly Lawful Writes)
open StateTransition (Reaches)
open Steps (attempt fail performed)

/-! ### What commands work on -/

/-- What a command works on: programs, and the way in which those that compile are to be rendered, if they are. -/
structure Task where
  sources : List Source
  rendering : Option (Target × Code.Options)

namespace Task

/-- What the functions of a task are rendered to; nothing if there are none or they are not to be rendered. -/
def code? (t : Task) : Option (Except Code.RenderError String) :=
  match t.rendering with
  | some (target, options) =>
    if (compileAll t.sources).functions.isEmpty then none
    else some (Code.render target options (compileAll t.sources).functions)
  | none => none

end Task

section

variable {m : Type → Type} [Monad m]

/-- The sources of a build. -/
def buildSources (fs : FileSystem m) (input output : String) (s : Settings) : ExceptT Failure m (List Source) := do
  let files ← (fs.host input output).files
  (fs.host input output).readAll (files.filter s.isSource)

/-- Reads what a command works on. -/
def task (fs : FileSystem m) : Command → ExceptT Failure m Task
  | .build input output target settings _ => do
    if !(← fs.isDirectory input) then throw (.noInput input)
    else
      let s ← buildSettings fs input target settings
      return ⟨← buildSources fs input output s, some (s.target, s.options)⟩
  | .check files _ _ => return ⟨← fs.readPrograms files, none⟩
  | .render files target container tapeSize provenance _ => do
    if tapeSize = 0 then throw .noTape
    else if !Name.isIdentifier container then throw (.settings (.badContainer container))
    else
      let sources ← fs.readPrograms files
      return ⟨sources, some (target,
        { Code.Options.standard with container := container, tapeSize := tapeSize, provenance := provenance })⟩
  | .run file _ _ _ => return ⟨[← fs.readProgram file], none⟩
  | .schema => return ⟨[], none⟩

/-- Puts the code of a task where a command wants it, as far as that is a file. -/
def deliver (fs : FileSystem m) (cmd : Command) (t : Task) (code : String) : ExceptT Failure m Unit :=
  match cmd, t.rendering with
  | .build input output _ _ _, some (target, options) =>
    (fs.host input output).emit (Code.fileName target options.container) code
  | .render _ _ _ _ _ (some path), _ => failing .file (fs.write path code)
  | _, _ => return ()

end

/-! ### The convention -/

section

variable {σ ι : Type} [DecidableEq ι]

/-- Why a command fails in the state `c`: it cannot read what it works on, render the code or deliver it, or it is to
run a program that does not compile or exceeds its limit. -/
inductive Fails (fs : FileSystem (StateM σ)) (c : σ) : Command → Failure → Prop where
  | reading {cmd : Command} {f : Failure} (htask : (after (cmd.task fs) c).1 = .error f) : Fails fs c cmd f
  | rendering {cmd : Command} {t : Task} {e : Code.RenderError} (htask : (after (cmd.task fs) c).1 = .ok t)
      (hcode : t.code? = some (.error e)) : Fails fs c cmd (.render e)
  | delivering {cmd : Command} {t : Task} {code : String} {f : Failure} (htask : (after (cmd.task fs) c).1 = .ok t)
      (hcode : t.code? = some (.ok code)) (hdeliver : (after (cmd.deliver fs t code) c).1 = .error f) :
      Fails fs c cmd f
  | compiling {file input : String} {tapeSize : UInt64} {limit : Option Nat} {s : Source} {e : CompileError}
      (hread : (after (fs.readProgram file) c).1 = .ok s) (hcompile : compile s = .error e) :
      Fails fs c (.run file input tapeSize limit) (.compile e)
  | running {file input : String} {tapeSize : UInt64} {limit : Nat} {s : Source} {f : Function} {e : RunError}
      (hread : (after (fs.readProgram file) c).1 = .ok s) (hcompile : compile s = .ok f)
      (hrun : Machine.run ⟨tapeSize⟩ limit f.body input.toUTF8.toList = .ok (.error e)) :
      Fails fs c (.run file input tapeSize (some limit)) (.run e)

/-- Why a command faults in the state `c`: it is to run a program that compiles on a tape that is too long. -/
inductive Faults (fs : FileSystem (StateM σ)) (c : σ) : Command → Prop where
  | running {file input : String} {tapeSize : UInt64} {limit : Option Nat} {s : Source} {f : Function}
      (hread : (after (fs.readProgram file) c).1 = .ok s) (hcompile : compile s = .ok f)
      (hlong : 2 ^ 63 ≤ tapeSize.toNat) : Faults fs c (.run file input tapeSize limit)

/-- Whether a command accepts all programs: those of a build and those to be rendered together, others one by one. -/
def Accepts (sources : List Source) : Command → Prop
  | .build .. | .render .. => (compileAll sources).rejections = []
  | .check .. | .run .. | .schema => ∀ s ∈ sources, ∃ f, compile s = .ok f

/-- What a command that does not fail has delivered when its output is `out` and the state behind it is `c'`: a build
has written its file, and the code was written to a file or the output, if anything compiled; else no file has
changed. -/
def Delivers (fs : FileSystem (StateM σ)) (files : σ → ι → Option ByteArray) (t : Task) (c c' : σ) (out : String) :
    Command → Prop
  | .build _ output _ _ _ =>
    (t.code? = none ∧ files c' = files c) ∨
      ∃ target options code, t.rendering = some (target, options) ∧ t.code? = some (.ok code) ∧
        Writes fs files (Path.join output (Code.fileName target options.container)) code c c'
  | .render _ _ _ _ _ output =>
    (t.code? = none ∧ out = "" ∧ files c' = files c) ∨
      ∃ code, t.code? = some (.ok code) ∧
        match output with
        | some path => out = "" ∧ Writes fs files path code c c'
        | none => out = code ∧ files c' = files c
  | .check .. | .run .. | .schema => files c' = files c

/-- What an outcome tells about a command that was started in the state `c` and left the state `c'`. -/
structure Tells (fs : FileSystem (StateM σ)) (files : σ → ι → Option ByteArray) (cmd : Command) (c c' : σ)
    (o : Outcome) : Prop where
  fails_iff : o.code = 2 ↔ ∃ f, Fails fs c cmd f
  faults_iff : o.code = 101 ↔ Faults fs c cmd
  no_trace : o.code = 2 ∨ o.code = 101 → o.out = "" ∧ files c' = files c
  complains : o.code = 2 → ∃ f before, Fails fs c cmd f ∧ o.err = before ++ s!"Error: {f.message}\n"
  separates : o.code ≠ 2 → o.code ≠ 101 → ∃ t, (after (cmd.task fs) c).1 = .ok t ∧
    (o.code = 0 ↔ cmd.Accepts t.sources) ∧ (o.code = 1 ↔ ¬ cmd.Accepts t.sources) ∧ cmd.Delivers fs files t c c' o.out

/-- A command has an outcome, and that tells what it should. -/
def Settles (fs : FileSystem (StateM σ)) (wait : Waiting (StateM σ)) (files : σ → ι → Option ByteArray) (cmd : Command)
    (c : σ) : Prop :=
  ∃ o c', (cmd.perform fs wait).run c = (some o, c') ∧ Tells fs files cmd c c' o

variable {fs : FileSystem (StateM σ)} {wait : Waiting (StateM σ)} {files : σ → ι → Option ByteArray} {cmd : Command}
  {t : Task} {c c' : σ} {log : Transcript}

/-! ### Outcomes -/

theorem run_perform (fs : FileSystem (StateM σ)) (wait : Waiting (StateM σ)) (cmd : Command) (c : σ) :
    (cmd.perform fs wait).run c =
      (Outcome.ofSteps (performed (cmd.steps fs wait) [] c).1, (performed (cmd.steps fs wait) [] c).2) := rfl

theorem out_of_stopped {stop : Stop} (hsteps : performed (cmd.steps fs wait) [] c = ((.error stop, log), c')) :
    log.text .out = "" := by
  have hquiet : Steps.Quiet (cmd.steps fs wait) := quiet_steps cmd
  specialize hquiet [] c stop
  rw [hsteps] at hquiet
  exact hquiet rfl

/-- A command that is stopped by a failure tells what it should. -/
theorem settles_of_failure {f : Failure}
    (hsteps : performed (cmd.steps fs wait) [] c = ((.error (.failure f), log), c')) (hf : Fails fs c cmd f)
    (hfault : ¬ Faults fs c cmd) (hfiles : files c' = files c) : Settles fs wait files cmd c := by
  refine ⟨_, c', by rw [run_perform, hsteps]; rfl, ?_⟩
  exact {
    fails_iff := ⟨fun _ => ⟨f, hf⟩, fun _ => rfl⟩
    faults_iff := iff_of_false (nomatch ·) hfault
    no_trace := fun _ => ⟨by simp [Outcome.ofLog, out_of_stopped hsteps, Transcript.text_singleton], hfiles⟩
    complains := fun _ => ⟨f, log.text .err, hf, by simp [Outcome.ofLog, Transcript.text_singleton]⟩
    separates := fun h => absurd rfl h }

/-- A command that fails over its arguments tells what it should. -/
theorem settles_of_refusal {f : Failure} (hsteps : cmd.steps fs wait = fail f) (htask : cmd.task fs = throw f)
    (hfault : ¬ Faults fs c cmd) : Settles fs wait files cmd c := by
  have hread : (after (cmd.task fs) c).1 = .error f := congrArg (fun x => (after x c).1) htask
  exact settles_of_failure (congrArg (performed · [] c) hsteps) (.reading hread) hfault rfl

/-- A command that is stopped by a fault tells what it should. -/
theorem settles_of_fault {f : Fault} (hsteps : performed (cmd.steps fs wait) [] c = ((.error (.fault f), log), c'))
    (hfault : Faults fs c cmd) (hfails : ∀ f, ¬ Fails fs c cmd f) (hfiles : files c' = files c) :
    Settles fs wait files cmd c := by
  refine ⟨_, c', by rw [run_perform, hsteps]; rfl, ?_⟩
  exact {
    fails_iff := iff_of_false (nomatch ·) fun ⟨f, hf⟩ => hfails f hf
    faults_iff := ⟨fun _ => hfault, fun _ => rfl⟩
    no_trace := fun _ => ⟨by simp [Outcome.ofLog, out_of_stopped hsteps, Transcript.text_singleton], hfiles⟩
    complains := (nomatch ·)
    separates := fun _ h => absurd rfl h }

/-- A command that has done its work tells what it should. -/
theorem settles_of_done {clean : Bool} (hsteps : performed (cmd.steps fs wait) [] c = ((.ok clean, log), c'))
    (htask : (after (cmd.task fs) c).1 = .ok t) (hfails : ∀ f, ¬ Fails fs c cmd f) (hfault : ¬ Faults fs c cmd)
    (hclean : clean = true ↔ cmd.Accepts t.sources) (hdelivers : cmd.Delivers fs files t c c' (log.text .out)) :
    Settles fs wait files cmd c := by
  have hcode : Outcome.codeOf clean = 0 ∧ cmd.Accepts t.sources ∨
      Outcome.codeOf clean = 1 ∧ ¬ cmd.Accepts t.sources := by
    rw [← hclean]
    cases clean <;> simp [Outcome.codeOf]
  refine ⟨.ofLog (Outcome.codeOf clean) log, c', by rw [run_perform, hsteps]; rfl, ?_⟩
  rcases hcode with ⟨hzero, haccepts⟩ | ⟨hone, hrejects⟩
  · rw [hzero]
    exact {
      fails_iff := iff_of_false (nomatch ·) fun ⟨f, hf⟩ => hfails f hf
      faults_iff := iff_of_false (nomatch ·) hfault
      no_trace := by simp [Outcome.ofLog]
      complains := (nomatch ·)
      separates := fun _ _ => ⟨t, htask, iff_of_true rfl haccepts, iff_of_false (nomatch ·) (not_not_intro haccepts),
        hdelivers⟩ }
  · rw [hone]
    exact {
      fails_iff := iff_of_false (nomatch ·) fun ⟨f, hf⟩ => hfails f hf
      faults_iff := iff_of_false (nomatch ·) hfault
      no_trace := by simp [Outcome.ofLog]
      complains := (nomatch ·)
      separates := fun _ _ => ⟨t, htask, iff_of_false (nomatch ·) hrejects, iff_of_true rfl hrejects, hdelivers⟩ }

/-- Whether a command runs a program. -/
def isRun : Command → Bool
  | .run .. => true
  | _ => false

theorem not_faults (hcmd : cmd.isRun = false) : ¬ Faults fs c cmd := by
  rintro ⟨⟩
  cases hcmd

/-- A command that runs no program and has read what it works on fails over its code. -/
theorem exists_code_of_fails (hcmd : cmd.isRun = false) (htask : (after (cmd.task fs) c).1 = .ok t) {f : Failure}
    (hf : Fails fs c cmd f) :
    ∃ x, t.code? = some x ∧ ∀ code, x = .ok code → (after (cmd.deliver fs t code) c).1 = .error f := by
  cases hf with
  | reading h => cases htask.symm.trans h
  | @rendering _ t' e h hc =>
    obtain rfl := Except.ok.inj (htask.symm.trans h)
    exact ⟨_, hc, fun _ => (nomatch ·)⟩
  | @delivering _ t' code _ h hc hd =>
    obtain rfl := Except.ok.inj (htask.symm.trans h)
    refine ⟨_, hc, fun code' hcode' => ?_⟩
    obtain rfl := Except.ok.inj hcode'
    exact hd
  | compiling => cases hcmd
  | running => cases hcmd

theorem not_fails_of_none (hcmd : cmd.isRun = false) (htask : (after (cmd.task fs) c).1 = .ok t)
    (hcode : t.code? = none) (f : Failure) : ¬ Fails fs c cmd f := by
  intro hf
  obtain ⟨x, hx, -⟩ := exists_code_of_fails hcmd htask hf
  cases hcode.symm.trans hx

/-- A command that has delivered its code does not fail. -/
theorem not_fails_of_delivered {code : String} (hcmd : cmd.isRun = false) (htask : (after (cmd.task fs) c).1 = .ok t)
    (hcode : t.code? = some (.ok code)) (hdeliver : after (cmd.deliver fs t code) c = (.ok (), c')) (f : Failure) :
    ¬ Fails fs c cmd f := by
  intro hf
  obtain ⟨x, hx, hfailed⟩ := exists_code_of_fails hcmd htask hf
  obtain rfl := Option.some.inj (hcode.symm.trans hx)
  have herror := hfailed code rfl
  rw [hdeliver] at herror
  cases herror

/-! ### Reading -/

theorem readOnly_buildSettings (h : fs.Lawful files) (input : String) (target : Option Target)
    (settings : Option String) : ReadOnly (buildSettings fs input target settings) := by
  cases settings with
  | some path => exact (h.loadSettings path).bind fun _ => .pure _
  | none => exact (h.findSettings input).bind fun _ => .pure _

/-- A command that reads something first either settles with the failure to read it or goes on with what it has read. -/
theorem settles_or_reads {α : Type} {x : ExceptT Failure (StateM σ) α} {g : α → Task} {k : α → Steps (StateM σ) Bool}
    (hx : ReadOnly x) (hsteps : cmd.steps fs wait = attempt x >>= k) (htask : cmd.task fs = x >>= fun a => pure (g a))
    (hfault : (∃ f, (after x c).1 = .error f) → ¬ Faults fs c cmd) :
    Settles fs wait files cmd c ∨ ∃ a, (after x c).1 = .ok a ∧
      performed (cmd.steps fs wait) [] c = performed (k a) [] c ∧ (after (cmd.task fs) c).1 = .ok (g a) := by
  have hread : (after (cmd.task fs) c).1 = (after x c).1.map g := by
    rw [htask, FileSystem.fst_after_map]
  have hran : performed (cmd.steps fs wait) [] c = performed (attempt x >>= k) [] c :=
    congrArg (performed · [] c) hsteps
  rw [Steps.performed_bind, Steps.performed_attempt, hx.after_eq] at hran
  cases hfirst : (after x c).1 with
  | error f =>
    rw [hfirst] at hran hread
    exact .inl (settles_of_failure hran (.reading hread) (hfault ⟨f, hfirst⟩) rfl)
  | ok a =>
    rw [hfirst] at hran hread
    exact .inr ⟨a, rfl, hran, hread⟩

/-! ### Delivering -/

/-- Writing writes one file or changes none, also if directories were made before. -/
theorem write_cases (h : fs.Lawful files) (path code : String) {c₁ : σ} (hfiles : files c₁ = files c) :
    (∃ c', after (failing .file (fs.write path code)) c₁ = (.ok (), c') ∧ Writes fs files path code c c') ∨
      ∃ f c', after (failing .file (fs.write path code)) c₁ = (.error f, c') ∧ files c' = files c := by
  rw [FileSystem.after_failing]
  rcases hwrite : after (fs.write path code) c₁ with ⟨r, c'⟩
  cases r with
  | error e => exact .inr ⟨.file e, c', rfl, (h.write_error hwrite).trans hfiles⟩
  | ok _ =>
    obtain ⟨place, hplace⟩ := h.write_ok hwrite
    exact .inl ⟨c', rfl, c₁, place, hfiles, hwrite, by rw [hplace, hfiles]⟩

/-- Emitting writes one file or changes none. -/
theorem emit_cases (h : fs.Lawful files) (input output name code : String) (c : σ) :
    (∃ c', after ((fs.host input output).emit name code) c = (.ok (), c') ∧
        Writes fs files (Path.join output name) code c c') ∨
      ∃ f c', after ((fs.host input output).emit name code) c = (.error f, c') ∧ files c' = files c := by
  have hmade := h.makeDirectory output c
  simp only [FileSystem.host, FileSystem.after_bind, FileSystem.after_failing _ (fs.makeDirectory output)]
  rcases hmake : after (fs.makeDirectory output) c with ⟨r, c₁⟩
  rw [hmake] at hmade
  cases r with
  | error e => exact .inr ⟨.file e, c₁, rfl, hmade⟩
  | ok _ => exact write_cases h _ code hmade

/-! ### One command -/

/-- What a build does with its sources. -/
theorem after_generate (h : fs.Lawful files) (input output : String) (s : Settings) (c : σ) :
    match (after (buildSources fs input output s) c).1 with
    | .error f => after (generate (fs.host input output) s) c = (.error f, c)
    | .ok sources => ∃ r r' : Report, r.rejections = (compileAll sources).rejections ∧
      r'.rejections = (compileAll sources).rejections ∧
      after (generate (fs.host input output) s) c =
        match Task.code? ⟨sources, some (s.target, s.options)⟩ with
        | none => (.ok r, c)
        | some (.error e) => (.error (.render e), c)
        | some (.ok code) =>
          match after ((fs.host input output).emit (Code.fileName s.target s.container) code) c with
          | (.ok _, c') => (.ok r', c')
          | (.error f, c') => (.error f, c') := by
  simp only [buildSources, generate, FileSystem.after_bind]
  rw [(h.hostFiles input output).after_eq]
  cases (after (fs.host input output).files c).1 with
  | error f => rfl
  | ok names =>
    dsimp only
    rw [(h.readAll input output _).after_eq]
    cases (after ((fs.host input output).readAll (names.filter s.isSource)) c).1 with
    | error f => rfl
    | ok sources =>
      dsimp only [Task.code?]
      let r := Report.ofBatch s.target (names.filter s.isSource) (compileAll sources)
      refine ⟨r, { r with emitted := some (Code.fileName s.target s.container) }, rfl, rfl, ?_⟩
      cases (compileAll sources).functions.isEmpty with
      | true => rfl
      | false =>
        simp only [Bool.false_eq_true, if_false]
        cases Code.render s.target s.options (compileAll sources).functions with
        | error e => rfl
        | ok code =>
          simp only [FileSystem.after_bind]
          rcases after ((fs.host input output).emit (Code.fileName s.target s.container) code) c with ⟨x, c'⟩
          cases x <;> rfl

theorem settles_build (h : fs.Lawful files) (wait : Waiting (StateM σ)) (input output : String) (target : Option Target)
    (settings : Option String) (json : Bool) (c : σ) :
    Settles fs wait files (.build input output target settings json) c := by
  set cmd := Command.build input output target settings json with hcmd
  have hfault : ¬ Faults fs c cmd := not_faults rfl
  have hreads := (readOnly_buildSettings h input target settings).after_eq c
  -- the task and the steps go on together, from one thing that is read to the next
  rcases hsteps : performed (cmd.steps fs wait) [] c with ⟨⟨r, log⟩, c'⟩
  have hran := hsteps
  obtain ⟨x, htask⟩ : ∃ x, (after (cmd.task fs) c).1 = x := ⟨_, rfl⟩
  have hread := htask
  rw [hcmd, steps, performBuild, Steps.performed_bind, Steps.performed_lift, h.isDirectory] at hran
  rw [hcmd, task, FileSystem.after_bind, FileSystem.after_lift, h.isDirectory] at hread
  cases hfound : ((fs.isDirectory input).run c).1 with
  | false =>
    rw [hfound] at hran hread
    cases hran
    subst hread
    exact settles_of_failure hsteps (.reading htask) hfault rfl
  | true =>
    rw [hfound] at hran hread
    simp only [Bool.not_true, Bool.false_eq_true, if_false] at hran hread
    rw [Steps.performed_bind, Steps.performed_attempt, hreads] at hran
    rw [FileSystem.after_bind, hreads] at hread
    cases hsettings : (after (buildSettings fs input target settings) c).1 with
    | error f =>
      rw [hsettings] at hran hread
      cases hran
      subst hread
      exact settles_of_failure hsteps (.reading htask) hfault rfl
    | ok s =>
      rw [hsettings] at hran hread
      have hgenerate := after_generate h input output s c
      rw [FileSystem.fst_after_map] at hread
      simp only [Except.mapError, Steps.performed_bind, Steps.performed_attempt] at hran
      cases hsources : (after (buildSources fs input output s) c).1 with
      | error f =>
        rw [hsources] at hread hgenerate
        rw [hgenerate] at hran
        cases hran
        subst hread
        exact settles_of_failure hsteps (.reading htask) hfault rfl
      | ok sources =>
        rw [hsources] at hread hgenerate
        subst hread
        obtain ⟨report, report', hreport, hreport', hgenerate⟩ := hgenerate
        rw [hgenerate] at hran
        cases hcode : Task.code? ⟨sources, some (s.target, s.options)⟩ with
        | none =>
          obtain ⟨_, log', hreported⟩ := onlyWrites_reportBuild s input output json report [] c
          simp only [hcode, hreported] at hran
          cases hran
          refine settles_of_done hsteps htask (not_fails_of_none rfl htask hcode) hfault ?_ (.inl ⟨hcode, rfl⟩)
          rw [hreport, List.isEmpty_iff]
          rfl
        | some y =>
          rw [hcode] at hran
          cases y with
          | error e =>
            cases hran
            exact settles_of_failure hsteps (.rendering htask hcode) hfault rfl
          | ok code =>
            dsimp only at hran
            rcases emit_cases h input output (Code.fileName s.target s.container) code c with
              ⟨c₁, hemit, hwrites⟩ | ⟨f, c₁, hemit, hfiles⟩
            · obtain ⟨_, log', hreported⟩ := onlyWrites_reportBuild s input output json report' [] c₁
              simp only [hemit, hreported] at hran
              cases hran
              refine settles_of_done hsteps htask (not_fails_of_delivered rfl htask hcode hemit) hfault ?_
                (.inr ⟨_, _, _, rfl, hcode, hwrites⟩)
              rw [hreport', List.isEmpty_iff]
              rfl
            · rw [hemit] at hran
              cases hran
              exact settles_of_failure hsteps (.delivering htask hcode (congrArg Prod.fst hemit)) hfault hfiles

theorem settles_check (h : fs.Lawful files) (wait : Waiting (StateM σ)) (paths : List String) (statements json : Bool)
    (c : σ) : Settles fs wait files (.check paths statements json) c := by
  set cmd := Command.check paths statements json with hcmd
  have hfault : ¬ Faults fs c cmd := not_faults rfl
  obtain hsettles | ⟨sources, -, hsteps, htask⟩ : Settles fs wait files cmd c ∨ _ :=
    settles_or_reads (h.readPrograms paths) rfl rfl fun _ => hfault
  · exact hsettles
  obtain ⟨_, log', hreported⟩ := onlyWrites_reportFindings json (sources.map (Finding.ofSource statements)) [] c
  simp only [Steps.performed_bind, hreported] at hsteps
  refine settles_of_done hsteps htask (not_fails_of_none rfl htask rfl) hfault ?_ rfl
  rw [List.all_map, List.all_eq_true]
  refine forall₂_congr fun s _ => ?_
  simp only [Function.comp_apply, Finding.ofSource]
  cases compile s <;> simp

/-- Without a function something was rejected, if there was any source. -/
theorem rejections_ne_nil {sources : List Source} (hsources : sources ≠ [])
    (hfunctions : (compileAll sources).functions = []) : (compileAll sources).rejections ≠ [] := by
  intro hrejections
  have hlength := length_compileAll sources
  rw [hfunctions, hrejections] at hlength
  exact hsources (List.length_eq_zero_iff.1 hlength.symm)

theorem length_readPrograms (h : fs.Lawful files) {paths : List String} {sources : List Source}
    (hsources : (after (fs.readPrograms paths) c).1 = .ok sources) : sources.length = paths.length := by
  induction paths generalizing sources with
  | nil =>
    obtain rfl := Except.ok.inj hsources
    rfl
  | cons path paths ih =>
    rw [FileSystem.readPrograms, FileSystem.after_bind, (h.readProgram path).after_eq] at hsources
    cases hfirst : (after (fs.readProgram path) c).1 with
    | error f =>
      rw [hfirst] at hsources
      cases hsources
    | ok s =>
      rw [hfirst] at hsources
      dsimp only at hsources
      rw [FileSystem.after_bind, (h.readPrograms paths).after_eq] at hsources
      cases hrest : (after (fs.readPrograms paths) c).1 with
      | error f =>
        rw [hrest] at hsources
        cases hsources
      | ok rest =>
        rw [hrest] at hsources
        obtain rfl := Except.ok.inj hsources
        rw [List.length_cons, List.length_cons, ih hrest]

/-- Code is put where it is to be delivered, and after that a line or the code is written. -/
theorem performed_writeOutput (paths : List String) (target : Target) (container : String) (tapeSize : Nat)
    (provenance : Bool) (output : Option String) (t : Task) (code : String) (log : Transcript) (c : σ) :
    performed (writeOutput fs output code) log c =
      match after (deliver fs (.render paths target container tapeSize provenance output) t code) c with
      | (.ok _, c') => ((.ok (), log ++
          [output.elim (.out, code) fun path => (.err, s!"Written to: {path}" ++ "\n")]), c')
      | (.error f, c') => ((.error (.failure f), log), c') := by
  cases output with
  | none => rfl
  | some path =>
    rw [writeOutput, deliver, Steps.performed_bind, Steps.performed_attempt]
    rcases after (failing .file (fs.write path code)) c with ⟨r, c'⟩
    cases r <;> rfl

theorem settles_render (h : fs.Lawful files) (wait : Waiting (StateM σ)) {paths : List String} (hpaths : paths ≠ [])
    (target : Target) (container : String) (tapeSize : Nat) (provenance : Bool) (output : Option String) (c : σ) :
    Settles fs wait files (.render paths target container tapeSize provenance output) c := by
  set cmd := Command.render paths target container tapeSize provenance output with hcmd
  have hfault : ¬ Faults fs c cmd := not_faults rfl
  by_cases hsize : tapeSize = 0
  · have hsteps : cmd.steps fs wait = fail .noTape := if_pos hsize
    have htask : cmd.task fs = throw .noTape := if_pos hsize
    exact settles_of_refusal hsteps htask hfault
  cases hcontainer : Name.isIdentifier container with
  | false =>
    have hsteps : cmd.steps fs wait = fail (.settings (.badContainer container)) := by
      rw [hcmd, steps, performRender, if_neg hsize, hcontainer]
      rfl
    have htask : cmd.task fs = throw (.settings (.badContainer container)) := by
      rw [hcmd, task, if_neg hsize, hcontainer]
      rfl
    exact settles_of_refusal hsteps htask hfault
  | true =>
    set options : Code.Options :=
      { Code.Options.standard with container := container, tapeSize := tapeSize, provenance := provenance }
    obtain hsettles | ⟨sources, hsources, hsteps, htask⟩ : Settles fs wait files cmd c ∨ _ :=
      settles_or_reads (h.readPrograms paths)
        (by rw [hcmd, steps, performRender, if_neg hsize, hcontainer]; rfl)
        (by rw [hcmd, task, if_neg hsize, hcontainer]; rfl) fun _ => hfault
    · exact hsettles
    simp only [Steps.performed_bind, performed_complain] at hsteps
    set complaints : Transcript :=
      (compileAll sources).rejections.map fun r => (.err, s!"✗ {r.file}: {r.error.message}" ++ "\n")
    have hcomplaints : complaints.text .out = "" := text_complaints ..
    have hclean : (compileAll sources).rejections.isEmpty = true ↔ Accepts sources cmd := List.isEmpty_iff
    cases hempty : (compileAll sources).functions.isEmpty with
    | true =>
      rw [hempty] at hsteps
      have hcode : Task.code? ⟨sources, some (target, options)⟩ = none := by simp [Task.code?, hempty]
      refine settles_of_done hsteps htask (not_fails_of_none rfl htask hcode) hfault ?_
        (.inl ⟨hcode, hcomplaints, rfl⟩)
      have hne : sources ≠ [] := by
        rintro rfl
        exact hpaths (List.length_eq_zero_iff.1 (length_readPrograms h hsources).symm)
      rw [← hclean]
      simpa using rejections_ne_nil hne (List.isEmpty_iff.1 hempty)
    | false =>
      rw [hempty] at hsteps
      simp only [Bool.false_eq_true, if_false] at hsteps
      have hcode : Task.code? ⟨sources, some (target, options)⟩ =
          some (Code.render target options (compileAll sources).functions) := by simp [Task.code?, hempty]
      cases hrender : Code.render target options (compileAll sources).functions with
      | error e =>
        rw [hrender] at hsteps hcode
        exact settles_of_failure hsteps (.rendering htask hcode) hfault rfl
      | ok code =>
        rw [hrender] at hsteps hcode
        dsimp only at hsteps
        rw [Steps.performed_bind, performed_writeOutput paths target container tapeSize provenance output
          ⟨sources, some (target, options)⟩] at hsteps
        cases output with
        | none =>
          refine settles_of_done hsteps htask (not_fails_of_delivered rfl htask hcode rfl) hfault hclean
            (.inr ⟨code, hcode, ?_, rfl⟩)
          simp [hcomplaints, Transcript.text_singleton]
        | some path =>
          rcases write_cases h path code rfl with ⟨c₁, hwrite, hwrites⟩ | ⟨f, c₁, hwrite, hfiles⟩
          · rw [deliver, hwrite] at hsteps
            refine settles_of_done hsteps htask (not_fails_of_delivered rfl htask hcode hwrite) hfault hclean
              (.inr ⟨code, hcode, ?_, hwrites⟩)
            simp [hcomplaints, Transcript.text_singleton]
          · rw [deliver, hwrite] at hsteps
            exact settles_of_failure hsteps (.delivering htask hcode (congrArg Prod.fst hwrite)) hfault hfiles

/-! ### Running -/

/-- What waiting for a program comes to, with patience for some ticks. -/
def answer (ticks : Nat) (f : Function) (input : String) (tapeSize : UInt64) : Option Nat → Except Stop String
  | some l =>
    match Machine.run ⟨tapeSize⟩ l f.body input.toUTF8.toList with
    | .ok (.ok out) => .ok out
    | .ok (.error e) => .error (.failure (.run e))
    | .error fault => .error (.fault fault)
  | none =>
    match Machine.outputWithin ⟨tapeSize⟩ ticks f.body input.toUTF8.toList with
    | some (.ok out) => .ok out
    | some (.error fault) => .error (.fault fault)
    | none => .error .impatience

theorem performed_runFunction (ticks : Nat) (f : Function) (input : String) (tapeSize : UInt64) (limit : Option Nat)
    (log : Transcript) (c : σ) :
    performed (runFunction (patience ticks) f input tapeSize limit) log c =
      ((answer ticks f input tapeSize limit, log), c) := by
  cases limit with
  | some l =>
    simp only [runFunction, answer]
    rcases Machine.run ⟨tapeSize⟩ l f.body input.toUTF8.toList with _ | _ | _ <;> rfl
  | none =>
    simp only [runFunction, answer, Steps.performed_bind, Steps.performed_lift, patience]
    rcases Machine.outputWithin ⟨tapeSize⟩ ticks f.body input.toUTF8.toList with _ | _ | _ <;>
      simp only [StateT.run_pure] <;> rfl

section

variable {ticks : Nat} {f : Function} {input : String} {tapeSize : UInt64} {limit : Option Nat}

theorem answer_eq_failure_iff {failure : Failure} :
    answer ticks f input tapeSize limit = .error (.failure failure) ↔
      ∃ l e, limit = some l ∧ failure = .run e ∧
        Machine.run ⟨tapeSize⟩ l f.body input.toUTF8.toList = .ok (.error e) := by
  cases limit with
  | some l =>
    simp only [answer, Option.some.injEq, exists_and_left, exists_eq_left']
    rcases Machine.run ⟨tapeSize⟩ l f.body input.toUTF8.toList with _ | _ | _ <;> simp [eq_comm]
  | none =>
    simp only [answer]
    rcases Machine.outputWithin ⟨tapeSize⟩ ticks f.body input.toUTF8.toList with _ | _ | _ <;> simp

theorem answer_eq_impatience_iff :
    answer ticks f input tapeSize limit = .error .impatience ↔
      limit = none ∧ Machine.outputWithin ⟨tapeSize⟩ ticks f.body input.toUTF8.toList = none := by
  cases limit with
  | some l =>
    simp only [answer]
    rcases Machine.run ⟨tapeSize⟩ l f.body input.toUTF8.toList with _ | _ | _ <;> simp
  | none =>
    simp only [answer]
    rcases Machine.outputWithin ⟨tapeSize⟩ ticks f.body input.toUTF8.toList with _ | _ | _ <;> simp

/-- Of a compiled program only the tape can be at fault. -/
theorem answer_eq_fault_iff {s : Source} (hcompile : compile s = .ok f) {fault : Fault} :
    answer ticks f input tapeSize limit = .error (.fault fault) ↔ fault = .capacity ∧ 2 ^ 63 ≤ tapeSize.toNat := by
  have hunit : ∀ d : Int64, .move d ∈ f.body → d = 1 ∨ d = -1 := by
    rw [(body_of_compile hcompile).1]
    exact fun _ => unit_of_mem_emit
  have hfaults (n : Nat) : (∃ bs t, Reaches Run.next (Machine.start ⟨tapeSize⟩ f.body input.toUTF8.toList)
      ⟨bs, .error fault, t⟩ ∧ t ≤ n) ↔ fault = .capacity ∧ 2 ^ 63 ≤ tapeSize.toNat :=
    Machine.reaches_fault_iff_of_unit hunit
  cases limit with
  | some l =>
    rw [← hfaults l, ← Machine.run_eq_fault_iff]
    simp only [answer]
    rcases Machine.run ⟨tapeSize⟩ l f.body input.toUTF8.toList with _ | _ | _ <;> simp
  | none =>
    rw [← hfaults ticks, ← Machine.outputWithin_eq_error_iff]
    simp only [answer]
    rcases Machine.outputWithin ⟨tapeSize⟩ ticks f.body input.toUTF8.toList with _ | _ | _ <;> simp

end

/-- A program that is to be run and has been read and compiled fails over its limit only. -/
theorem fails_run_iff {path input : String} {tapeSize : UInt64} {limit : Option Nat} {s : Source} {f : Function}
    (hread : (after (fs.readProgram path) c).1 = .ok s) (hcompile : compile s = .ok f)
    (htask : (after ((Command.run path input tapeSize limit).task fs) c).1 = .ok ⟨[s], none⟩) {failure : Failure} :
    Fails fs c (.run path input tapeSize limit) failure ↔
      ∃ l e, limit = some l ∧ failure = .run e ∧
        Machine.run ⟨tapeSize⟩ l f.body input.toUTF8.toList = .ok (.error e) := by
  constructor
  · intro hf
    cases hf with
    | reading h => cases htask.symm.trans h
    | rendering h hc =>
      obtain rfl := Except.ok.inj (htask.symm.trans h)
      cases hc
    | delivering h hc =>
      obtain rfl := Except.ok.inj (htask.symm.trans h)
      cases hc
    | compiling h he =>
      obtain rfl := Except.ok.inj (hread.symm.trans h)
      cases hcompile.symm.trans he
    | running h hc he =>
      obtain rfl := Except.ok.inj (hread.symm.trans h)
      obtain rfl := Except.ok.inj (hcompile.symm.trans hc)
      exact ⟨_, _, rfl, rfl, he⟩
  · rintro ⟨l, e, rfl, rfl, hran⟩
    exact .running hread hcompile hran

theorem faults_run_iff {path input : String} {tapeSize : UInt64} {limit : Option Nat} :
    Faults fs c (.run path input tapeSize limit) ↔
      ∃ s f, (after (fs.readProgram path) c).1 = .ok s ∧ compile s = .ok f ∧ 2 ^ 63 ≤ tapeSize.toNat := by
  constructor
  · intro h
    cases h with
    | running hread hcompile hlong => exact ⟨_, _, hread, hcompile, hlong⟩
  · rintro ⟨s, f, hread, hcompile, hlong⟩
    exact .running hread hcompile hlong

/-- A command that runs a program settles, unless the program has no limit and there is not enough patience. -/
theorem settles_run (h : fs.Lawful files) (path input : String) (tapeSize : UInt64) (limit : Option Nat) (c : σ)
    (ticks : Nat) :
    Settles fs (patience ticks) files (.run path input tapeSize limit) c ∨
      (((Command.run path input tapeSize limit).perform fs (patience ticks)).run c).1 = none ∧ limit = none ∧
        ∃ s f, (after (fs.readProgram path) c).1 = .ok s ∧ compile s = .ok f ∧
          Machine.outputWithin ⟨tapeSize⟩ ticks f.body input.toUTF8.toList = none := by
  set cmd := Command.run path input tapeSize limit
  obtain hsettles | ⟨s, hread, hsteps, htask⟩ : Settles fs (patience ticks) files cmd c ∨ _ := by
    refine settles_or_reads (h.readProgram path) rfl rfl ?_
    rintro ⟨f, hfailed⟩ hfault
    obtain ⟨s, -, hs, -⟩ := faults_run_iff.1 hfault
    cases hfailed.symm.trans hs
  · exact .inl hsettles
  cases hcompile : compile s with
  | error e =>
    rw [hcompile] at hsteps
    refine .inl (settles_of_failure hsteps (.compiling hread hcompile) (fun hfault => ?_) rfl)
    obtain ⟨s', f, hs, hf, -⟩ := faults_run_iff.1 hfault
    obtain rfl := Except.ok.inj (hread.symm.trans hs)
    cases hcompile.symm.trans hf
  | ok f =>
    have hfails {failure : Failure} : Fails fs c cmd failure ↔
        answer ticks f input tapeSize limit = .error (.failure failure) :=
      (fails_run_iff hread hcompile htask).trans answer_eq_failure_iff.symm
    have hfaults : Faults fs c cmd ↔ answer ticks f input tapeSize limit = .error (.fault .capacity) := by
      rw [answer_eq_fault_iff hcompile, faults_run_iff]
      constructor
      · rintro ⟨_, _, _, _, hlong⟩
        exact ⟨rfl, hlong⟩
      · rintro ⟨_, hlong⟩
        exact ⟨s, f, hread, hcompile, hlong⟩
    rw [hcompile] at hsteps
    dsimp only at hsteps
    rw [Steps.performed_bind, performed_runFunction] at hsteps
    cases hanswer : answer ticks f input tapeSize limit with
    | ok out =>
      rw [hanswer] at hsteps hfaults
      refine .inl (settles_of_done hsteps htask (fun failure hf => ?_) (by simp [hfaults]) ?_ rfl)
      · cases hanswer.symm.trans (hfails.1 hf)
      · simpa [Accepts] using ⟨f, hcompile⟩
    | error stop =>
      rw [hanswer] at hsteps
      cases stop with
      | failure e =>
        refine .inl (settles_of_failure hsteps (hfails.2 hanswer) (fun hfault => ?_) rfl)
        cases hanswer.symm.trans (hfaults.1 hfault)
      | fault e =>
        obtain ⟨rfl, -⟩ := (answer_eq_fault_iff hcompile).1 hanswer
        refine .inl (settles_of_fault hsteps (hfaults.2 hanswer) (fun failure hf => ?_) rfl)
        cases hanswer.symm.trans (hfails.1 hf)
      | impatience =>
        obtain ⟨rfl, hwaits⟩ := answer_eq_impatience_iff.1 hanswer
        exact .inr ⟨by rw [run_perform, hsteps]; rfl, rfl, s, f, hread, hcompile, hwaits⟩

/-- A command that runs a program does not end with the code for rejected programs: such a program is a failure. -/
theorem Tells.code_ne_one {o : Outcome} (h : Tells fs files cmd c c' o) (hcmd : cmd.isRun) : o.code ≠ 1 := by
  intro hone
  cases cmd with
  | run path input tapeSize limit =>
    obtain ⟨t, htask, -, hrejects, -⟩ := h.separates (by simp [hone]) (by simp [hone])
    rw [task, FileSystem.fst_after_map] at htask
    cases hread : (after (fs.readProgram path) c).1 with
    | error f =>
      rw [hread] at htask
      cases htask
    | ok s =>
      rw [hread] at htask
      obtain rfl := Except.ok.inj htask
      have hfails : ∀ f, ¬ Fails fs c (.run path input tapeSize limit) f := fun f hf => by
        have := h.fails_iff.2 ⟨f, hf⟩
        omega
      refine hrejects.1 hone fun s' hs' => ?_
      obtain rfl := List.mem_singleton.1 hs'
      cases hcompile : compile s' with
      | ok f => exact ⟨f, rfl⟩
      | error e => exact absurd (.compiling hread hcompile) (hfails (.compile e))
  | _ => cases hcmd

/-! ### Command lines -/

theorem exists_draft_of_ofCommand {n : Call.Name} {arguments : List String}
    (h : Call.ofCommand n arguments = .command cmd) : ∃ d, n.command? d = some cmd := by
  unfold Call.ofCommand at h
  extract_lets start at h
  split at h
  · next stop _ => cases stop <;> cases h
  · split at h
    · next hcommand =>
      obtain rfl := Call.command.inj h
      exact ⟨_, hcommand⟩
    · cases h

/-- An accepted command line describes a command that lacks nothing. -/
theorem exists_draft_of_ofArgumentsFrom {given trailing : Bool} {arguments : List String}
    (h : Call.ofArgumentsFrom given trailing arguments = .command cmd) :
    ∃ (n : Call.Name) (d : Call.Draft), n.command? d = some cmd := by
  induction arguments generalizing given trailing with
  | nil =>
    unfold Call.ofArgumentsFrom at h
    split at h <;> cases h
  | cons text rest ih =>
    unfold Call.ofArgumentsFrom at h
    extract_lets start behind name? at h
    have hbehind : ∀ s, behind s = .command cmd → ∃ (n : Call.Name) (d : Call.Draft), n.command? d = some cmd := by
      intro s hs
      cases s with
      | error stop => cases stop <;> cases hs
      | ok s => exact ih hs
    split at h
    · cases h
    · split at h
      · exact ⟨_, exists_draft_of_ofCommand h⟩
      · exact ih h
      · exact hbehind _ h
      · exact hbehind _ h
      · split at h <;> cases h

theorem paths_ne_nil {n : Call.Name} {d : Call.Draft} {paths : List String} {target : Target} {container : String}
    {tapeSize : Nat} {provenance : Bool} {output : Option String}
    (h : n.command? d = some (.render paths target container tapeSize provenance output)) : paths ≠ [] := by
  cases n with
  | render =>
    simp only [Call.Name.command?] at h
    split at h
    · cases h
    · next hne =>
      cases h
      exact hne
  | schema => cases h
  | _ =>
    simp only [Call.Name.command?] at h
    split at h <;> cases h

/-- The exit codes of accepted command lines separate success, rejected programs and failures, and a failure leaves no
trace. A program that is run on a tape of `2 ^ 63` cells or more is the one exception: it ends with a code of its own,
again without a trace. -/
theorem exitCode_separates (h : fs.Lawful files) {arguments : List String}
    (hcall : Call.ofArguments arguments = .command cmd) (c : σ) (ticks : Nat) :
    let (outcome, c') := ((Call.ofArguments arguments).perform fs (patience ticks)).run c
    (∀ o, outcome = some o → Tells fs files cmd c c' o ∧ (cmd.isRun → o.code ≠ 1) ∧
      ((∀ path input tapeSize limit, cmd = .run path input tapeSize limit → tapeSize.toNat < 2 ^ 63) →
        o.code ≠ 101)) ∧
    (outcome = none → ∃ path input tapeSize s f, cmd = .run path input tapeSize none ∧
      (after (fs.readProgram path) c).1 = .ok s ∧ compile s = .ok f ∧
      Machine.outputWithin ⟨tapeSize⟩ ticks f.body input.toUTF8.toList = none) := by
  rw [hcall]
  have hsettles : Settles fs (patience ticks) files cmd c ∨ ((cmd.perform fs (patience ticks)).run c).1 = none ∧
      ∃ path input tapeSize s f, cmd = .run path input tapeSize none ∧ (after (fs.readProgram path) c).1 = .ok s ∧
        compile s = .ok f ∧ Machine.outputWithin ⟨tapeSize⟩ ticks f.body input.toUTF8.toList = none := by
    cases cmd with
    | build input output target settings json => exact .inl (settles_build h ..)
    | check paths statements json => exact .inl (settles_check h ..)
    | render paths target container tapeSize provenance output =>
      obtain ⟨n, d, hcommand⟩ := exists_draft_of_ofArgumentsFrom hcall
      exact .inl (settles_render h _ (paths_ne_nil hcommand) ..)
    | run path input tapeSize limit =>
      refine (settles_run h path input tapeSize limit c ticks).imp_right ?_
      rintro ⟨hnone, rfl, s, f, hread, hcompile, hran⟩
      exact ⟨hnone, path, input, tapeSize, s, f, rfl, hread, hcompile, hran⟩
    | schema =>
      exact .inl (settles_of_done (t := ⟨[], none⟩) rfl rfl (not_fails_of_none rfl rfl rfl) (not_faults rfl)
        (by simp [Accepts]) rfl)
  rcases hsettles with ⟨o, c', hrun, htells⟩ | ⟨hnone, hwaits⟩
  · have hperform : ((Call.command cmd).perform fs (patience ticks)).run c = (some o, c') := hrun
    rw [hperform]
    refine ⟨?_, (nomatch ·)⟩
    rintro _ ⟨⟩
    refine ⟨htells, htells.code_ne_one, fun hshort hcode => ?_⟩
    obtain ⟨hread, hcompile, hlong⟩ := htells.faults_iff.1 hcode
    exact absurd hlong (Nat.not_le.2 (hshort _ _ _ _ rfl))
  · refine ⟨fun o ho => ?_, fun _ => hwaits⟩
    have hsome : ((cmd.perform fs (patience ticks)).run c).1 = some o := ho
    cases hnone.symm.trans hsome

end

/-- A command line on a tree with one valid program and one whose loop is not closed. -/
theorem exitCode_separates_render :
    let root : FileTree := .directory [("a.bf", .file "+.".toUTF8), ("b.bf", .file "[".toUTF8)]
    let arguments := ["render", "a.bf", "b.bf", "-o", "out.rs"]
    let cmd : Command := .render ["a.bf", "b.bf"] .rust "BF" 256 true (some "out.rs")
    Call.ofArguments arguments = .command cmd ∧
      ∃ o, (((Call.ofArguments arguments).perform FileTree.fileSystem (patience 0)).run root).1 = some o ∧
        Tells FileTree.fileSystem FileTree.fileAt? cmd root
          (((Call.ofArguments arguments).perform FileTree.fileSystem (patience 0)).run root).2 o ∧ o.code ≠ 101 := by
  intro root arguments cmd
  have hcall : Call.ofArguments arguments = .command cmd := by decide
  refine ⟨hcall, ?_⟩
  have hseparates := exitCode_separates FileTree.lawful_fileSystem hcall root 0
  cases ho : (((Call.ofArguments arguments).perform FileTree.fileSystem (patience 0)).run root).1 with
  | none =>
    obtain ⟨_, _, _, _, _, hcmd, -⟩ := hseparates.2 ho
    simp [cmd] at hcmd
  | some o =>
    obtain ⟨htells, -, hcode⟩ := hseparates.1 o ho
    exact ⟨o, rfl, htells, hcode (by simp [cmd])⟩

/-- A valid program on a tape that is too long ends with neither of the codes for success, rejected programs and
failures. -/
theorem exitCode_of_long_tape :
    let root : FileTree := .directory [("ok.bf", .file "+".toUTF8)]
    let arguments := ["run", "ok.bf", "--tape-size", "9223372036854775808"]
    Call.ofArguments arguments = .command (.run "ok.bf" "" 9223372036854775808 none) ∧
      ∃ o, (((Call.ofArguments arguments).perform FileTree.fileSystem (patience 0)).run root).1 = some o ∧
        o.code = 101 := by
  intro root arguments
  have hcall : Call.ofArguments arguments = .command (.run "ok.bf" "" 9223372036854775808 none) := by decide +kernel
  have hresolve : ∀ bytes, (FileTree.directory [("ok.bf", .file bytes)]).resolve true "ok.bf" = .ok (.file bytes) := by
    intro bytes
    cbv
  have htext : root.read "ok.bf" = .ok "+" := by
    simp only [FileTree.read, root, hresolve]
    rfl
  have hread : (after (FileTree.fileSystem.readProgram "ok.bf") root).1 = .ok (.ofText "ok.bf" "+") := by
    have hfile : after (FileTree.fileSystem.read "ok.bf") root = (.ok "+", root) := by
      rw [FileTree.fileSystem, FileTree.after_reading, htext]
    rw [FileSystem.readProgram, FileSystem.fst_after_map, FileSystem.after_failing, hfile]
    rfl
  have hmatch : matchBrackets (Source.ofText "ok.bf" "+").program = .ok ⟨[]⟩ :=
    matchBrackets_eq_ok.2 ⟨_, rfl, by simp⟩
  obtain ⟨f, hcompile⟩ : ∃ f, compile (.ofText "ok.bf" "+") = .ok f := by
    rw [compile, hmatch]
    exact ⟨_, rfl⟩
  have hlong : 2 ^ 63 ≤ (9223372036854775808 : UInt64).toNat := by decide +kernel
  rw [hcall]
  refine ⟨rfl, ?_⟩
  rcases settles_run FileTree.lawful_fileSystem "ok.bf" "" 9223372036854775808 none root 0 with
    ⟨o, c', hrun, htells⟩ | ⟨-, -, s, f', -, hcompile', hwaits⟩
  · exact ⟨o, congrArg Prod.fst hrun, htells.faults_iff.2 (.running hread hcompile hlong)⟩
  · have himpatience := answer_eq_impatience_iff.2 ⟨rfl, hwaits⟩
    cases himpatience.symm.trans ((answer_eq_fault_iff hcompile').2 ⟨rfl, hlong⟩)

end TapeLang.Command
