import Mathlib.Data.List.Forall2
import TapeLang.Proofs.Generation

/-!
# Sessions on a memory host

A session is any sequence of operations on one memory host: files are added, read and emitted, and the generator is
run, each time under settings of its own. An operation that fails leaves the host as it is, and so does a run that
emits nothing (`Event.Accounted`). A run depends on the files alone, not on what was emitted before (`generate_frame`).
So over a whole session the files are those that were added, and what was emitted consists of one pair for each
operation that emits (`session_accounts`).
-/

namespace TapeLang.MemoryHost

/-! ### Operations -/

/-- What is done with a host. -/
inductive Operation where
  | add (name text : String)
  | read (name : String)
  | emit (name text : String)
  | generate (s : Settings)

/-- What an operation answers if it does not fail. -/
inductive Answer where
  | done
  | text (t : String)
  | report (r : Report)

namespace Operation

def action : Operation → ExceptT Failure (StateM MemoryHost) Answer
  | .add name text => do
    modify (MemoryHost.add name text)
    return .done
  | .read name => return .text (← host.read name)
  | .emit name text => do
    host.emit name text
    return .done
  | .generate s => return .report (← TapeLang.generate host s)

/-- The file that an operation adds. -/
def added? : Operation → Option (String × String)
  | .add name text => some (name, text)
  | _ => none

end Operation

/-- An operation as it took place: its answer, and the host before and behind it. -/
structure Event where
  operation : Operation
  answer : Except Failure Answer
  start : MemoryHost
  finish : MemoryHost

/-- What happens when an operation is performed on a host. -/
def event (op : Operation) (h : MemoryHost) : Event :=
  let (answer, h') := after op.action h
  ⟨op, answer, h, h'⟩

/-- The events of operations that are performed one after the other. -/
def session (h : MemoryHost) : List Operation → List Event
  | [] => []
  | op :: ops => event op h :: session (event op h).finish ops

/-- The host behind operations. -/
def final (h : MemoryHost) : List Operation → MemoryHost
  | [] => h
  | op :: ops => final (event op h).finish ops

namespace Event

/-- Whether an event is an emission or a run that reports one. -/
def isEmission (e : Event) : Bool :=
  match e.operation, e.answer with
  | .emit _ _, _ => true
  | .generate _, .ok (.report r) => r.emitted.isSome
  | _, _ => false

/-- The pair that an event emits: the given one, or the file of the report with the text that the functions of its
sources are rendered to. -/
inductive Emits (e : Event) : String × String → Prop where
  | given {name text : String} (hop : e.operation = .emit name text) : Emits e (name, text)
  | generated {s : Settings} {r : Report} {file text : String} {units : List Source}
      (hop : e.operation = .generate s) (hanswer : e.answer = .ok (.report r)) (hemitted : r.emitted = some file)
      (hunits : List.Forall₂ e.start.ReadsAs r.sources units)
      (htext : Code.render s.target s.options (compileAll units).functions = .ok text) : Emits e (file, text)

/-- Why an operation fails: a file that was never added is read, or a run cannot render its functions. -/
inductive Fails (e : Event) : Failure → Prop where
  | read {name : String} (hop : e.operation = .read name) (hname : name ∉ e.start.names) : Fails e (.noSuchFile name)
  | generate {s : Settings} {units : List Source} {error : Code.RenderError} (hop : e.operation = .generate s)
      (hunits : List.Forall₂ e.start.ReadsAs (e.start.sourceNames s) units)
      (herror : Code.render s.target s.options (compileAll units).functions = .error error) :
      Fails e (.render error)

/-- What an event does to the host: it adds the file that it is to add, and emits one pair or none. -/
structure Accounted (e : Event) : Prop where
  files : e.finish.files = e.start.files ++ e.operation.added?.toList
  emission : e.isEmission → ∃ pair, e.Emits pair ∧ e.finish.emitted = e.start.emitted ++ [pair]
  quiet : e.isEmission = false → e.finish.emitted = e.start.emitted
  failure : ∀ f, e.answer = .error f → e.Fails f

/-- An event that adds no file and emits nothing leaves the host as it is. -/
theorem Accounted.unchanged {e : Event} (h : e.Accounted) (hadd : e.operation.added? = none)
    (hquiet : e.isEmission = false) : e.finish = e.start := by
  have hfiles : e.finish.files = e.start.files := by simpa [hadd] using h.files
  have hemitted := h.quiet hquiet
  rcases e with ⟨_, _, ⟨_, _⟩, ⟨_, _⟩⟩
  cases hfiles
  cases hemitted
  rfl

/-- An operation that fails leaves the host as it is. -/
theorem Accounted.unchanged_of_error {e : Event} (h : e.Accounted) {f : Failure} (hf : e.answer = .error f) :
    e.finish = e.start := by
  have hfails := h.failure f hf
  refine h.unchanged ?_ ?_
  · cases hfails with
    | read hop => rw [hop]; rfl
    | generate hop => rw [hop]; rfl
  · cases hfails with
    | read hop => simp [isEmission, hop]
    | generate hop => simp [isEmission, hop, hf]

end Event

/-! ### One operation -/

section

variable (h : MemoryHost)

theorem rightUnique_readsAs : Relator.RightUnique h.ReadsAs := by
  rintro name s t ⟨a, ha, rfl⟩ ⟨b, hb, rfl⟩
  rw [Except.ok.inj (ha.symm.trans hb)]

theorem event_read (name : String) :
    event (.read name) h = ⟨.read name, (h.read name).map .text, h, h⟩ := by
  unfold event Operation.action
  simp only [after_bind, after_read]
  cases h.read name <;> rfl

theorem event_generate (s : Settings) :
    event (.generate s) h = ⟨.generate s, (h.generate s).1.map .report, h, (h.generate s).2⟩ := by
  have hrun : after (TapeLang.generate host s) h = h.generate s := rfl
  unfold event Operation.action
  simp only [after_bind, hrun]
  rcases h.generate s with ⟨answer, h'⟩
  cases answer <;> rfl

@[simp] theorem event_operation (op : Operation) : (event op h).operation = op := rfl

@[simp] theorem event_start (op : Operation) : (event op h).start = h := rfl

private theorem accounted_generate (s : Settings) : (event (.generate s) h).Accounted := by
  obtain ⟨units, hunits, hgenerate⟩ := exists_generate s h
  rw [event_generate, hgenerate]
  dsimp only
  split
  · exact ⟨(List.append_nil _).symm, fun hemission => (by cases hemission), fun _ => rfl, fun _ hf => by cases hf⟩
  · cases htext : Code.render s.target s.options (compileAll units).functions with
    | error error =>
      refine ⟨(List.append_nil _).symm, fun hemission => ?_, fun _ => rfl, fun f hf => ?_⟩
      · cases hemission
      obtain rfl := Except.error.inj hf
      exact .generate rfl hunits htext
    | ok text =>
      refine ⟨(List.append_nil _).symm, fun _ => ⟨_, .generated rfl rfl rfl hunits htext, rfl⟩, fun hquiet => ?_,
        fun _ hf => by cases hf⟩
      simp [Event.isEmission, Except.map] at hquiet

/-- What every operation does to a host. -/
theorem accounted_event (op : Operation) : (event op h).Accounted := by
  cases op with
  | add name text => exact ⟨rfl, (nomatch ·), fun _ => rfl, fun _ hf => nomatch hf⟩
  | read name =>
    rw [event_read]
    refine ⟨(List.append_nil _).symm, (nomatch ·), fun _ => rfl, fun f hf => ?_⟩
    by_cases hname : name ∈ h.names
    · obtain ⟨text, htext⟩ := exists_read hname
      rw [htext] at hf
      cases hf
    · have hread : h.read name = .error (.noSuchFile name) := by
        have hfind : h.files.find? (·.1 = name) = none := by
          rw [List.find?_eq_none]
          intro file hfile hfound
          exact hname (List.mem_map.2 ⟨file, hfile, by simpa using hfound⟩)
        rw [read, hfind]
      rw [hread] at hf
      obtain rfl := Except.error.inj hf
      exact .read rfl hname
  | emit name text =>
    exact ⟨(List.append_nil _).symm, fun _ => ⟨_, .given rfl, rfl⟩, (nomatch ·), fun _ hf => nomatch hf⟩
  | generate s => exact accounted_generate h s

/-- A run depends on the files of a host alone: what was emitted before is left in front of what the run emits. -/
theorem generate_frame {h h' : MemoryHost} (hfiles : h.files = h'.files) (s : Settings) :
    (h.generate s).1 = (h'.generate s).1 ∧
      ∃ pairs, (h.generate s).2.emitted = h.emitted ++ pairs ∧ (h'.generate s).2.emitted = h'.emitted ++ pairs := by
  obtain ⟨units, hunits, hgenerate⟩ := exists_generate s h
  obtain ⟨units', hunits', hgenerate'⟩ := exists_generate s h'
  have hnames : h'.sourceNames s = h.sourceNames s := by simp only [sourceNames, names, hfiles]
  have hreads : h'.ReadsAs = h.ReadsAs := by
    funext name s
    simp only [ReadsAs, read, hfiles]
  rw [hnames, hreads] at hunits'
  rw [hnames] at hgenerate'
  obtain rfl : units = units' := List.right_unique_forall₂' h.rightUnique_readsAs hunits hunits'
  rw [hgenerate, hgenerate']
  dsimp only
  split
  · exact ⟨rfl, [], by simp⟩
  · cases Code.render s.target s.options (compileAll units).functions with
    | error error => exact ⟨rfl, [], by simp⟩
    | ok text => exact ⟨rfl, [_], rfl, rfl⟩

end

/-! ### Sessions -/

section

variable {h : MemoryHost} {e e' : Event}

theorem accounted_of_mem {ops : List Operation} (he : e ∈ session h ops) : e.Accounted := by
  induction ops generalizing h with
  | nil => cases he
  | cons op ops ih =>
    rcases List.mem_cons.1 he with rfl | he
    · exact accounted_event h op
    · exact ih he

theorem final_append (as bs : List Operation) : final h (as ++ bs) = final (final h as) bs := by
  induction as generalizing h with
  | nil => rfl
  | cons op as ih => exact ih

theorem files_final (ops : List Operation) : (final h ops).files = h.files ++ ops.filterMap (·.added?) := by
  induction ops generalizing h with
  | nil => simp [final]
  | cons op ops ih =>
    rw [final, ih, (accounted_event h op).files, event_operation, event_start, List.append_assoc]
    congr 1
    cases hadded : op.added? <;> simp [hadded]

/-- Behind the pairs emitted before them, operations emit one pair for each emission among them. -/
theorem exists_emitted_final (ops : List Operation) :
    ∃ pairs, (final h ops).emitted = h.emitted ++ pairs ∧
      List.Forall₂ Event.Emits ((session h ops).filter (·.isEmission)) pairs := by
  induction ops generalizing h with
  | nil => exact ⟨[], by simp [final], .nil⟩
  | cons op ops ih =>
    have hevent := accounted_event h op
    obtain ⟨pairs, hfinal, hpairs⟩ := ih (h := (event op h).finish)
    rw [final, session]
    by_cases hemission : (event op h).isEmission = true
    · obtain ⟨pair, hpair, hfinish⟩ := hevent.emission hemission
      refine ⟨pair :: pairs, ?_, ?_⟩
      · rw [hfinal, hfinish, event_start, List.append_assoc, List.singleton_append]
      · rw [List.filter_cons_of_pos hemission]
        exact .cons hpair hpairs
    · have hquiet := hevent.quiet (by simpa using hemission)
      refine ⟨pairs, by rw [hfinal, hquiet, event_start], ?_⟩
      rwa [List.filter_cons_of_neg hemission]

/-- An event of a session is what its operation does to the host behind the events before it. -/
theorem exists_of_session_eq {ops : List Operation} {es rest : List Event}
    (hsession : session h ops = es ++ e :: rest) :
    e = event e.operation e.start ∧ ∃ ops', rest = session e.finish ops' := by
  induction es generalizing h ops with
  | nil =>
    cases ops with
    | nil => cases hsession
    | cons op ops =>
      obtain ⟨rfl, rfl⟩ := List.cons.inj hsession
      exact ⟨rfl, ops, rfl⟩
  | cons first es ih =>
    cases ops with
    | nil => cases hsession
    | cons op ops =>
      obtain ⟨-, htail⟩ := List.cons.inj hsession
      exact ih htail

/-- As long as no file is added, every operation finds the same files. -/
theorem files_of_session_eq {ops : List Operation} {es rest : List Event} (hsession : session h ops = es ++ e :: rest)
    (hes : ∀ d ∈ es, d.operation.added? = none) : e.start.files = h.files := by
  induction es generalizing h ops with
  | nil =>
    cases ops with
    | nil => cases hsession
    | cons op ops =>
      obtain ⟨rfl, -⟩ := List.cons.inj hsession
      rfl
  | cons first es ih =>
    cases ops with
    | nil => cases hsession
    | cons op ops =>
      obtain ⟨rfl, htail⟩ := List.cons.inj hsession
      have hadd : op.added? = none := hes _ (List.mem_cons_self ..)
      rw [ih htail fun d hd => hes d (List.mem_cons_of_mem _ hd), (accounted_event h op).files]
      simp [hadd]

end

/-- What is left of a session on a host that was empty: its files are those that were added, in order, and what was
emitted is one pair for each emission, in order, behind what was emitted before. An operation that fails, which is a
read of a file that was never added or a run that cannot render its functions, leaves the host as it is, and so does a
run that reports no emission. Runs under the same settings with no file added between them answer and emit the same. -/
theorem session_accounts (ops : List Operation) :
    (final empty ops).files = ops.filterMap (·.added?) ∧
    List.Forall₂ Event.Emits ((session empty ops).filter (·.isEmission)) (final empty ops).emitted ∧
    (∀ as bs, ops = as ++ bs → (final empty as).emitted <+: (final empty ops).emitted) ∧
    (∀ e ∈ session empty ops,
      (∀ f, e.answer = .error f → e.Fails f ∧ e.finish = e.start) ∧
      ∀ s r, e.operation = .generate s → e.answer = .ok (.report r) → r.emitted = none → e.finish = e.start) ∧
    ∀ es e ms e' rest s, session empty ops = es ++ e :: (ms ++ e' :: rest) →
      e.operation = .generate s → e'.operation = .generate s → (∀ m ∈ ms, m.operation.added? = none) →
      e.answer = e'.answer ∧
      ∃ pairs, e.finish.emitted = e.start.emitted ++ pairs ∧ e'.finish.emitted = e'.start.emitted ++ pairs := by
  refine ⟨?_, ?_, ?_, fun e he => ⟨fun f hf => ?_, fun s r hop hanswer hnone => ?_⟩, ?_⟩
  · rw [files_final]
    rfl
  · obtain ⟨pairs, hfinal, hpairs⟩ := exists_emitted_final (h := empty) ops
    rw [hfinal]
    exact hpairs
  · rintro as bs rfl
    obtain ⟨pairs, hfinal, -⟩ := exists_emitted_final (h := final empty as) bs
    rw [final_append, hfinal]
    exact List.prefix_append _ _
  · have hevent := accounted_of_mem he
    exact ⟨hevent.failure f hf, hevent.unchanged_of_error hf⟩
  · refine (accounted_of_mem he).unchanged (by rw [hop]; rfl) ?_
    simp [Event.isEmission, hop, hanswer, hnone]
  · intro es e ms e' rest s hsession hop hop' hms
    obtain ⟨he, ops', hrest⟩ := exists_of_session_eq hsession
    obtain ⟨he', -⟩ := exists_of_session_eq hrest.symm
    have hstart : e'.start.files = e.finish.files := files_of_session_eq hrest.symm hms
    have hfinish : e.finish.files = e.start.files := by
      have := (accounted_event e.start e.operation).files
      rw [← he, hop] at this
      simpa [Operation.added?] using this
    obtain ⟨hanswer, pairs, hpairs, hpairs'⟩ := generate_frame (hstart.trans hfinish).symm s
    rw [he, he', hop, hop', event_generate, event_generate]
    exact ⟨congrArg (Except.map Answer.report) hanswer, pairs, hpairs, hpairs'⟩

end TapeLang.MemoryHost
