import TapeLang.Host
import TapeLang.Proofs.Batch

/-!
# Generator runs on a memory host

A memory host finds every file that it lists, so a run reads all sources and can fail only where the functions are
rendered (`exists_generate`). The report of a run accounts for each of its sources, and a file is emitted exactly if
something compiled (`generate_accounts`).
-/

namespace TapeLang.MemoryHost

/-- What an action gives on a memory host, and the host behind it. -/
def after {α : Type} (x : ExceptT Failure (StateM MemoryHost) α) (h : MemoryHost) : Except Failure α × MemoryHost :=
  x.run.run h

/-! ### Actions -/

section

variable {α β : Type} (h : MemoryHost)

@[simp] theorem after_pure (a : α) : after (pure a) h = (.ok a, h) := rfl

theorem after_bind (x : ExceptT Failure (StateM MemoryHost) α) (g : α → ExceptT Failure (StateM MemoryHost) β) :
    after (x >>= g) h =
      match after x h with
      | (.ok a, h') => after (g a) h'
      | (.error e, h') => (.error e, h') := by
  simp only [after, ExceptT.run_bind, StateT.run_bind]
  rcases x.run.run h with ⟨r, h'⟩
  cases r <;> rfl

@[simp] theorem after_files : after host.files h = (.ok h.names, h) := rfl

@[simp] theorem after_get : after get h = (.ok h, h) := rfl

@[simp] theorem after_read (name : String) : after (host.read name) h = (h.read name, h) := by
  simp only [host, after_bind, after_get]
  cases h.read name <;> rfl

end

/-! ### Reading sources -/

/-- The source that a file is read as. -/
def ReadsAs (h : MemoryHost) (name : String) (s : Source) : Prop :=
  ∃ text, h.read name = .ok text ∧ s = .ofText name text

variable {h : MemoryHost}

theorem exists_read {name : String} (hname : name ∈ h.names) : ∃ text, h.read name = .ok text := by
  obtain ⟨file, hmem, rfl⟩ := List.mem_map.1 hname
  unfold read
  cases hfind : h.files.find? (·.1 = file.1) with
  | some found => exact ⟨found.2, rfl⟩
  | none =>
    have := List.find?_eq_none.1 hfind file hmem
    simp at this

/-- Files that a host lists are read, and reading leaves the host as it is. -/
theorem exists_readAll {names : List String} (hnames : ∀ name ∈ names, name ∈ h.names) :
    ∃ units, List.Forall₂ h.ReadsAs names units ∧ after (host.readAll names) h = (.ok units, h) := by
  induction names with
  | nil => exact ⟨[], .nil, rfl⟩
  | cons name names ih =>
    obtain ⟨text, htext⟩ := exists_read (hnames name (List.mem_cons_self ..))
    obtain ⟨units, hunits, hafter⟩ := ih fun n hn => hnames n (List.mem_cons_of_mem _ hn)
    refine ⟨.ofText name text :: units, .cons ⟨text, htext, rfl⟩ hunits, ?_⟩
    simp only [Host.readAll, after_bind, after_read, htext, hafter, after_pure]

/-! ### Runs -/

/-- The names of the sources that a run considers. -/
def sourceNames (s : Settings) (h : MemoryHost) : List String :=
  h.names.filter s.isSource

/-- A run on a memory host: all its sources are read and compiled, what compiles is rendered and emitted, and the
host stays as it is if nothing compiles or rendering fails. -/
theorem exists_generate (s : Settings) (h : MemoryHost) :
    ∃ units, List.Forall₂ h.ReadsAs (h.sourceNames s) units ∧
      h.generate s =
        let functions := (compileAll units).functions
        let report := Report.ofBatch s.target (h.sourceNames s) (compileAll units)
        if functions = [] then (.ok report, h)
        else
          match Code.render s.target s.options functions with
          | .error e => (.error (.render e), h)
          | .ok text =>
            let file := Code.fileName s.target s.container
            (.ok { report with emitted := some file }, h.emit file text) := by
  have hlisted : ∀ name ∈ h.sourceNames s, name ∈ h.names := fun name hname => List.mem_of_mem_filter hname
  obtain ⟨units, hunits, hread⟩ := exists_readAll hlisted
  refine ⟨units, hunits, ?_⟩
  have hrun : h.generate s = after (TapeLang.generate host s) h := rfl
  unfold sourceNames at hread
  rw [hrun, TapeLang.generate, after_bind, after_files]
  simp only [after_bind, hread, List.isEmpty_iff]
  split
  · rfl
  · cases Code.render s.target s.options (compileAll units).functions <;> rfl

/-- The report of a run accounts for every source: its functions and rejections are those that the sources compile to,
and a file name gives at most one function. A file is emitted exactly if there are functions, and then it is the one
that they are rendered to; else the host stays as it is. -/
theorem generate_accounts {s : Settings} {h h' : MemoryHost} {report : Report}
    (hrun : h.generate s = (.ok report, h')) :
    report.target = s.target ∧ report.sources = h.names.filter s.isSource ∧
    ∃ units, List.Forall₂ h.ReadsAs report.sources units ∧
      report.functions = (compileAll units).functions.map (·.name) ∧
      report.rejections = (compileAll units).rejections ∧
      report.functions.length + report.rejections.length = report.sources.length ∧
      ((compileAll units).functions.map (·.source)).Nodup ∧
      (report.emitted.isSome ↔ report.functions ≠ []) ∧
      (∀ file, report.emitted = some file → file = Code.fileName s.target s.container ∧
        ∃ text, Code.render s.target s.options (compileAll units).functions = .ok text ∧
          h' = ⟨h.files, h.emitted ++ [(file, text)]⟩) ∧
      (report.emitted = none → h' = h) := by
  obtain ⟨units, hunits, hgenerate⟩ := exists_generate s h
  have hlength : ((compileAll units).functions.map (·.name)).length + (compileAll units).rejections.length =
      (h.sourceNames s).length := by
    rw [List.length_map, length_compileAll, hunits.length_eq]
  have hnodup := nodup_sources units
  rw [hrun] at hgenerate
  by_cases hempty : (compileAll units).functions = []
  · obtain ⟨hreport, rfl⟩ := Prod.mk.inj (by simpa only [hempty, if_true] using hgenerate)
    obtain rfl := Except.ok.inj hreport
    refine ⟨rfl, rfl, units, hunits, rfl, rfl, hlength, hnodup, ?_, fun _ hfile => ?_, fun _ => rfl⟩
    · simp [Report.ofBatch, hempty]
    · simp [Report.ofBatch] at hfile
  · cases hrender : Code.render s.target s.options (compileAll units).functions with
    | error e => simp [hempty, hrender] at hgenerate
    | ok text =>
      obtain ⟨hreport, rfl⟩ := Prod.mk.inj (by simpa only [hempty, if_false, hrender] using hgenerate)
      obtain rfl := Except.ok.inj hreport
      refine ⟨rfl, rfl, units, hunits, rfl, rfl, hlength, hnodup, ?_, fun file hfile => ?_, fun hnone => ?_⟩
      · simp [Report.ofBatch, hempty]
      · obtain rfl := Option.some.inj hfile
        exact ⟨rfl, text, hrender, rfl⟩
      · cases hnone

/-- A file given twice and one that is no source: the first text of the file is read twice, and compiled once. -/
theorem generate_accounts_repeated :
    ∃ units text, List.Forall₂ (ReadsAs ⟨[("a.bf", "+"), ("b.md", ""), ("a.bf", "]")], []⟩) ["a.bf", "a.bf"] units ∧
      ["a"] = (compileAll units).functions.map (·.name) ∧
      [⟨"a.bf", .nameTaken "a" "a.bf"⟩] = (compileAll units).rejections ∧
      MemoryHost.generate ⟨.python, "BF", 8, "bf", false, false⟩
          ⟨[("a.bf", "+"), ("b.md", ""), ("a.bf", "]")], []⟩ =
        (.ok ⟨.python, ["a.bf", "a.bf"], ["a"], [⟨"a.bf", .nameTaken "a" "a.bf"⟩], some "bf.py"⟩,
          ⟨[("a.bf", "+"), ("b.md", ""), ("a.bf", "]")], [("bf.py", text)]⟩) := by
  have hrun : MemoryHost.generate ⟨.python, "BF", 8, "bf", false, false⟩
        ⟨[("a.bf", "+"), ("b.md", ""), ("a.bf", "]")], []⟩ =
      (.ok ⟨.python, ["a.bf", "a.bf"], ["a"], [⟨"a.bf", .nameTaken "a" "a.bf"⟩], some "bf.py"⟩, _) :=
    Prod.ext rfl rfl
  obtain ⟨-, -, units, hunits, hfunctions, hrejections, -, -, -, hemitted, -⟩ := generate_accounts hrun
  obtain ⟨-, text, -, hhost⟩ := hemitted "bf.py" rfl
  exact ⟨units, text, hunits, hfunctions, hrejections, hrun.trans (congrArg _ hhost)⟩

end TapeLang.MemoryHost
