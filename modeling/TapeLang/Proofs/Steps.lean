import TapeLang.CommandLine.Command
import TapeLang.Proofs.FileSystem

/-!
# Steps and what they write

`Steps.performed` is what steps come to from what has been written and a state of the files. Steps are silent if they
write nothing to the output, and quiet if they have written nothing to it when they are stopped. Silent steps before
quiet ones are quiet (`Silent.bind_quiet`), and so is every command: nothing is written to the output before the last
step that may stop it (`Command.quiet_steps`).
-/

namespace TapeLang

namespace Transcript

variable {log : Transcript} {s : Stream}

@[simp] theorem text_append (log log' : Transcript) : text (log ++ log') s = log.text s ++ log'.text s := by
  simp [text, String.join_append]

theorem text_singleton (e : Stream × String) : text [e] s = if e.1 = s then e.2 else "" := by
  by_cases h : e.1 = s <;> simp [text, h]

theorem text_of_forall_ne (h : ∀ e ∈ log, e.1 ≠ s) : log.text s = "" := by
  have hnone : log.filter (·.1 = s) = [] := List.filter_eq_nil_iff.2 fun e he => by simpa using h e he
  rw [text, hnone]
  rfl

end Transcript

namespace Steps

open FileSystem (after)

variable {σ α β : Type}

/-- What steps come to behind what has been written in a state: their result with all that is written then, and the
state. -/
def performed (x : Steps (StateM σ) α) (log : Transcript) (c : σ) : (Except Stop α × Transcript) × σ :=
  (x.run.run log).run c

section

variable (log : Transcript) (c : σ)

@[simp] theorem performed_pure (a : α) : performed (pure a : Steps (StateM σ) α) log c = ((.ok a, log), c) := rfl

@[simp] theorem performed_throw (stop : Stop) :
    performed (throw stop : Steps (StateM σ) α) log c = ((.error stop, log), c) := rfl

@[simp] theorem performed_write (s : Stream) (text : String) :
    performed (write s text : Steps (StateM σ) Unit) log c = ((.ok (), log ++ [(s, text)]), c) := rfl

theorem performed_bind (x : Steps (StateM σ) α) (g : α → Steps (StateM σ) β) :
    performed (x >>= g) log c =
      match performed x log c with
      | ((.ok a, log'), c') => performed (g a) log' c'
      | ((.error stop, log'), c') => ((.error stop, log'), c') := by
  simp only [performed, ExceptT.run_bind, StateT.run_bind]
  rcases (x.run.run log).run c with ⟨⟨r, log'⟩, c'⟩
  cases r <;> rfl

theorem performed_lift (x : StateM σ α) :
    performed (liftM x : Steps (StateM σ) α) log c = ((.ok (x.run c).1, log), (x.run c).2) := rfl

theorem performed_attempt (x : ExceptT Failure (StateM σ) α) :
    performed (attempt x) log c = (((after x c).1.mapError .failure, log), (after x c).2) := by
  have hrun : performed (monadLift (x.run : StateM σ (Except Failure α)) : Steps (StateM σ) (Except Failure α)) log c =
      ((.ok (after x c).1, log), (after x c).2) := rfl
  refine (performed_bind ..).trans ?_
  rw [hrun]
  cases (after x c).1 <;> rfl

end

/-! ### Silence -/

/-- Steps that write nothing to the output. -/
def Silent (x : Steps (StateM σ) α) : Prop := ∀ log c, (performed x log c).1.2.text .out = log.text .out

/-- Steps that have written nothing to the output when they are stopped. -/
def Quiet (x : Steps (StateM σ) α) : Prop :=
  ∀ log c stop, (performed x log c).1.1 = .error stop → (performed x log c).1.2.text .out = log.text .out

/-- Steps that do nothing but write. -/
def OnlyWrites (x : Steps (StateM σ) α) : Prop := ∀ log c, ∃ a log', performed x log c = ((.ok a, log'), c)

variable {x : Steps (StateM σ) α} {g : α → Steps (StateM σ) β}

theorem Silent.quiet (h : Silent x) : Quiet x := fun log c _ _ => h log c

theorem OnlyWrites.quiet (h : OnlyWrites x) : Quiet x := fun log c stop hstop => by
  obtain ⟨a, log', hx⟩ := h log c
  rw [hx] at hstop
  cases hstop

theorem silent_pure (a : α) : Silent (pure a : Steps (StateM σ) α) := fun _ _ => rfl

theorem silent_throw (stop : Stop) : Silent (throw stop : Steps (StateM σ) α) := fun _ _ => rfl

theorem silent_lift (x : StateM σ α) : Silent (liftM x : Steps (StateM σ) α) := fun _ _ => rfl

theorem silent_attempt (x : ExceptT Failure (StateM σ) α) : Silent (attempt x) := fun log c => by
  rw [performed_attempt]

theorem silent_complainLine (text : String) : Silent (complainLine text : Steps (StateM σ) Unit) := fun log c => by
  simp [complainLine, Transcript.text]

theorem Silent.bind (hx : Silent x) (hg : ∀ a, Silent (g a)) : Silent (x >>= g) := fun log c => by
  rw [performed_bind, ← hx log c]
  rcases performed x log c with ⟨⟨_ | a, log'⟩, c'⟩
  · rfl
  · exact hg a log' c'

/-- What comes before quiet steps must be silent. -/
theorem Silent.bind_quiet (hx : Silent x) (hg : ∀ a, Quiet (g a)) : Quiet (x >>= g) := fun log c stop => by
  rw [performed_bind, ← hx log c]
  rcases performed x log c with ⟨⟨_ | a, log'⟩, c'⟩
  · exact fun _ => rfl
  · exact hg a log' c' stop

theorem onlyWrites_pure (a : α) : OnlyWrites (pure a : Steps (StateM σ) α) := fun log _ => ⟨a, log, rfl⟩

theorem onlyWrites_write (s : Stream) (text : String) : OnlyWrites (write s text : Steps (StateM σ) Unit) :=
  fun _ _ => ⟨(), _, rfl⟩

theorem OnlyWrites.bind (hx : OnlyWrites x) (hg : ∀ a, OnlyWrites (g a)) : OnlyWrites (x >>= g) := fun log c => by
  obtain ⟨a, log', hfirst⟩ := hx log c
  rw [performed_bind, hfirst]
  exact hg a log' c

end Steps

/-! ### Commands -/

namespace Command

open Steps

variable {σ : Type} {fs : FileSystem (StateM σ)} {wait : Waiting (StateM σ)}

theorem performed_complain (rs : List Rejection) (log : Transcript) (c : σ) :
    performed (complain rs) log c =
      ((.ok (), log ++ rs.map fun r => (.err, s!"✗ {r.file}: {r.error.message}" ++ "\n")), c) := by
  induction rs generalizing log with
  | nil => simp [complain]
  | cons r rest ih =>
    rw [complain, performed_bind, complainLine, performed_write]
    simp only [ih, List.map_cons, List.append_assoc, List.singleton_append]

theorem text_complaints (rs : List Rejection) (line : Rejection → String) :
    Transcript.text (rs.map fun r => (.err, line r)) .out = "" := by
  apply Transcript.text_of_forall_ne
  intro e he
  obtain ⟨r, -, rfl⟩ := List.mem_map.1 he
  simp

theorem silent_complain (rs : List Rejection) : Silent (complain rs : Steps (StateM σ) Unit) := fun log c => by
  rw [performed_complain, Transcript.text_append, text_complaints, String.append_empty]

theorem onlyWrites_complain (rs : List Rejection) : OnlyWrites (complain rs : Steps (StateM σ) Unit) :=
  fun log c => ⟨_, _, performed_complain rs log c⟩

theorem onlyWrites_printStatements (body : List Statement) :
    OnlyWrites (printStatements body : Steps (StateM σ) Unit) := by
  induction body with
  | nil => exact onlyWrites_pure ()
  | cons s rest ih => exact (onlyWrites_write _ _).bind fun _ => ih

theorem onlyWrites_printFindings (findings : List Finding) :
    OnlyWrites (printFindings findings : Steps (StateM σ) Unit) := by
  induction findings with
  | nil => exact onlyWrites_pure ()
  | cons f rest ih => exact (onlyWrites_write _ _).bind fun _ => (onlyWrites_printStatements _).bind fun _ => ih

theorem onlyWrites_reportBuild (s : Settings) (input output : String) (json : Bool) (r : Report) :
    OnlyWrites (reportBuild s input output json r : Steps (StateM σ) Unit) := by
  cases json with
  | true => exact onlyWrites_write _ _
  | false => exact (onlyWrites_complain _).bind fun _ => onlyWrites_write _ _

theorem onlyWrites_reportFindings (json : Bool) (findings : List Finding) :
    OnlyWrites (reportFindings json findings : Steps (StateM σ) Unit) := by
  cases json with
  | true => exact onlyWrites_write _ _
  | false => exact onlyWrites_printFindings findings

/-- A command that is stopped has written nothing to its output. -/
theorem quiet_steps (cmd : Command) : Quiet (cmd.steps fs wait) := by
  cases cmd with
  | build input output target settings json =>
    refine (silent_lift _).bind_quiet fun found => ?_
    cases found with
    | false => exact (silent_throw _).quiet
    | true =>
      refine (silent_attempt _).bind_quiet fun s => (silent_attempt _).bind_quiet fun r => OnlyWrites.quiet ?_
      exact (onlyWrites_reportBuild _ _ _ _ _).bind fun _ => onlyWrites_pure _
  | check files statements json =>
    refine (silent_attempt _).bind_quiet fun sources => OnlyWrites.quiet ?_
    exact (onlyWrites_reportFindings _ _).bind fun _ => onlyWrites_pure _
  | render files target container tapeSize provenance output =>
    rw [steps, performRender]
    split
    · exact (silent_throw _).quiet
    · split
      · exact (silent_throw _).quiet
      · refine (silent_attempt _).bind_quiet fun sources => (silent_complain _).bind_quiet fun _ => ?_
        split
        · exact (silent_pure _).quiet
        · extract_lets options
          split
          · exact (silent_throw _).quiet
          · cases output with
            | some path =>
              refine Silent.quiet (Silent.bind ?_ fun _ => silent_pure _)
              exact (silent_attempt _).bind fun _ => silent_complainLine _
            | none => exact OnlyWrites.quiet ((onlyWrites_write _ _).bind fun _ => onlyWrites_pure _)
  | run file input tapeSize limit =>
    refine (silent_attempt _).bind_quiet fun s => ?_
    split
    · exact (silent_throw _).quiet
    · next f _ =>
      have hran : Silent (runFunction wait f input tapeSize limit) := by
        unfold runFunction
        cases limit with
        | some l =>
          dsimp only
          split
          · exact silent_pure _
          · exact silent_throw _
          · exact silent_throw _
        | none =>
          refine (silent_lift _).bind fun o => ?_
          split
          · exact silent_pure _
          · exact silent_throw _
          · exact silent_throw _
      exact hran.bind_quiet fun out => OnlyWrites.quiet ((onlyWrites_write _ _).bind fun _ => onlyWrites_pure _)
  | schema => exact OnlyWrites.quiet ((onlyWrites_write _ _).bind fun _ => onlyWrites_pure _)

end Command

end TapeLang
