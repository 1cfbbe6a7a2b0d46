import TapeLang.Proofs.FileTree

/-!
# Lawful file systems

A file system with states is lawful for a view of its files if looking at it leaves the state as it is, making
directories leaves the files as they are, and a write either changes one file to the written text or fails without an
effect on the files. Nothing else is asked for: a write may fail for any reason. File trees are lawful
(`FileTree.lawful_fileSystem`).
-/

namespace TapeLang.FileSystem

section

variable {σ ε α β : Type}

/-- What an action gives in a state, and the state behind it. -/
def after (x : ExceptT ε (StateM σ) α) (c : σ) : Except ε α × σ :=
  x.run.run c

@[simp] theorem after_pure (a : α) (c : σ) : after (pure a : ExceptT ε (StateM σ) α) c = (.ok a, c) := rfl

@[simp] theorem after_throw (e : ε) (c : σ) : after (throw e : ExceptT ε (StateM σ) α) c = (.error e, c) := rfl

theorem after_bind (x : ExceptT ε (StateM σ) α) (g : α → ExceptT ε (StateM σ) β) (c : σ) :
    after (x >>= g) c =
      match after x c with
      | (.ok a, c') => after (g a) c'
      | (.error e, c') => (.error e, c') := by
  simp only [after, ExceptT.run_bind, StateT.run_bind]
  rcases x.run.run c with ⟨r, c'⟩
  cases r <;> rfl

/-- What an action gives if something is made of its result. -/
theorem fst_after_map (x : ExceptT ε (StateM σ) α) (g : α → β) (c : σ) :
    (after (x >>= fun a => pure (g a)) c).1 = (after x c).1.map g := by
  rw [after_bind]
  rcases after x c with ⟨r, c'⟩
  cases r <;> rfl

theorem after_lift (x : StateM σ α) (c : σ) :
    after (liftM x : ExceptT ε (StateM σ) α) c = (.ok (x.run c).1, (x.run c).2) := rfl

/-- An action that leaves every state as it is. -/
def ReadOnly (x : ExceptT ε (StateM σ) α) : Prop :=
  ∀ c, (after x c).2 = c

namespace ReadOnly

theorem pure (a : α) : ReadOnly (Pure.pure a : ExceptT ε (StateM σ) α) := fun _ => rfl

theorem throw (e : ε) : ReadOnly (MonadExcept.throw e : ExceptT ε (StateM σ) α) := fun _ => rfl

variable {x : ExceptT ε (StateM σ) α}

theorem after_eq (h : ReadOnly x) (c : σ) : after x c = ((after x c).1, c) :=
  Prod.ext rfl (h c)

theorem bind {g : α → ExceptT ε (StateM σ) β} (hx : ReadOnly x) (hg : ∀ a, ReadOnly (g a)) :
    ReadOnly (x >>= g) := by
  intro c
  rw [after_bind, hx.after_eq]
  cases (after x c).1 with
  | error e => rfl
  | ok a => exact hg a c

theorem lift {x : StateM σ α} (h : ∀ c, (x.run c).2 = c) :
    ReadOnly (monadLift x : ExceptT ε (StateM σ) α) := h

end ReadOnly

theorem after_failing (failure : FileError → Failure) (x : ExceptT FileError (StateM σ) α) (c : σ) :
    after (failing failure x) c = ((after x c).1.mapError failure, (after x c).2) := by
  have hrun : after (failing failure x) c =
      (let p := x.run.run c; (Except.mapError failure p.1, p.2)) := rfl
  exact hrun

theorem ReadOnly.failing {x : ExceptT FileError (StateM σ) α} (h : ReadOnly x) (failure : FileError → Failure) :
    ReadOnly (failing failure x) := fun c => by
  rw [after_failing]
  exact h c

end

/-! ### Laws -/

/-- The laws of a file system, where `files` are the files of a state by their places. -/
structure Lawful {σ ι : Type} [DecidableEq ι] (fs : FileSystem (StateM σ)) (files : σ → ι → Option ByteArray) :
    Prop where
  isFile : ∀ path c, ((fs.isFile path).run c).2 = c
  isDirectory : ∀ path c, ((fs.isDirectory path).run c).2 = c
  walk : ∀ path c, ((fs.walk path).run c).2 = c
  read : ∀ path, ReadOnly (fs.read path)
  write_ok : ∀ {path text c c'}, after (fs.write path text) c = (.ok (), c') →
    ∃ place, files c' = Function.update (files c) place (some text.toUTF8)
  write_error : ∀ {path text c c' e}, after (fs.write path text) c = (.error e, c') → files c' = files c
  makeDirectory : ∀ path c, files (after (fs.makeDirectory path) c).2 = files c

namespace Lawful

variable {σ ι : Type} [DecidableEq ι] {fs : FileSystem (StateM σ)} {files : σ → ι → Option ByteArray}

theorem loadSettings (h : fs.Lawful files) (path : String) : ReadOnly (fs.loadSettings path) := by
  refine ((h.read path).failing .file).bind fun text => ?_
  cases Settings.ofText text with
  | ok s => exact .pure s
  | error e => exact .throw _

theorem findSettings (h : fs.Lawful files) (input : String) : ReadOnly (fs.findSettings input) := by
  refine (ReadOnly.lift (h.isFile _)).bind fun found => ?_
  cases found with
  | true => exact h.loadSettings _
  | false => exact .pure _

theorem readProgram (h : fs.Lawful files) (path : String) : ReadOnly (fs.readProgram path) :=
  ((h.read path).failing _).bind fun _ => .pure _

theorem readPrograms (h : fs.Lawful files) (paths : List String) : ReadOnly (fs.readPrograms paths) := by
  induction paths with
  | nil => exact .pure _
  | cons path paths ih => exact (h.readProgram path).bind fun _ => ih.bind fun _ => .pure _

theorem hostFiles (h : fs.Lawful files) (input output : String) : ReadOnly (fs.host input output).files := by
  refine (ReadOnly.lift (h.walk _)).bind fun walk => ?_
  cases walk.files input with
  | ok names => exact .pure names
  | error f => exact .throw f

theorem readAll (h : fs.Lawful files) (input output : String) (names : List String) :
    ReadOnly ((fs.host input output).readAll names) := by
  induction names with
  | nil => exact .pure _
  | cons name names ih =>
    exact ((h.read _).failing _).bind fun _ => ih.bind fun _ => .pure _

end Lawful

/-- The file at a path has been written, and with it one file only. -/
def Writes {σ ι : Type} [DecidableEq ι] (fs : FileSystem (StateM σ)) (files : σ → ι → Option ByteArray)
    (path text : String) (c c' : σ) : Prop :=
  ∃ c₁ place, files c₁ = files c ∧ after (fs.write path text) c₁ = (.ok (), c') ∧
    files c' = Function.update (files c) place (some text.toUTF8)

end TapeLang.FileSystem

/-! ### File trees -/

namespace TapeLang.FileTree

open FileSystem (after)

theorem after_updating {f : FileTree → Except FileError FileTree} {root : FileTree} :
    after (updating f) root =
      match f root with
      | .ok t => (.ok (), t)
      | .error e => (.error e, root) := by
  have hget : after (get : ExceptT FileError (StateM FileTree) FileTree) root = (.ok root, root) := rfl
  unfold updating
  simp only [FileSystem.after_bind, hget]
  cases f root <;> rfl

theorem after_reading {α : Type} (f : FileTree → Except FileError α) (root : FileTree) :
    after (reading f) root = (f root, root) := by
  have hget : after (get : ExceptT FileError (StateM FileTree) FileTree) root = (.ok root, root) := rfl
  unfold reading
  simp only [FileSystem.after_bind, hget]
  cases f root <;> rfl

theorem readOnly_reading {α : Type} (f : FileTree → Except FileError α) : FileSystem.ReadOnly (reading f) :=
  fun root => congrArg Prod.snd (after_reading f root)

theorem lawful_fileSystem : fileSystem.Lawful fileAt? where
  isFile _ _ := rfl
  isDirectory _ _ := rfl
  walk _ _ := rfl
  read _ := readOnly_reading _
  write_ok {path text root root'} h := by
    rw [fileSystem, after_updating] at h
    cases hwrite : root.write path text.toUTF8 with
    | error e =>
      simp only [hwrite] at h
      cases h
    | ok t =>
      simp only [hwrite] at h
      cases h
      exact exists_fileAt?_write hwrite
  write_error {path text root root' e} h := by
    rw [fileSystem, after_updating] at h
    cases hwrite : root.write path text.toUTF8 with
    | error e' =>
      simp only [hwrite] at h
      cases h
      rfl
    | ok t =>
      simp only [hwrite] at h
      cases h
  makeDirectory path root := by
    rw [fileSystem, after_updating]
    cases hmade : root.makeDirectory path with
    | error e => rfl
    | ok t => exact fileAt?_makeDirectory hmade

end TapeLang.FileTree
