import TapeLang.Proofs.SourceNames

/-!
# The provenance header is a prefix

A file that is rendered with the provenance header is the header, written as comment lines and an empty line
(`headerText`), in front of the file that is rendered without it (`render_with_header`). Either both renderings fail or
neither does. Each target puts the header there in its own way: Rust code is laid out before the header is put in front
of it, a Python file is one list of lines, a quoted file has the tokens of the header before those of its class
(`layout_header_cons`), and in the class template the header is a block of its own, which nothing behind it mentions
(`Template.spares_moduleNodes`).
-/

namespace TapeLang.Code

/-- The provenance header of a target: each of its lines behind a comment marker, and an empty line. -/
def headerText (t : Target) (functions : List Function) : String :=
  String.join ((provenanceLines functions).map fun line => marker t ++ " " ++ line ++ "\n") ++ "\n"

/-- The header of a target, or nothing if there is to be none. -/
def headerIf (provenance : Bool) (t : Target) (functions : List Function) : String :=
  if provenance then headerText t functions else ""

@[simp] theorem headerIf_false (t : Target) (functions : List Function) : headerIf false t functions = "" := rfl

/-! ### Lines of comments -/

private theorem marked_ne_empty (t : Target) (line : String) : marker t ++ " " ++ line ≠ "" := by
  intro hempty
  have hchars := congrArg String.toList hempty
  cases t <;> simp [marker] at hchars

theorem writeLines_provenanceHeader (t : Target) (functions : List Function) :
    writeLines "" (provenanceHeader (marker t) functions) = headerText t functions := by
  have hline : ∀ line : String, (⟨0, marker t ++ " " ++ line⟩ : Line).chars "" =
      (marker t ++ " " ++ line ++ "\n").toList := by
    intro line
    rw [Line.chars, if_neg (marked_ne_empty t line)]
    simp
  have hblank : Line.blank.chars "" = ['\n'] := rfl
  apply String.toList_injective
  simp only [writeLines, provenanceHeader, linesAt, headerText, String.toList_ofList, String.toList_append,
    String.toList_join, List.map_map, List.flatMap_append, List.flatMap_map, Function.comp_apply, hline]
  simp [hblank]

theorem writeLines_headerLines_eq (o : Options) (t : Target) (functions : List Function) :
    writeLines "" (headerLines o (marker t) functions) = headerIf o.provenance t functions := by
  unfold headerLines
  cases o.provenance with
  | false => rfl
  | true => exact writeLines_provenanceHeader t functions

theorem withHeader_eq (o : Options) (t : Target) (functions : List Function) (text : String) :
    withHeader o (marker t) functions text = headerIf o.provenance t functions ++ text := by
  rw [withHeader, writeLines_headerLines_eq]

/-! ### The class template -/

/-- The contexts with and without a header differ in nothing else. -/
theorem agreeBut_typescriptContext (o : Options) (functions : List Function) :
    Template.AgreeBut "provenance" (.ofContext (typescriptContext o functions))
      (.ofContext (typescriptContext { o with provenance := false } functions)) := by
  intro n hn
  have hfirst : ∀ v : Value, (decide (("provenance", v).1 = n)) = false := fun v => decide_eq_false hn.symm
  simp only [Template.Scope.ofContext, typescriptContext, Value.field?, List.find?_cons, hfirst]
  rfl

/-- The template writes the header, and then what it writes without one. -/
theorem render_typescriptContext (o : Options) (functions : List Function) :
    Template.render (typescriptContext o functions) =
      (Template.render (typescriptContext { o with provenance := false } functions)).map
        (headerIf o.provenance .typescript functions ++ ·) := by
  have hheader : ∀ o, Template.header (typescriptContext o functions) =
      .ok (headerIf o.provenance .typescript functions) := fun o => by
    rw [header_eq, ← writeLines_headerLines_eq]
    rfl
  rw [Template.render_eq_bind, Template.render_eq_bind, hheader, hheader,
    Template.writeNodes_congr (agreeBut_typescriptContext o functions) Template.spares_moduleNodes]
  simp only [headerIf_false, bind, Except.bind]
  generalize Template.writeNodes (.ofContext (typescriptContext { o with provenance := false } functions))
    Template.moduleNodes = body
  cases body with
  | error e => rfl
  | ok text => simp [Except.map, pure, Except.pure]

/-! ### Files -/

/-- Every target puts the header, if there is to be one, in front of what it renders without a header. -/
theorem render_eq_map (t : Target) (o : Options) (functions : List Function) :
    render t o functions =
      (render t { o with provenance := false } functions).map (headerIf o.provenance t functions ++ ·) := by
  by_cases ht : t = .typescript
  · subst ht
    unfold render
    rw [render_typescriptContext]
    generalize Template.render (typescriptContext { o with provenance := false } functions) = result
    cases result with
    | error e => rfl
    | ok text => rfl
  by_cases hrust : t = .rust ∧ o.reflow = true
  · -- the layout sees the module only
    obtain ⟨rfl, hreflow⟩ := hrust
    have hmodule : rustModule { o with provenance := false } functions = rustModule o functions := rfl
    have hmarker : "//" = marker .rust := rfl
    rw [render_rust, render_rust, if_pos hreflow, if_pos hreflow, hmodule]
    cases Reflow.reflow (writeLines o.indent (rustModule o functions)) with
    | error e => rfl
    | ok text => simp [Except.mapError, Except.map, hmarker, withHeader_eq]
  · have hplain : t = .rust → o.reflow = false := fun h => by simpa [h] using hrust
    have hindent : Reading.indentOf t { o with provenance := false } = Reading.indentOf t o := by
      cases t <;> rfl
    have hlines : fileLines t { o with provenance := false } functions = fileLines t o functions := by
      cases t <;> rfl
    rw [render_eq ht hplain, @render_eq t { o with provenance := false } ht hplain, hindent, hlines, withHeader_eq,
      withHeader_eq]
    simp only [Except.map, headerIf_false, String.empty_append]

/-- In every target the header is a prefix: the rendering with it fails as the one without it does, or is the text of
the one without it behind the lines of the header and an empty line. -/
theorem render_with_header (t : Target) (o : Options) (functions : List Function) :
    render t { o with provenance := true } functions =
      (render t { o with provenance := false } functions).map (headerText t functions ++ ·) :=
  render_eq_map t { o with provenance := true } functions

end TapeLang.Code
