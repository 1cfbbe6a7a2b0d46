import TapeLang.Proofs.Batch

/-!
# Batches without their rejected sources

A rejected source leaves the keys in use as they are. So a batch from which rejected sources are deleted goes through
the same states, and every source that is left has the verdict that it had before (`Thinned.verdictsFrom_eq`). Sources
that come later change no verdict either (`verdictsFrom_append`).
-/

namespace TapeLang

/-- Deleting some sources whose verdicts are rejections from `sources` leaves the sources `kept`, which had the verdicts
`left`. -/
inductive Thinned : List Source → List (Except Rejection Function) → List Source →
    List (Except Rejection Function) → Prop where
  | nil : Thinned [] [] [] []
  | keep {sources kept : List Source} {verdicts left : List (Except Rejection Function)} (s : Source)
      (v : Except Rejection Function) (h : Thinned sources verdicts kept left) :
      Thinned (s :: sources) (v :: verdicts) (s :: kept) (v :: left)
  | delete {sources kept : List Source} {verdicts left : List (Except Rejection Function)} (s : Source)
      (r : Rejection) (h : Thinned sources verdicts kept left) :
      Thinned (s :: sources) (.error r :: verdicts) kept left

section

variable {sources kept : List Source} {verdicts left : List (Except Rejection Function)}
  {taken : List (String × String)}

/-- The sources that are left have the verdicts that they had before. -/
theorem Thinned.verdictsFrom_eq (h : Thinned sources verdicts kept left) (hv : verdictsFrom taken sources = verdicts) :
    verdictsFrom taken kept = left := by
  induction h generalizing taken with
  | nil => rfl
  | keep s v _ ih =>
    obtain ⟨rfl, hrest⟩ := List.cons.inj hv
    rw [verdictsFrom, ih hrest]
  | delete s r _ ih =>
    obtain ⟨hverdict, hrest⟩ := List.cons.inj hv
    -- a rejection takes no key
    rw [hverdict, takenAfter] at hrest
    exact ih hrest

theorem Thinned.functions_eq (h : Thinned sources verdicts kept left) :
    left.filterMap Except.toOption = verdicts.filterMap Except.toOption := by
  induction h with
  | nil => rfl
  | keep s v _ ih => rw [List.filterMap_cons, List.filterMap_cons, ih]
  | delete s r _ ih => rw [ih, List.filterMap_cons_none (by rfl)]

/-- All rejected sources can be deleted. -/
theorem exists_thinned_ok (h : verdicts.length = sources.length) :
    ∃ accepted, Thinned sources verdicts accepted ((verdicts.filterMap Except.toOption).map .ok) := by
  induction verdicts generalizing sources with
  | nil =>
    obtain rfl := List.length_eq_zero_iff.1 h.symm
    exact ⟨[], .nil⟩
  | cons v verdicts ih =>
    cases sources with
    | nil => cases h
    | cons s sources =>
      obtain ⟨accepted, haccepted⟩ := ih (by simpa using h)
      cases v with
      | error r => exact ⟨accepted, .delete s r haccepted⟩
      | ok f => exact ⟨s :: accepted, .keep s (.ok f) haccepted⟩

theorem verdictsFrom_append (taken : List (String × String)) (a b : List Source) :
    ∃ taken', verdictsFrom taken (a ++ b) = verdictsFrom taken a ++ verdictsFrom taken' b := by
  induction a generalizing taken with
  | nil => exact ⟨taken, rfl⟩
  | cons s a ih =>
    obtain ⟨taken', h⟩ := ih (takenAfter taken s (verdict taken s))
    exact ⟨taken', by rw [List.cons_append, verdictsFrom, h, verdictsFrom, List.cons_append]⟩

theorem compileAll_eq (h : verdictsFrom [] sources = verdicts) :
    compileAll sources = ⟨verdicts.filterMap Except.toOption, verdicts.filterMap Batch.rejection?⟩ := by
  rw [compileAll, compileFrom_eq, h, ← Batch.functions_foldr_add, ← Batch.rejections_foldr_add]

end

/-- Rejected sources have no influence on the rest of a batch. Whichever of them are deleted, the others keep their
verdicts: the functions stay the same, and so do the rejections of the sources that are left. Without all of them
nothing is rejected, and further sources behind a batch only add to what it gives. -/
theorem compileAll_thinned (sources : List Source) :
    (∃ verdicts : List (Except Rejection Function),
      Judged [] sources verdicts ∧
      compileAll sources = ⟨verdicts.filterMap Except.toOption, verdicts.filterMap Batch.rejection?⟩ ∧
      (∀ kept left, Thinned sources verdicts kept left →
        Judged [] kept left ∧
        (compileAll kept).functions = (compileAll sources).functions ∧
        (compileAll kept).rejections = left.filterMap Batch.rejection?) ∧
      ∃ accepted, Thinned sources verdicts accepted ((compileAll sources).functions.map .ok) ∧
        compileAll accepted = ⟨(compileAll sources).functions, []⟩) ∧
    ∀ more, (compileAll sources).functions <+: (compileAll (sources ++ more)).functions ∧
      (compileAll sources).rejections <+: (compileAll (sources ++ more)).rejections := by
  have hbatch : compileAll sources = ⟨(verdictsFrom [] sources).filterMap Except.toOption,
      (verdictsFrom [] sources).filterMap Batch.rejection?⟩ := compileAll_eq rfl
  have hthin : ∀ kept left, Thinned sources (verdictsFrom [] sources) kept left →
      Judged [] kept left ∧ compileAll kept = ⟨(compileAll sources).functions, left.filterMap Batch.rejection?⟩ := by
    intro kept left h
    have hkept := h.verdictsFrom_eq rfl
    constructor
    · rw [← hkept]
      exact judged_verdictsFrom_nil kept
    · rw [compileAll_eq hkept, h.functions_eq, hbatch]
  have hjudged := judged_verdictsFrom_nil sources
  refine ⟨⟨_, hjudged, hbatch, ?_, ?_⟩, fun more => ?_⟩
  · intro kept left h
    obtain ⟨hkept, heq⟩ := hthin kept left h
    rw [heq]
    exact ⟨hkept, rfl, rfl⟩
  · obtain ⟨accepted, h⟩ := exists_thinned_ok hjudged.1
    have hfunctions : (verdictsFrom [] sources).filterMap Except.toOption = (compileAll sources).functions := by
      rw [hbatch]
    rw [hfunctions] at h
    refine ⟨accepted, h, ?_⟩
    have hnone : (((compileAll sources).functions.map .ok).filterMap Batch.rejection?) = [] := by
      simp [Batch.rejection?]
    rw [(hthin _ _ h).2, hnone]
  · obtain ⟨taken, happend⟩ := verdictsFrom_append [] sources more
    rw [hbatch, compileAll_eq happend, List.filterMap_append, List.filterMap_append]
    exact ⟨List.prefix_append .., List.prefix_append ..⟩

/-- Of two sources turned away the second is told of the same owner without the first. -/
example :
    (compileAll [⟨"a-1.bf", [], ""⟩, ⟨"a1.bf", [], ""⟩, ⟨"b/A1.bf", [], ""⟩]).rejections =
      [⟨"a1.bf", .nameTaken "a1" "a-1.bf"⟩, ⟨"b/A1.bf", .nameTaken "a1" "a-1.bf"⟩] ∧
    (compileAll [⟨"a-1.bf", [], ""⟩, ⟨"b/A1.bf", [], ""⟩]).rejections =
      [⟨"b/A1.bf", .nameTaken "a1" "a-1.bf"⟩] :=
  ⟨rfl, rfl⟩

end TapeLang
