import TapeLang.Proofs.Reading.Rendered

/-!
# Printed steps

A function moves the pointer in lines of one form, with a step between two fixed texts. No other line begins like these
(`still_opening`, `still_statement`, `still_closing`), so the steps that a function prints are the forward distances of
the moves in its body, and no others (`prints_iff`).
-/

namespace TapeLang.Reading

open Code

variable {t : Target} {o : Options} {f : Function}

/-- The line that moves the pointer by a step. -/
def moveLine (t : Target) (step : Nat) : String := (legend t).front ++ toString step ++ (legend t).back

/-- A step that a line of the function moves the pointer by. -/
def Prints (t : Target) (o : Options) (f : Function) (step : Nat) : Prop :=
  ∃ l ∈ functionLines t o f, l.text = moveLine t step

theorem moveLine_inj {t : Target} {m n : Nat} (h : moveLine t m = moveLine t n) : m = n := by
  have hread : ∀ n, numberBetween (legend t).front (legend t).back (moveLine t n) = some n :=
    numberBetween_toString (clear_legend t).back
  have hm := hread m
  rw [h, hread n] at hm
  exact (Option.some.inj hm).symm

/-- What every line that moves the pointer begins with. -/
def moveFront : String := "ptr = (ptr + "

theorem prefix_moveLine (t : Target) (step : Nat) : moveFront.toList <+: (moveLine t step).toList := by
  have hfront : (legend t).front = moveFront := by cases t <;> rfl
  rw [moveLine, hfront, String.append_assoc, String.toList_append]
  exact List.prefix_append _ _

/-- A text that does not begin like a line that moves the pointer. -/
def Still (text : String) : Prop := ¬ moveFront.toList <+: text.toList

instance (text : String) : Decidable (Still text) := inferInstanceAs (Decidable (¬ _))

theorem Still.ne_moveLine {t : Target} {text : String} (h : Still text) (step : Nat) : text ≠ moveLine t step := by
  rintro rfl
  exact h (prefix_moveLine t step)

theorem Still.append {front : String} (h : Still front) (hfront : ¬ front.toList <+: moveFront.toList) (rest : String) :
    Still (front ++ rest) := by
  intro hprefix
  rw [String.toList_append] at hprefix
  exact (List.prefix_or_prefix_of_prefix hprefix (List.prefix_append ..)).elim h hfront

theorem statement_move (t : Target) (size : Nat) (d : Int64) :
    (dialect t).statement size (.move d) = [⟨0, moveLine t (pointerStep d.toInt size)⟩] := by
  cases t <;> rfl

theorem still_opening (t : Target) (o : Options) (f : Function) : ∀ l ∈ opening t o f, Still l.text := by
  have hword : ∀ front : String, Still front → ¬ front.toList <+: moveFront.toList →
      ∀ word back, Still (front ++ word ++ back) := by
    intro front hstill hfront word back
    rw [String.append_assoc]
    exact hstill.append hfront _
  cases t with
  | rust => exact List.forall_mem_cons.2 ⟨hword "pub fn " (by decide) (by decide) _ _, by decide +kernel⟩
  | csharp =>
    exact List.forall_mem_cons.2 ⟨hword "public static string " (by decide) (by decide) _ _, by decide +kernel⟩
  | python =>
    exact List.forall_mem_cons.2 ⟨hword "def " (by decide) (by decide) _ _,
      List.forall_mem_cons.2 ⟨hword "\"\"\"Compiled from " (by decide) (by decide) _ _, by decide +kernel⟩⟩
  | typescript => exact List.forall_mem_cons.2 ⟨hword "static " (by decide) (by decide) _ _, by decide +kernel⟩
  | go => exact List.forall_mem_cons.2 ⟨hword "func " (by decide) (by decide) _ _, by decide +kernel⟩
  | java => exact List.forall_mem_cons.2 ⟨hword "public static String " (by decide) (by decide) _ _, by decide +kernel⟩

theorem still_closing (t : Target) : ∀ l ∈ closing t, Still l.text := by
  cases t <;> decide +kernel

/-- No fixed line of a dialect moves the pointer. -/
theorem still_dialect (t : Target) :
    (∀ l ∈ (dialect t).increment ++ (dialect t).decrement ++ (dialect t).write ++ (dialect t).read, Still l.text) ∧
    ∀ text ∈ (dialect t).enter ++ (dialect t).leave ++ (dialect t).idle ++ spin (dialect t), Still text := by
  cases t <;> decide +kernel

/-- A line of a statement moves the pointer only if the statement does. -/
theorem still_statement {size : Nat} {s : Statement} {l : Line} (hl : l ∈ (dialect t).statement size s) :
    Still l.text ∨ ∃ d, s = .move d ∧ l.text = moveLine t (pointerStep d.toInt size) := by
  have hfixed := (still_dialect t).1
  simp only [List.mem_append] at hfixed
  cases s with
  | increment => exact .inl (hfixed l (.inl (.inl (.inl hl))))
  | decrement => exact .inl (hfixed l (.inl (.inl (.inr hl))))
  | move d =>
    rw [statement_move, List.mem_singleton] at hl
    exact .inr ⟨d, rfl, congrArg Line.text hl⟩
  | write => exact .inl (hfixed l (.inl (.inr hl)))
  | read => exact .inl (hfixed l (.inr hl))
  | loopOpen => cases hl
  | loopClose => cases hl

theorem still_linesAt {texts : List String} (h : ∀ text ∈ texts, Still text) (depth : Nat) :
    ∀ l ∈ linesAt depth texts, Still l.text :=
  List.forall_mem_map.2 h

/-- A layout of lines is made of the lines of statements and of fixed ones. -/
theorem exists_linesOf_eq (t : Target) (size : Nat) :
    ∃ hollow, lineLayout t size = linesOf (dialect t) size hollow ∧ ∀ depth, ∀ l ∈ hollow depth, Still l.text := by
  have hfixed := (still_dialect t).2
  simp only [List.forall_mem_append] at hfixed
  obtain ⟨⟨⟨henter, hleave⟩, hidle⟩, hspin⟩ := hfixed
  have hflat : ∀ depth, ∀ l ∈ linesAt depth (dialect t).enter ++ linesAt (depth + 1) (dialect t).idle ++
      linesAt depth (dialect t).leave, Still l.text := fun depth =>
    List.forall_mem_append.2 ⟨List.forall_mem_append.2 ⟨still_linesAt henter _, still_linesAt hidle _⟩,
      still_linesAt hleave _⟩
  cases t with
  | rust => exact ⟨_, rfl, hflat⟩
  | csharp => exact ⟨_, rfl, still_linesAt hspin⟩
  | python => exact ⟨_, rfl, hflat⟩
  | typescript => exact ⟨_, rfl, hflat⟩
  | go => exact ⟨_, rfl, still_linesAt hspin⟩
  | java => exact ⟨_, rfl, still_linesAt hspin⟩

/-- The lines of a body move the pointer by the forward distances of its moves. -/
theorem exists_moveLine_iff {size step : Nat} {body : List Statement} (h : flattenAll (nest body) = body) :
    (∃ l ∈ bodyLines t size body, l.text = moveLine t step) ↔
      ∃ d, .move d ∈ body ∧ pointerStep d.toInt size = step := by
  obtain ⟨hollow, hlayout, hhollow⟩ := exists_linesOf_eq t size
  rw [bodyLines_eq h, hlayout]
  have hleaves : Leaves (fun s => s.isBracket = false ∧ s ∈ body) (nest body) :=
    leaves_nest fun s hmem hs => ⟨hs, hmem⟩
  constructor
  · rintro ⟨l, hl, htext⟩
    have hfixed := (still_dialect t).2
    simp only [List.forall_mem_append] at hfixed
    have hstill : ∀ l ∈ (linesOf (dialect t) size hollow).forest (bodyDepth t) (nest body),
        Still l.text ∨ ∃ d, .move d ∈ body ∧ l.text = moveLine t (pointerStep d.toInt size) := by
      refine Layout.forall_mem_forest (fun depth s hs l hl => ?_)
        (fun depth l hl => .inl (still_linesAt hfixed.1.1.1 depth l hl))
        (fun depth l hl => .inl (still_linesAt hfixed.1.1.2 depth l hl))
        (fun depth l hl => .inl (hhollow depth l hl)) hleaves
      obtain ⟨l', hl', rfl⟩ := List.mem_map.1 hl
      exact (still_statement hl').imp_right fun ⟨d, hmove, hd⟩ => ⟨d, hmove ▸ hs.2, hd⟩
    rcases hstill l hl with hstill | ⟨d, hmem, hd⟩
    · exact absurd htext (hstill.ne_moveLine step)
    · exact ⟨d, hmem, moveLine_inj (hd.symm.trans htext)⟩
  · rintro ⟨d, hmem, rfl⟩
    rw [← h] at hmem
    obtain ⟨inner, hinner⟩ := Layout.exists_plain_subset_forest hleaves rfl hmem
    refine ⟨Line.inward inner ⟨0, moveLine t (pointerStep d.toInt size)⟩, hinner ?_, rfl⟩
    simp only [linesOf, statement_move]
    exact List.mem_singleton_self _

/-- The steps in the lines of a function are the forward distances of its moves. -/
theorem prints_iff {step : Nat} (h : flattenAll (nest f.body) = f.body) :
    Prints t o f step ↔ ∃ d, .move d ∈ f.body ∧ pointerStep d.toInt o.tapeSize = step := by
  rw [← exists_moveLine_iff h]
  constructor
  · rintro ⟨l, hl, htext⟩
    rw [functionLines, List.mem_append, List.mem_append] at hl
    rcases hl with (hl | hl) | hl
    · exact absurd htext ((still_opening t o f l hl).ne_moveLine step)
    · exact ⟨l, hl, htext⟩
    · exact absurd htext ((still_closing t l hl).ne_moveLine step)
  · rintro ⟨l, hl, htext⟩
    exact ⟨l, List.mem_append_left _ (List.mem_append_right _ hl), htext⟩

end TapeLang.Reading
