import TapeLang.Code.Render
import TapeLang.Proofs.ClassTemplate
import TapeLang.Proofs.Quoted.Files
import TapeLang.Proofs.Reading.Targets

/-!
# The text of a class template

What the class template makes of a function is the text of its lines (`eq_writeLines_of_concat`), as
long as twice the depth of a line fits in 64 bits. A rendered module holds the text of the method of every function
(`Template.infix_of_render`).
-/

namespace TapeLang.Code

namespace Template

variable {f : Value → Except TemplateError String} {v : Value} {vs : List Value} {text : String}

/-- The text of every part stands in the whole. -/
theorem infix_of_concat (h : concat f vs = .ok text) (hv : v ∈ vs) :
    ∃ part, f v = .ok part ∧ part.toList <:+: text.toList := by
  induction vs generalizing text with
  | nil => cases hv
  | cons w vs ih =>
    obtain ⟨a, ha, hrest⟩ := bind_eq_ok.1 h
    obtain ⟨b, hb, hab⟩ := bind_eq_ok.1 hrest
    obtain rfl := Except.ok.inj hab
    rw [String.toList_append]
    rcases List.mem_cons.1 hv with rfl | hv
    · exact ⟨a, ha, List.infix_append_left⟩
    · obtain ⟨part, hpart, hinfix⟩ := ih hb hv
      exact ⟨part, hpart, List.infix_append_of_infix_right hinfix⟩

theorem exists_concat (h : ∀ v ∈ vs, ∃ a, f v = .ok a) : ∃ text, concat f vs = .ok text := by
  induction vs with
  | nil => exact ⟨"", rfl⟩
  | cons v vs ih =>
    obtain ⟨a, ha⟩ := h v (List.mem_cons_self ..)
    obtain ⟨b, hb⟩ := ih fun w hw => h w (List.mem_cons_of_mem _ hw)
    exact ⟨a ++ b, bind_eq_ok.2 ⟨a, ha, bind_eq_ok.2 ⟨b, hb, rfl⟩⟩⟩

/-- The text of every method stands in that of all of them. -/
theorem infix_of_methods (h : methods vs = .ok text) (hv : v ∈ vs) :
    ∃ part, method v = .ok part ∧ part.toList <:+: text.toList := by
  cases vs with
  | nil => cases hv
  | cons w vs =>
    obtain ⟨a, ha, hrest⟩ := bind_eq_ok.1 h
    obtain ⟨b, hb, hab⟩ := bind_eq_ok.1 hrest
    obtain rfl := Except.ok.inj hab
    rw [String.toList_append]
    rcases List.mem_cons.1 hv with rfl | hv
    · exact ⟨a, ha, List.infix_append_left⟩
    · -- the methods behind the first one have an empty line before them
      obtain ⟨line, hline, hinfix⟩ := infix_of_concat hb hv
      obtain ⟨part, hpart, heq⟩ := bind_eq_ok.1 hline
      obtain rfl := Except.ok.inj heq
      rw [String.toList_append] at hinfix
      exact ⟨part, hpart, List.infix_append_of_infix_right (List.infix_append_right.trans hinfix)⟩

theorem exists_methods (h : ∀ v ∈ vs, ∃ a, method v = .ok a) : ∃ text, methods vs = .ok text := by
  cases vs with
  | nil => exact ⟨"", rfl⟩
  | cons v vs =>
    obtain ⟨a, ha⟩ := h v (List.mem_cons_self ..)
    have hrest : ∀ w ∈ vs, ∃ b, (do return "\n" ++ (← method w)) = Except.ok b := fun w hw => by
      obtain ⟨b, hb⟩ := h w (List.mem_cons_of_mem _ hw)
      exact ⟨_, bind_eq_ok.2 ⟨b, hb, rfl⟩⟩
    obtain ⟨b, hb⟩ := exists_concat hrest
    exact ⟨a ++ b, bind_eq_ok.2 ⟨a, ha, bind_eq_ok.2 ⟨b, hb, rfl⟩⟩⟩

/-- The text of the method of every function stands in the module. -/
theorem infix_of_render {context : Value} (h : render context = .ok text)
    (hitems : itemsAt 10 (context.field? "functions") = .ok vs) (hv : v ∈ vs) :
    ∃ part, method v = .ok part ∧ part.toList <:+: text.toList := by
  rw [render_eq] at h
  obtain ⟨top, -, hrest⟩ := bind_eq_ok.1 h
  obtain ⟨items, hitems', hrest⟩ := bind_eq_ok.1 hrest
  obtain ⟨body, hbody, htext⟩ := bind_eq_ok.1 hrest
  obtain rfl := Except.ok.inj (hitems.symm.trans hitems')
  obtain rfl := Except.ok.inj htext
  obtain ⟨part, hpart, hinfix⟩ := infix_of_methods hbody hv
  refine ⟨part, hpart, ?_⟩
  simp only [String.toList_append]
  exact List.infix_append_of_infix_left (List.infix_append_of_infix_right hinfix)

theorem exists_render {context : Value} {lines : List Value}
    (hlines : itemsAt 2 (context.field? "provenance") = .ok lines)
    (hitems : itemsAt 10 (context.field? "functions") = .ok vs) (h : ∀ v ∈ vs, ∃ a, method v = .ok a) :
    ∃ text, render context = .ok text := by
  have hheader : ∃ top, header context = .ok top := by
    by_cases htrue : Value.isTrue (context.field? "provenance") = true
    · obtain ⟨top, htop⟩ : ∃ top, concat (fun v => .ok ("// " ++ Value.written (some v) ++ "\n")) lines = .ok top :=
        exists_concat fun v _ => ⟨_, rfl⟩
      exact ⟨_, (if_pos htrue).trans (bind_eq_ok.2 ⟨lines, hlines, bind_eq_ok.2 ⟨top, htop, rfl⟩⟩)⟩
    · exact ⟨"", if_neg htrue⟩
  obtain ⟨top, htop⟩ := hheader
  obtain ⟨body, hbody⟩ := exists_methods h
  rw [render_eq]
  exact ⟨_, bind_eq_ok.2 ⟨top, htop, bind_eq_ok.2 ⟨vs, hitems, bind_eq_ok.2 ⟨body, hbody, rfl⟩⟩⟩⟩

end Template

/-! ### Lines -/

open Reading (Legible)

private theorem textLinesFrom_of_not_mem {cs : List Char} (h : '\n' ∉ cs) (line : List Char) (hne : line ++ cs ≠ []) :
    textLinesFrom line cs = [line.reverse ++ cs] := by
  induction cs generalizing line with
  | nil => simp_all [textLinesFrom]
  | cons c cs ih =>
    obtain ⟨hc, hcs⟩ := not_or.1 (mt List.mem_cons.2 h)
    have hstep : textLinesFrom line (c :: cs) = textLinesFrom (c :: line) cs := if_neg (Ne.symm hc)
    rw [hstep, ih hcs _ (by simp)]
    simp

/-- A legible line is indented as it is written. -/
theorem indentText_eq {l : Line} (h : Legible l.text) :
    indentText (l.depth * 2) l.text ++ "\n" = writeLines "  " [l] := by
  obtain ⟨hne, -, hfeed⟩ := h
  have hchars : l.text.toList ≠ [] := by simpa using hne
  have hspaces : [' ', ' '] = List.replicate 2 ' ' := rfl
  have hindent : (List.replicate l.depth [' ', ' ']).flatten = List.replicate (l.depth * 2) ' ' := by
    rw [hspaces, List.flatten_replicate_replicate]
  unfold indentText writeLines
  rw [textLinesFrom_of_not_mem hfeed [] hchars]
  apply String.toList_injective
  simp [Line.chars, hne, hindent]

private theorem count_twice {n : Nat} (h : n * 2 < Number.bound 64) :
    Value.count? (.int (n * 2)) = some (n * 2) := by
  have hbound : (0 : Int) ≤ n * 2 ∧ (n * 2 : Int) < Number.bound 64 := by omega
  have hwidth : ((n : Int) * 2).toNat = n * 2 := by omega
  rw [Value.count?, if_pos hbound, hwidth]

private theorem count_twice_eq_none {n : Nat} (h : ¬ n * 2 < Number.bound 64) :
    Value.count? (.int (n * 2)) = none := by
  have hbound : ¬ ((0 : Int) ≤ n * 2 ∧ (n * 2 : Int) < Number.bound 64) := by omega
  rw [Value.count?, if_neg hbound]

private theorem bodyLine_eq {v w : Value} {text : String} (hdepth : Value.twice? (v.field? "depth") = some w)
    (htext : v.field? "text" = some (.text text)) :
    Template.bodyLine v =
      match w.count? with
      | some n => .ok (indentText n text ++ "\n")
      | none => .error (.notCount (Value.kind (some w)) 21) := by
  cases hcount : w.count? with
  | none => simp only [Template.bodyLine, hdepth, htext, hcount]
  | some n => simp only [Template.bodyLine, hdepth, htext, hcount]

private theorem twice_depth (l : Line) : Value.twice? ((lineValue l).field? "depth") = some (.int (l.depth * 2)) := by
  simp [lineValue, Value.field?, Value.twice?]

private theorem field_text (l : Line) : (lineValue l).field? "text" = some (.text l.text) := by
  simp [lineValue, Value.field?]

/-- A line of a method is written with two spaces for each of its levels. -/
theorem bodyLine_lineValue {l : Line} (h : Legible l.text) (hdepth : l.depth * 2 < Number.bound 64) :
    Template.bodyLine (lineValue l) = .ok (writeLines "  " [l]) := by
  rw [bodyLine_eq (twice_depth l) (field_text l), count_twice hdepth, ← indentText_eq h]

private theorem eq_of_bodyLine {l : Line} (h : Legible l.text) {text : String}
    (htext : Template.bodyLine (lineValue l) = .ok text) : text = writeLines "  " [l] := by
  by_cases hdepth : l.depth * 2 < Number.bound 64
  · rw [bodyLine_lineValue h hdepth] at htext
    exact (Except.ok.inj htext).symm
  · rw [bodyLine_eq (twice_depth l) (field_text l), count_twice_eq_none hdepth] at htext
    cases htext

/-- The body of a method is the text of its lines. -/
theorem eq_writeLines_of_concat {lines : List Line} (h : ∀ l ∈ lines, Legible l.text) {text : String}
    (htext : Template.concat Template.bodyLine (lines.map lineValue) = .ok text) :
    text = writeLines "  " lines := by
  induction lines generalizing text with
  | nil => exact (Except.ok.inj htext).symm
  | cons l rest ih =>
    obtain ⟨a, ha, hrest⟩ := bind_eq_ok.1 htext
    obtain ⟨b, hb, hab⟩ := bind_eq_ok.1 hrest
    obtain rfl := Except.ok.inj hab
    rw [writeLines_cons, ← eq_of_bodyLine (h l (List.mem_cons_self ..)) ha,
      ← ih (fun l' hl' => h l' (List.mem_cons_of_mem _ hl')) hb]

end TapeLang.Code
