import TapeLang.Code.Line

/-!
# Rows of a text

A reader sees a text as its rows: each line that is not blank, with the number of spaces before it. The rows of
written lines are those lines again (`rows_writeLines`), if the indent is made of spaces and every line is
`Legible`.
-/

namespace TapeLang.Reading

open Code

/-- A line as it is read: the spaces before it and the rest. -/
structure Row where
  width : Nat
  text : String
  deriving DecidableEq

def Row.ofChars (cs : List Char) : Row :=
  ⟨(cs.takeWhile (· = ' ')).length, String.ofList (cs.dropWhile (· = ' '))⟩

/-- The lines of a text that are not blank. -/
def rows (text : String) : List Row :=
  ((text.toList.splitOn '\n').map Row.ofChars).filter (·.text ≠ "")

/-- The text of one line that is not blank and does not begin with a space. -/
def Legible (text : String) : Prop :=
  text ≠ "" ∧ text.toList.head? ≠ some ' ' ∧ '\n' ∉ text.toList

instance (text : String) : Decidable (Legible text) := inferInstanceAs (Decidable (_ ∧ _))

theorem Row.ofChars_append {cs : List Char} (h : cs.head? ≠ some ' ') (n : Nat) :
    Row.ofChars (List.replicate n ' ' ++ cs) = ⟨n, String.ofList cs⟩ := by
  have hspaces : ∀ c ∈ List.replicate n ' ', decide (c = ' ') = true := fun c hc => by
    rw [List.eq_of_mem_replicate hc]
    rfl
  have hrest : cs.takeWhile (· = ' ') = [] ∧ cs.dropWhile (· = ' ') = cs := by
    cases cs with
    | nil => exact ⟨rfl, rfl⟩
    | cons c cs =>
      have hc : c ≠ ' ' := by simpa using h
      simp [hc]
  unfold Row.ofChars
  rw [List.takeWhile_append_of_pos hspaces, List.dropWhile_append_of_pos hspaces, hrest.1, hrest.2]
  simp

/-- The row of a line under an indent of `width` spaces. -/
def rowOf (width : Nat) (l : Line) : Row := ⟨l.depth * width, l.text⟩

/-- Reading written lines gives them back with their indents. -/
theorem rows_writeLines {unit : String} {width : Nat} (hunit : unit.toList = List.replicate width ' ')
    {lines : List Line} (h : ∀ l ∈ lines, Legible l.text) :
    rows (writeLines unit lines) = lines.map (rowOf width) := by
  unfold rows writeLines
  rw [String.toList_ofList]
  induction lines with
  | nil => rfl
  | cons l rest ih =>
    obtain ⟨htext, hhead, hfeed⟩ := h l (List.mem_cons_self ..)
    have hchars : l.chars unit = List.replicate (l.depth * width) ' ' ++ l.text.toList ++ ['\n'] := by
      rw [Line.chars, if_neg htext, hunit, List.flatten_replicate_replicate]
    have hline : '\n' ∉ List.replicate (l.depth * width) ' ' ++ l.text.toList := by
      rw [List.mem_append, not_or]
      exact ⟨fun hmem => by simpa using List.eq_of_mem_replicate hmem, hfeed⟩
    rw [List.flatMap_cons, hchars, List.append_assoc, List.singleton_append,
      List.splitOn_append_cons_self_of_not_mem hline, List.map_cons, Row.ofChars_append hhead,
      String.ofList_toList, List.filter_cons_of_pos (by simpa using htext),
      ih fun l' hl' => h l' (List.mem_cons_of_mem _ hl'), List.map_cons]
    rfl

end TapeLang.Reading
