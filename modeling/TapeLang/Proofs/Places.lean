import Mathlib.Data.Nat.Find
import Mathlib.Data.Prod.Lex
import TapeLang.Proofs.Forest
import TapeLang.Proofs.Lexing

/-!
# Places in a text

The place of an index is read off the characters before it: their number, the line feeds among them, and the distance
from the last of these (`placeAt`). One character leads from the place of its index to the next (`placeAt_succ`), so the
lexer gives every symbol the place of its index (`lexFrom_placeAt`). Places increase line by line and column by column
(`placeAt_lt`), and a text behind another one has the same places, shifted (`lexFrom_behind`).
-/

namespace TapeLang

/-- The index behind the last line feed before index `i`, or zero if there is none. -/
def lineStart (cs : List Char) (i : Nat) : Nat := Nat.findGreatest (fun b => cs[b - 1]? = some '\n') i

/-- The place of the character with index `i`. -/
def placeAt (cs : List Char) (i : Nat) : Position := ⟨i, 1 + (cs.take i).count '\n', i - lineStart cs i + 1⟩

/-- The symbol that a character stands for, with the place of its index. -/
def occurrenceAt? (cs : List Char) (c : Char) (i : Nat) : Option Occurrence :=
  (Symbol.ofChar? c).map fun s => ⟨s, placeAt cs i⟩

namespace Position

/-- Line and column, in their order. -/
def lineColumn (p : Position) : Nat ×ₗ Nat := toLex (p.line, p.column)

/-- A place of a text when `front` is put before it. Only on its first line do columns begin behind the last line of
`front`. -/
def behind (front : List Char) (p : Position) : Position :=
  ⟨front.length + p.offset, front.count '\n' + p.line,
    if p.line = 1 then front.length - lineStart front front.length + p.column else p.column⟩

end Position

theorem placeAt_zero (cs : List Char) : placeAt cs 0 = .start := by
  simp [placeAt, lineStart, Position.start]

/-- A character leads from the place of its index to the place of the next. -/
theorem placeAt_succ {cs : List Char} {i : Nat} {c : Char} (h : cs[i]? = some c) :
    placeAt cs (i + 1) = (placeAt cs i).after c := by
  have hcount : (cs.take (i + 1)).count '\n' = (cs.take i).count '\n' + if c = '\n' then 1 else 0 := by
    rw [List.take_add_one, h, List.count_append]
    simp [List.count_singleton]
  have hstart : lineStart cs (i + 1) = if c = '\n' then i + 1 else lineStart cs i := by
    rw [lineStart, Nat.findGreatest_succ, Nat.add_sub_cancel, h, lineStart]
    simp
  have hle : lineStart cs i ≤ i := Nat.findGreatest_le i
  rw [placeAt, placeAt, Position.after, hcount, hstart]
  split
  · simp [Nat.add_assoc]
  · simp only [Nat.add_zero, Position.mk.injEq, true_and]
    omega

/-- The lexer gives each symbol the place of its index. -/
theorem lexFrom_placeAt {cs rest : List Char} {i : Nat} (h : cs.drop i = rest) :
    lexFrom (placeAt cs i) rest = (rest.zipIdx i).filterMap fun (c, j) => occurrenceAt? cs c j := by
  induction rest generalizing i with
  | nil => rfl
  | cons c rest ih =>
    obtain ⟨hget, hdrop⟩ := drop_eq_cons h
    rw [lexFrom, List.zipIdx_cons, List.filterMap_cons, ← placeAt_succ hget, ih hdrop]
    cases hc : Symbol.ofChar? c <;> simp only [occurrenceAt?, hc, Option.map_some, Option.map_none]

theorem foldl_after_placeAt {cs rest : List Char} {i : Nat} (h : cs.drop i = rest) :
    rest.foldl .after (placeAt cs i) = placeAt cs (i + rest.length) := by
  induction rest generalizing i with
  | nil => rfl
  | cons c rest ih =>
    obtain ⟨hget, hdrop⟩ := drop_eq_cons h
    rw [List.foldl_cons, ← placeAt_succ hget, ih hdrop, List.length_cons, Nat.add_assoc, Nat.add_comm 1]

/-! ### The order of places -/

theorem Position.lineColumn_lt_after (p : Position) (c : Char) : p.lineColumn < (p.after c).lineColumn := by
  unfold after lineColumn
  rw [Prod.Lex.toLex_lt_toLex]
  split
  · exact .inl (Nat.lt_succ_self _)
  · exact .inr ⟨rfl, Nat.lt_succ_self _⟩

/-- Lines and columns increase with the index. -/
theorem placeAt_lt {cs : List Char} {i j : Nat} (hij : i < j) (hj : j ≤ cs.length) :
    (placeAt cs i).lineColumn < (placeAt cs j).lineColumn := by
  have hstep {k : Nat} (hk : k < cs.length) : (placeAt cs k).lineColumn < (placeAt cs (k + 1)).lineColumn := by
    rw [placeAt_succ (List.getElem?_eq_getElem hk)]
    exact Position.lineColumn_lt_after ..
  induction j, hij using Nat.le_induction with
  | base => exact hstep hj
  | succ j _ ih => exact (ih (Nat.le_of_succ_le hj)).trans (hstep hj)

theorem position_of_mem_lex {text : String} {o : Occurrence} (h : o ∈ lex text) :
    o.position.offset < text.toList.length ∧ o.position = placeAt text.toList o.position.offset := by
  rw [lex, ← placeAt_zero text.toList, lexFrom_placeAt List.drop_zero] at h
  obtain ⟨⟨c, i⟩, hmem, ho⟩ := List.mem_filterMap.1 h
  obtain ⟨s, -, rfl⟩ := Option.map_eq_some_iff.1 ho
  obtain ⟨-, hi, -⟩ := List.mem_zipIdx hmem
  exact ⟨by simpa [placeAt] using hi, rfl⟩

theorem lineColumn_lt_of_offset_lt {text : String} {a b : Occurrence} (ha : a ∈ lex text) (hb : b ∈ lex text)
    (h : a.position.offset < b.position.offset) : a.position.lineColumn < b.position.lineColumn := by
  obtain ⟨-, hpa⟩ := position_of_mem_lex ha
  obtain ⟨hlt, hpb⟩ := position_of_mem_lex hb
  rw [hpa, hpb]
  exact placeAt_lt h (Nat.le_of_lt hlt)

/-! ### Texts behind texts -/

theorem lexFrom_append (p : Position) (as bs : List Char) :
    lexFrom p (as ++ bs) = lexFrom p as ++ lexFrom (as.foldl .after p) bs := by
  induction as generalizing p with
  | nil => rfl
  | cons c as ih =>
    rw [List.cons_append, lexFrom, lexFrom, ih, List.foldl_cons]
    cases Symbol.ofChar? c <;> rfl

theorem Position.after_behind {p : Position} (hp : 1 ≤ p.line) (front : List Char) (c : Char) :
    (p.behind front).after c = (p.after c).behind front := by
  unfold after behind
  by_cases hc : c = '\n'
  · have hline : p.line ≠ 0 := by omega
    simp [hc, hline, Nat.add_assoc]
  · simp only [hc, ↓reduceIte, Nat.add_assoc, Position.mk.injEq, true_and]
    split <;> omega

theorem Position.one_le_line_after {p : Position} (hp : 1 ≤ p.line) (c : Char) : 1 ≤ (p.after c).line := by
  unfold after
  split
  · exact Nat.le_add_left 1 p.line
  · exact hp

theorem lexFrom_behind {p : Position} (hp : 1 ≤ p.line) (front cs : List Char) :
    lexFrom (p.behind front) cs = (lexFrom p cs).map fun o => { o with position := o.position.behind front } := by
  induction cs generalizing p with
  | nil => rfl
  | cons c cs ih =>
    rw [lexFrom, lexFrom, Position.after_behind hp, ih (Position.one_le_line_after hp c)]
    cases Symbol.ofChar? c <;> rfl

theorem placeAt_length (cs : List Char) : placeAt cs cs.length = Position.start.behind cs := by
  simp [placeAt, Position.behind, Position.start, Nat.add_comm]

theorem lex_append (a b : String) :
    lex (a ++ b) = lex a ++ (lex b).map fun o => { o with position := o.position.behind a.toList } := by
  have hend : a.toList.foldl .after .start = Position.start.behind a.toList := by
    rw [← placeAt_length, ← placeAt_zero a.toList, foldl_after_placeAt List.drop_zero, Nat.zero_add]
  rw [lex, String.toList_append, lexFrom_append, hend, lexFrom_behind (Nat.le_refl 1), ← lex, ← lex]

/-- The symbols of a text are those of its characters in order, each with the place of its index; offsets increase, and
lines and columns with them, so that they determine the offset; and behind another text the symbols are the same, at
places shifted by its length, its line feeds and, on the first line, its last line. -/
theorem lex_keeps_places :
    (∀ text, lex text = text.toList.zipIdx.filterMap fun (c, i) => occurrenceAt? text.toList c i) ∧
    (∀ text, (lex text).Pairwise fun a b =>
      a.position.offset < b.position.offset ∧ a.position.lineColumn < b.position.lineColumn) ∧
    (∀ text, ∀ a ∈ lex text, ∀ b ∈ lex text, a.position.lineColumn = b.position.lineColumn →
      a.position.offset = b.position.offset) ∧
    (∀ a b, lex (a ++ b) = lex a ++ (lex b).map fun o => { o with position := o.position.behind a.toList }) := by
  refine ⟨fun text => ?_, fun text => ?_, fun text a ha b hb h => ?_, lex_append⟩
  · rw [← lexFrom_placeAt List.drop_zero, placeAt_zero, lex]
  · exact (lexFrom_pairwise _ _).imp_of_mem fun ha hb h => ⟨h, lineColumn_lt_of_offset_lt ha hb h⟩
  · rcases Nat.lt_trichotomy a.position.offset b.position.offset with hlt | heq | hgt
    · exact absurd h (lineColumn_lt_of_offset_lt ha hb hlt).ne
    · exact heq
    · exact absurd h (lineColumn_lt_of_offset_lt hb ha hgt).ne'

/-- Behind a text with a line feed the first line is shifted by the rest after it, the second is not. -/
example : (lex ("é\n[" ++ "+\n]")).map (·.position) = [⟨2, 2, 1⟩, ⟨3, 2, 2⟩, ⟨5, 3, 1⟩] := by decide

end TapeLang
