import TapeLang.Proofs.Reading.Layout
import TapeLang.Proofs.Reading.Rows

/-!
# Lexemes

The rows of a text become lexemes. In a language with braces these are just the texts of the rows (`braced`); by the
offside rule the margins of the rows also tell where blocks begin and end (`offside`). A flat layout whose loops
have no end lines is read back by the offside rule (`offside_forest`): something always stands inside a loop, so the
row after its head is deeper, and what follows the loop is at most as deep as the head.
-/

namespace TapeLang.Reading

open Code

/-- The text of a row, or the begin or the end of an indented block. -/
inductive Lexeme where
  | line (text : String)
  | indent
  | dedent
  deriving DecidableEq

/-- The lexemes of a language whose rows may be indented freely. -/
def braced (rs : List Row) : List Lexeme := rs.map fun r => .line r.text

/-- The lexemes by the offside rule, where `margins` are those of the blocks around the first row, innermost first. A
deeper row begins a block; a row that is less deep ends blocks until it stands at the margin of one. -/
def offside : (margins : List Nat) → List Row → Option (List Lexeme)
  | [], _ => none
  | [_], [] => some []
  | _ :: m :: outer, [] => (offside (m :: outer) []).map (.dedent :: ·)
  | m :: outer, r :: rest =>
    if r.width = m then (offside (m :: outer) rest).map (.line r.text :: ·)
    else if m < r.width then (offside (r.width :: m :: outer) rest).map fun ls => .indent :: .line r.text :: ls
    else (offside outer (r :: rest)).map (.dedent :: ·)
termination_by margins rs => (rs.length, margins.length)

section

variable {m : Nat} {outer : List Nat} {rest : List Row}

theorem offside_line (text : String) :
    offside (m :: outer) (⟨m, text⟩ :: rest) = (offside (m :: outer) rest).map (.line text :: ·) := by
  rw [offside, if_pos rfl]

theorem offside_lines (texts : List String) :
    offside (m :: outer) (texts.map (Row.mk m) ++ rest) =
      (offside (m :: outer) rest).map (texts.map .line ++ ·) := by
  induction texts with
  | nil => simp
  | cons text texts ih =>
    rw [List.map_cons, List.cons_append, offside_line, ih, Option.map_map]
    rfl

/-- A deeper row begins a block at its margin. -/
theorem offside_indent {r : Row} (h : m < r.width) :
    offside (m :: outer) (r :: rest) = (offside (r.width :: m :: outer) (r :: rest)).map (.indent :: ·) := by
  rw [offside, if_neg (by omega), if_pos h, offside_line, Option.map_map]
  rfl

/-- Rows at a margin before a deeper row are the head of a block. -/
theorem offside_enter {inner : Nat} (h : m < inner) (texts : List String) (text : String) :
    offside (m :: outer) (texts.map (Row.mk m) ++ ⟨inner, text⟩ :: rest) =
      (offside (inner :: m :: outer) (⟨inner, text⟩ :: rest)).map (texts.map .line ++ [.indent] ++ ·) := by
  rw [offside_lines, offside_indent h, Option.map_map]
  simp only [Function.comp_def, List.append_assoc, List.singleton_append]

/-- A block ends at the first row that is not as deep as its margin, or after the last row. -/
theorem offside_dedent {inner : Nat} (h : ∀ r ∈ rest.head?, r.width < inner) :
    offside (inner :: m :: outer) rest = (offside (m :: outer) rest).map (.dedent :: ·) := by
  cases rest with
  | nil => rw [offside]
  | cons r rest =>
    have hr := h r rfl
    rw [offside, if_neg (by omega), if_neg (by omega)]

end

/-! ### Layouts by the offside rule -/

/-- A dialect that ends its loops by the indent alone. -/
structure Flush (d : Dialect) (size : Nat) : Prop where
  statement : ∀ s, s.isBracket = false → ∃ text texts, d.statement size s = linesAt 0 (text :: texts)
  enter : d.enter ≠ []
  idle : d.idle ≠ []
  leave : d.leave = []

/-- What the offside rule makes of a layout. -/
def offsideLayout (d : Dialect) (size : Nat) : Layout Lexeme where
  plain _ s := (d.statement size s).map fun l => .line l.text
  enter _ := d.enter.map .line ++ [.indent]
  leave _ := [.dedent]
  hollow _ := d.enter.map .line ++ [.indent] ++ d.idle.map .line ++ [.dedent]

/-- What a reader of braces makes of a layout. -/
def bracedLayout (p : Layout Line) : Layout Lexeme := p.map fun l => .line l.text

theorem braced_forest {P : Statement → Prop} (p : Layout Line) (width depth : Nat) {bs : List Block}
    (h : Leaves P bs) :
    braced ((p.forest depth bs).map (rowOf width)) = (bracedLayout p).forest depth bs := by
  rw [bracedLayout, ← Layout.map_forest _ h, braced, List.map_map]
  rfl

private theorem map_rowOf_linesAt (width depth : Nat) (texts : List String) :
    (linesAt depth texts).map (rowOf width) = texts.map (Row.mk (depth * width)) := by
  rw [linesAt, List.map_map]
  rfl

section

variable {d : Dialect} {size : Nat}

/-- The lines of a forest begin at its depth. -/
private theorem forest_eq_cons (hd : Flush d size) {b : Block} {bs : List Block}
    (h : Leaves (·.isBracket = false) (b :: bs)) (depth : Nat) :
    ∃ text lines, (flatLayout d size).forest depth (b :: bs) = ⟨depth, text⟩ :: lines := by
  obtain ⟨e, es, he⟩ := List.exists_cons_of_ne_nil hd.enter
  cases h with
  | @plain s _ hs _ =>
    obtain ⟨text, texts, htexts⟩ := hd.statement s hs
    simp [flatLayout, linesOf, htexts, linesAt, Line.inward]
  | @loop inner _ _ _ =>
    cases inner with
    | nil => simp [flatLayout, linesOf, he, linesAt]
    | cons b inner => simp [flatLayout, linesOf, he, linesAt]

/-- The rows of a forest, read at its margin, give the lexemes of its layout, whatever follows them that is less deep
than an inner loop. -/
theorem offside_forest (hd : Flush d size) {width : Nat} (hwidth : 0 < width) {bs : List Block}
    (h : Leaves (·.isBracket = false) bs) {depth : Nat} {outer : List Nat} {more : List Row}
    (hmore : ∀ r ∈ more.head?, r.width < (depth + 1) * width) :
    offside (depth * width :: outer) (((flatLayout d size).forest depth bs).map (rowOf width) ++ more) =
      (offside (depth * width :: outer) more).map ((offsideLayout d size).forest depth bs ++ ·) := by
  have hdeeper : ∀ depth, depth * width < (depth + 1) * width := fun depth => by
    rw [Nat.succ_mul]
    omega
  induction h generalizing depth outer more with
  | nil => simp
  | @plain s rest hs hrest ih =>
    obtain ⟨text, texts, htexts⟩ := hd.statement s hs
    have hrows : ((flatLayout d size).plain depth s).map (rowOf width) =
        (text :: texts).map (Row.mk (depth * width)) := by
      rw [← map_rowOf_linesAt]
      simp [flatLayout, linesOf, htexts, linesAt, Line.inward]
    have hlexemes : (offsideLayout d size).plain depth s = (text :: texts).map .line := by
      simp [offsideLayout, htexts, linesAt]
    rw [Layout.forest_plain, Layout.forest_plain, List.map_append, hrows, List.append_assoc, offside_lines,
      ih hmore, Option.map_map, hlexemes]
    simp only [Function.comp_def, List.append_assoc]
  | @loop inner rest hinner hrest ihInner ihRest =>
    -- what follows the loop is less deep than anything inside of it
    have hafter : ∀ r ∈ (((flatLayout d size).forest depth rest).map (rowOf width) ++ more).head?,
        r.width < (depth + 1) * width := by
      cases rest with
      | nil => simpa using hmore
      | cons b rest =>
        obtain ⟨text, lines, hlines⟩ := forest_eq_cons hd hrest depth
        rw [hlines]
        simpa [rowOf] using hdeeper depth
    cases inner with
    | nil =>
      obtain ⟨i, is, hi⟩ := List.exists_cons_of_ne_nil hd.idle
      have hrows : ((flatLayout d size).hollow depth).map (rowOf width) =
          d.enter.map (Row.mk (depth * width)) ++ (i :: is).map (Row.mk ((depth + 1) * width)) := by
        rw [← map_rowOf_linesAt, ← map_rowOf_linesAt, ← hi]
        simp [flatLayout, linesOf, hd.leave, linesAt]
      have hlexemes : (offsideLayout d size).hollow depth =
          d.enter.map .line ++ [.indent] ++ ((i :: is).map .line ++ [.dedent]) := by
        rw [← hi, ← List.append_assoc]
        rfl
      rw [Layout.forest_hollow, Layout.forest_hollow, List.map_append, hrows, List.append_assoc, List.append_assoc,
        List.map_cons, List.cons_append, offside_enter (hdeeper depth), ← List.cons_append, ← List.map_cons,
        offside_lines, offside_dedent hafter, ihRest hmore, hlexemes]
      simp only [Option.map_map, Function.comp_def, List.append_assoc, List.cons_append, List.nil_append]
    | cons b inner =>
      obtain ⟨text, lines, hlines⟩ := forest_eq_cons hd hinner (depth + 1)
      have hrows : ((flatLayout d size).enter depth).map (rowOf width) = d.enter.map (Row.mk (depth * width)) :=
        map_rowOf_linesAt ..
      have henter : (offsideLayout d size).enter depth = d.enter.map .line ++ [.indent] := rfl
      have hexit : (offsideLayout d size).leave depth = [.dedent] := rfl
      have hleave : (flatLayout d size).leave depth = [] := by
        simp [flatLayout, linesOf, hd.leave, linesAt]
      have hinside : ((flatLayout d size).forest (depth + 1) (b :: inner)).map (rowOf width) =
          ⟨(depth + 1) * width, text⟩ :: lines.map (rowOf width) := by
        rw [hlines]
        rfl
      have hfurther := fun r hr => Nat.lt_trans (hafter r hr) (hdeeper (depth + 1))
      rw [Layout.forest_loop, Layout.forest_loop, hleave, List.append_nil]
      simp only [List.map_append, List.append_assoc]
      rw [hrows, hinside, List.cons_append, offside_enter (hdeeper depth), ← List.cons_append, ← hinside,
        ihInner hfurther, offside_dedent hafter, ihRest hmore, henter, hexit]
      simp only [Option.map_map, Function.comp_def, List.append_assoc, List.singleton_append]

end

end TapeLang.Reading
