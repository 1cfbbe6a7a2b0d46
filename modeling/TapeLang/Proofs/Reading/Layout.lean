import TapeLang.Code.Dialect
import TapeLang.Proofs.Forest

/-!
# Layouts

A layout writes a forest as a list, with something of its own for a loop without statements. The lines of a dialect
are layouts of the nested blocks: the depth counter of `Dialect.flatLines` is at each statement the depth of that
statement in the forest (`flatLines_flattenAll`), and the quoted blocks go down the forest anyway.
-/

namespace TapeLang.Reading

open Code

variable {α β : Type} {P : Statement → Prop}

/-- What is written for the parts of a forest, by their depth. -/
structure Layout (α : Type) where
  plain : Nat → Statement → List α
  enter : Nat → List α
  leave : Nat → List α
  /-- A loop without statements. -/
  hollow : Nat → List α

namespace Layout

mutual

/-- A block at a depth. -/
def block (p : Layout α) (depth : Nat) : Block → List α
  | .plain s => p.plain depth s
  | .loop body =>
    if body.isEmpty then p.hollow depth
    else p.enter depth ++ p.forest (depth + 1) body ++ p.leave depth

/-- A forest at a depth. -/
def forest (p : Layout α) (depth : Nat) : List Block → List α
  | [] => []
  | b :: rest => p.block depth b ++ p.forest depth rest

end

variable (p : Layout α) (depth : Nat)

@[simp] theorem forest_nil : p.forest depth [] = [] := by
  simp only [forest]

@[simp] theorem forest_plain (s : Statement) (rest : List Block) :
    p.forest depth (.plain s :: rest) = p.plain depth s ++ p.forest depth rest := by
  simp only [forest, block]

@[simp] theorem forest_hollow (rest : List Block) :
    p.forest depth (.loop [] :: rest) = p.hollow depth ++ p.forest depth rest := by
  simp only [forest, block, List.isEmpty_nil, ↓reduceIte]

@[simp] theorem forest_loop (b : Block) (inner rest : List Block) :
    p.forest depth (.loop (b :: inner) :: rest) =
      p.enter depth ++ p.forest (depth + 1) (b :: inner) ++ p.leave depth ++ p.forest depth rest := by
  rw [forest, block, List.isEmpty_cons, if_neg Bool.false_ne_true]

/-- The layout with everything in it replaced. -/
def map (g : α → β) : Layout β where
  plain depth s := (p.plain depth s).map g
  enter depth := (p.enter depth).map g
  leave depth := (p.leave depth).map g
  hollow depth := (p.hollow depth).map g

variable {p depth}

theorem map_forest (g : α → β) {bs : List Block} (h : Leaves P bs) :
    (p.forest depth bs).map g = (p.map g).forest depth bs := by
  induction h generalizing depth with
  | nil => rw [forest_nil, forest_nil, List.map_nil]
  | plain _ _ ih => rw [forest_plain, forest_plain, List.map_append, ih, map]
  | @loop inner rest _ _ ihInner ihRest =>
    cases inner with
    | nil => rw [forest_hollow, forest_hollow, List.map_append, ihRest, map]
    | cons b inner =>
      rw [forest_loop, forest_loop]
      simp only [List.map_append, ihInner, ihRest]
      rfl

/-- What every part of a layout satisfies, a forest satisfies. -/
theorem forall_mem_forest {Q : α → Prop} (hplain : ∀ depth s, P s → ∀ x ∈ p.plain depth s, Q x)
    (henter : ∀ depth, ∀ x ∈ p.enter depth, Q x) (hleave : ∀ depth, ∀ x ∈ p.leave depth, Q x)
    (hhollow : ∀ depth, ∀ x ∈ p.hollow depth, Q x) {bs : List Block} (h : Leaves P bs) :
    ∀ x ∈ p.forest depth bs, Q x := by
  induction h generalizing depth with
  | nil => simp
  | plain hs _ ih =>
    intro x hx
    rw [forest_plain, List.mem_append] at hx
    exact hx.elim (hplain _ _ hs x) (ih x)
  | @loop inner rest _ _ ihInner ihRest =>
    intro x hx
    cases inner with
    | nil =>
      rw [forest_hollow, List.mem_append] at hx
      exact hx.elim (hhollow _ x) (ihRest x)
    | cons b inner =>
      rw [forest_loop] at hx
      simp only [List.mem_append] at hx
      rcases hx with ((hx | hx) | hx) | hx
      · exact henter _ x hx
      · exact ihInner x hx
      · exact hleave _ x hx
      · exact ihRest x hx

/-- What is written for a statement of a forest is written somewhere in the forest. -/
theorem exists_plain_subset_forest {bs : List Block} (h : Leaves P bs) {s : Statement} (hs : s.isBracket = false)
    (hmem : s ∈ flattenAll bs) : ∃ inner, p.plain inner s ⊆ p.forest depth bs := by
  induction h generalizing depth with
  | nil => simp at hmem
  | @plain s' rest _ _ ih =>
    rw [flattenAll_plain, List.mem_cons] at hmem
    rw [forest_plain]
    rcases hmem with rfl | hmem
    · exact ⟨depth, List.subset_append_left ..⟩
    · obtain ⟨inner, hinner⟩ := @ih depth hmem
      exact ⟨inner, List.subset_append_of_subset_right _ hinner⟩
  | @loop body rest _ _ ihBody ihRest =>
    -- the brackets around the loop are no leaves
    have hne : s ≠ .loopOpen ∧ s ≠ .loopClose := by constructor <;> rintro rfl <;> cases hs
    have hparts : s ∈ flattenAll body ∨ s ∈ flattenAll rest := by simpa [hne.1, hne.2] using hmem
    rw [forest, block]
    rcases hparts with hmem | hmem
    · cases body with
      | nil => simp at hmem
      | cons b body =>
        obtain ⟨inner, hinner⟩ := @ihBody (depth + 1) hmem
        refine ⟨inner, List.subset_append_of_subset_left _ ?_⟩
        exact List.subset_append_of_subset_left _ (List.subset_append_of_subset_right _ hinner)
    · obtain ⟨inner, hinner⟩ := @ihRest depth hmem
      exact ⟨inner, List.subset_append_of_subset_right _ hinner⟩

end Layout

/-! ### The layouts of a dialect -/

/-- The lines of a dialect, with given lines for a loop without statements. -/
def linesOf (d : Dialect) (size : Nat) (hollow : Nat → List Line) : Layout Line where
  plain depth s := (d.statement size s).map (·.inward depth)
  enter depth := linesAt depth d.enter
  leave depth := linesAt depth d.leave
  hollow := hollow

/-- The layout of statements with a depth counter. -/
def flatLayout (d : Dialect) (size : Nat) : Layout Line :=
  linesOf d size fun depth => linesAt depth d.enter ++ linesAt (depth + 1) d.idle ++ linesAt depth d.leave

/-- The lines of a loop without statements in a quoted layout, in which its end stays on the line above. -/
def spin (d : Dialect) : List String :=
  d.enter.dropLast ++ [d.enter.getLast?.getD "" ++ d.leave.head?.getD ""] ++ d.leave.tail

/-- The layout by way of nested blocks. -/
def nestedLayout (d : Dialect) (size : Nat) : Layout Line :=
  linesOf d size fun depth => linesAt depth (spin d)

section

variable {d : Dialect} {size depth : Nat} {entered : Bool} {rest : List Statement}

private theorem flatLines_plain {s : Statement} (hs : s.isBracket = false) :
    d.flatLines size depth entered (s :: rest) =
      (d.statement size s).map (·.inward depth) ++ d.flatLines size depth false rest := by
  cases s with
  | loopOpen => nomatch hs
  | loopClose => nomatch hs
  | _ => rfl

/-- Behind the statements of a forest the depth is what it was before them, and a loop has just begun only if it has
begun before them and there are none. -/
theorem flatLines_flattenAll {bs : List Block} (h : Leaves (·.isBracket = false) bs) :
    d.flatLines size depth entered (flattenAll bs ++ rest) =
      (flatLayout d size).forest depth bs ++ d.flatLines size depth (entered && bs.isEmpty) rest := by
  induction h generalizing depth entered rest with
  | nil => simp
  | plain hs _ ih =>
    rw [flattenAll_plain, List.cons_append, flatLines_plain hs, ih, Layout.forest_plain, List.append_assoc]
    simp [flatLayout, linesOf]
  | @loop inner tail _ _ ihInner ihTail =>
    rw [flattenAll_loop, List.cons_append, List.append_assoc, List.cons_append]
    simp only [Dialect.flatLines]
    rw [ihInner]
    simp only [Dialect.flatLines]
    rw [ihTail]
    -- the loop is hollow exactly if it has still just begun at its close
    cases inner with
    | nil => simp [flatLayout, linesOf]
    | cons b inner => simp [flatLayout, linesOf]

theorem flatLines_eq {bs : List Block} (h : Leaves (·.isBracket = false) bs) :
    d.flatLines size depth false (flattenAll bs) = (flatLayout d size).forest depth bs := by
  have hflat : d.flatLines size depth false (flattenAll bs ++ []) = _ := flatLines_flattenAll h
  simpa [Dialect.flatLines] using hflat

/-- Every loop around a line has its own open before it. -/
theorem depth_le_of_mem_flatLines (hd : ∀ s, ∀ l ∈ d.statement size s, l.depth = 0) {body : List Statement} {l : Line}
    (hl : l ∈ d.flatLines size depth entered body) : l.depth ≤ depth + body.length := by
  have hat : ∀ k texts, l ∈ linesAt k texts → l.depth = k := fun k texts h => by
    obtain ⟨text, -, rfl⟩ := List.mem_map.1 h
    rfl
  induction body generalizing depth entered with
  | nil => cases hl
  | cons s rest ih =>
    rw [List.length_cons]
    cases s with
    | loopOpen =>
      rcases List.mem_append.1 hl with hl | hl
      · have := hat _ _ hl
        omega
      · have := ih hl
        omega
    | loopClose =>
      rw [Dialect.flatLines, List.mem_append, List.mem_append] at hl
      rcases hl with (hl | hl) | hl
      · split at hl
        · have := hat _ _ hl
          omega
        · cases hl
      · have := hat _ _ hl
        omega
      · have := ih hl
        omega
    | _ =>
      rcases List.mem_append.1 hl with hl | hl
      · obtain ⟨l', hl', rfl⟩ := List.mem_map.1 hl
        have := hd _ l' hl'
        simp only [Line.inward]
        omega
      · have := ih hl
        omega

end

end TapeLang.Reading
