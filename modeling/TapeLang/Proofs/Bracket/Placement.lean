import TapeLang.Proofs.Bracket.Spans

/-!
# Nested bodies with the places of their statements

`placeAll i bs` puts into a forest the indices of its statements, those of the two brackets of a loop included, counted
from `i`. Of an accepted program the bracket check and the nested body describe the same loops
(`placed_body_agrees`): the loops of the placed body in preorder are the matched pairs, its leaves are the statements
that are no brackets, and a leaf stands in a loop exactly if its index lies between the open of the loop and its
partner.
-/

namespace TapeLang

/-- A block with the indices of its statements; of a loop those of its opening and its closing bracket. -/
inductive Placed where
  | leaf (index : Nat) (s : Statement)
  | loop (opened closed : Nat) (body : List Placed)

mutual

/-- A block whose first statement stands at index `i`. -/
def Block.place (i : Nat) : Block → Placed
  | .plain s => .leaf i s
  | .loop body => .loop i (i + 1 + (flattenAll body).length) (placeAll (i + 1) body)

/-- A forest whose first statement stands at index `i`. -/
def placeAll (i : Nat) : List Block → List Placed
  | [] => []
  | b :: rest => b.place i :: placeAll (i + b.flatten.length) rest

end

namespace Placed

mutual

/-- A placed block without its indices. -/
def erase : Placed → Block
  | .leaf _ s => .plain s
  | .loop _ _ body => .loop (eraseAll body)

def eraseAll : List Placed → List Block
  | [] => []
  | b :: rest => b.erase :: eraseAll rest

end

mutual

/-- The statements of a placed block, brackets included, with their indices. -/
def statements : Placed → List (Statement × Nat)
  | .leaf i s => [(s, i)]
  | .loop o c body => (.loopOpen, o) :: (statementsAll body ++ [(.loopClose, c)])

def statementsAll : List Placed → List (Statement × Nat)
  | [] => []
  | b :: rest => b.statements ++ statementsAll rest

end

mutual

/-- The leaves of a placed block from left to right, with their indices. -/
def leaves : Placed → List (Statement × Nat)
  | .leaf i s => [(s, i)]
  | .loop _ _ body => leavesAll body

def leavesAll : List Placed → List (Statement × Nat)
  | [] => []
  | b :: rest => b.leaves ++ leavesAll rest

end

mutual

/-- The loops of a placed block in preorder, each with the indices of its brackets and its body. -/
def loops : Placed → List (Nat × Nat × List Placed)
  | .leaf _ _ => []
  | .loop o c body => (o, c, body) :: loopsAll body

def loopsAll : List Placed → List (Nat × Nat × List Placed)
  | [] => []
  | b :: rest => b.loops ++ loopsAll rest

end

end Placed

open Placed

@[simp] theorem placeAll_nil (i : Nat) : placeAll i [] = [] := by
  simp only [placeAll]

@[simp] theorem placeAll_plain (i : Nat) (s : Statement) (rest : List Block) :
    placeAll i (.plain s :: rest) = .leaf i s :: placeAll (i + 1) rest := by
  simp only [placeAll, Block.place, Block.flatten, List.length_singleton]

@[simp] theorem placeAll_loop (i : Nat) (inner rest : List Block) :
    placeAll i (.loop inner :: rest) =
      .loop i (i + 1 + (flattenAll inner).length) (placeAll (i + 1) inner) ::
        placeAll (i + 1 + (flattenAll inner).length + 1) rest := by
  have hlen : i + (Block.loop inner).flatten.length = i + 1 + (flattenAll inner).length + 1 := by
    simp [Block.flatten]
    omega
  rw [placeAll, hlen, Block.place]

section

variable {P : Statement → Prop} {bs : List Block}

theorem eraseAll_placeAll (h : Leaves P bs) (i : Nat) : eraseAll (placeAll i bs) = bs := by
  induction h generalizing i with
  | nil => rfl
  | plain _ _ ih => simp only [placeAll_plain, eraseAll, erase, ih]
  | loop _ _ ihInner ihRest => simp only [placeAll_loop, eraseAll, erase, ihInner, ihRest]

/-- From left to right the statements have consecutive indices. -/
theorem statementsAll_placeAll (h : Leaves P bs) (i : Nat) :
    statementsAll (placeAll i bs) = (flattenAll bs).zipIdx i := by
  induction h generalizing i with
  | nil => rfl
  | plain _ _ ih => simp [statementsAll, statements, ih]
  | loop _ _ ihInner ihRest =>
    simp [statementsAll, statements, ihInner, ihRest, List.zipIdx_append]

/-- The leaves of a placed forest are its statements that are no brackets. -/
theorem leavesAll_placeAll (h : Leaves (·.isBracket = false) bs) (i : Nat) :
    leavesAll (placeAll i bs) = ((flattenAll bs).zipIdx i).filter fun x => !x.1.isBracket := by
  induction h generalizing i with
  | nil => rfl
  | plain hs _ ih => simp [leavesAll, leaves, ih, hs]
  | loop _ _ ihInner ihRest =>
    simp [leavesAll, leaves, ihInner, ihRest, List.zipIdx_append, Statement.isBracket]

/-- The loops of a placed forest have the spans of the forest. -/
theorem loopsAll_placeAll (h : Leaves P bs) (i : Nat) :
    (loopsAll (placeAll i bs)).map (fun l => (l.1, l.2.1)) = spansAll i bs := by
  induction h generalizing i with
  | nil => rfl
  | plain _ _ ih => simp [loopsAll, loops, ih]
  | loop _ _ ihInner ihRest => simp [loopsAll, loops, ihInner, ihRest]

end

/-! ### Leaves inside loops -/

section

variable {bs : List Block} {i : Nat}

theorem leavesAll_bounds (h : Leaves (·.isBracket = false) bs) {x : Statement × Nat}
    (hx : x ∈ leavesAll (placeAll i bs)) : i ≤ x.2 ∧ x.2 < i + (flattenAll bs).length := by
  rw [leavesAll_placeAll h] at hx
  obtain ⟨hle, hlt, -⟩ := List.mem_zipIdx (List.mem_of_mem_filter hx)
  exact ⟨hle, hlt⟩

theorem loopsAll_bounds (h : Leaves (·.isBracket = false) bs) {o c : Nat} {body : List Placed}
    (hl : (o, c, body) ∈ loopsAll (placeAll i bs)) : i ≤ o ∧ o < c ∧ c < i + (flattenAll bs).length := by
  have hspan : (o, c) ∈ spansAll i bs := by
    rw [← loopsAll_placeAll h]
    exact List.mem_map_of_mem hl
  exact spansAll_bounds h hspan

/-- The leaves of a loop stand between its brackets. -/
theorem between_of_mem_body (h : Leaves (·.isBracket = false) bs) {o c : Nat} {body : List Placed}
    (hl : (o, c, body) ∈ loopsAll (placeAll i bs)) {x : Statement × Nat} (hx : x ∈ leavesAll body) :
    o < x.2 ∧ x.2 < c := by
  induction h generalizing i with
  | nil => simp [loopsAll] at hl
  | plain _ _ ih => exact ih (by simpa [loopsAll, loops] using hl)
  | loop hinner _ ihInner ihRest =>
    simp only [placeAll_loop, loopsAll, loops, List.cons_append, List.mem_cons, List.mem_append] at hl
    rcases hl with hl | hl | hl
    · obtain ⟨rfl, rfl, rfl⟩ : o = _ ∧ c = _ ∧ body = _ := by simpa using hl
      have := leavesAll_bounds hinner hx
      omega
    · exact ihInner hl
    · exact ihRest hl

/-- What stands between the brackets of a loop is in its body. -/
theorem mem_body_of_between (h : Leaves (·.isBracket = false) bs) {o c : Nat} {body : List Placed}
    (hl : (o, c, body) ∈ loopsAll (placeAll i bs)) {x : Statement × Nat} (hx : x ∈ leavesAll (placeAll i bs))
    (ho : o < x.2) (hc : x.2 < c) : x ∈ leavesAll body := by
  induction h generalizing i with
  | nil => simp [loopsAll] at hl
  | plain _ hrest ih =>
    simp only [placeAll_plain, loopsAll, loops, List.nil_append] at hl
    simp only [placeAll_plain, leavesAll, leaves, List.singleton_append, List.mem_cons] at hx
    rcases hx with rfl | hx
    · have := loopsAll_bounds hrest hl
      simp only at ho
      omega
    · exact ih hl hx
  | loop hinner hrest ihInner ihRest =>
    simp only [placeAll_loop, loopsAll, loops, List.cons_append, List.mem_cons, List.mem_append] at hl
    simp only [placeAll_loop, leavesAll, leaves, List.mem_append] at hx
    -- a leaf of the loop has an index below the closing bracket, one behind the loop an index above it
    rcases hl with hl | hl | hl
    · obtain ⟨rfl, rfl, rfl⟩ : o = _ ∧ c = _ ∧ body = _ := by simpa using hl
      rcases hx with hx | hx
      · exact hx
      · have := leavesAll_bounds hrest hx
        omega
    · have := loopsAll_bounds hinner hl
      rcases hx with hx | hx
      · exact ihInner hl hx
      · have := leavesAll_bounds hrest hx
        omega
    · have := loopsAll_bounds hrest hl
      rcases hx with hx | hx
      · have := leavesAll_bounds hinner hx
        omega
      · exact ihRest hl hx

end

/-- The bracket check and the nested body of an accepted program describe the same loops. Put into the nested body,
the indices are those of the program; the brackets of its loops are the matched pairs in their order, its leaves are
the statements that are no brackets, and a leaf stands in a loop exactly if its index lies between the open of the
loop and the partner of that open. -/
theorem placed_body_agrees {program : List Occurrence} {m : Matching} (h : matchBrackets program = .ok m) :
    let body := emit program
    let tree := placeAll 0 (nest body)
    (eraseAll tree = nest body ∧ statementsAll tree = body.zipIdx) ∧
    (loopsAll tree).map (fun l => (l.1, l.2.1)) = m.pairs ∧
    leavesAll tree = body.zipIdx.filter (fun x => !x.1.isBracket) ∧
    ∀ o c inner, (o, c, inner) ∈ loopsAll tree → ∀ x ∈ leavesAll tree,
      (x ∈ leavesAll inner ↔ o < x.2 ∧ ∃ p, m.partner o = some p ∧ x.2 < p) := by
  have hleaves := plain_leaves_nest (emit program)
  have hflatten := flattenAll_nest_emit h
  refine ⟨⟨eraseAll_placeAll hleaves 0, ?_⟩, ?_, ?_, ?_⟩
  · rw [statementsAll_placeAll hleaves, hflatten]
  · rw [loopsAll_placeAll hleaves, pairs_eq_spans h]
  · rw [leavesAll_placeAll hleaves, hflatten]
  · intro o c inner hl x hx
    have hspan : (o, c) ∈ spansAll 0 (nest (emit program)) := by
      rw [← loopsAll_placeAll hleaves]
      exact List.mem_map_of_mem hl
    have hpartner := (partner_of_mem_spansAll h hspan).1
    constructor
    · intro hx
      obtain ⟨ho, hc⟩ := between_of_mem_body hleaves hl hx
      exact ⟨ho, c, hpartner, hc⟩
    · rintro ⟨ho, p, hp, hc⟩
      obtain rfl : c = p := Option.some.inj (hpartner.symm.trans hp)
      exact mem_body_of_between hleaves hl hx ho hc

/-- A loop inside another, between two single statements. -/
theorem placed_body_agrees_nested :
    matchBrackets (lex "+[>[-]]<") = .ok ⟨[(1, 6), (3, 5)]⟩ ∧
    (loopsAll (placeAll 0 (nest (emit (lex "+[>[-]]<"))))).map (fun l => (l.1, l.2.1)) = [(1, 6), (3, 5)] := by
  have h : matchBrackets (lex "+[>[-]]<") = .ok ⟨[(1, 6), (3, 5)]⟩ :=
    matchBrackets_eq_ok.2 ⟨[(1, 6), (3, 5)], rfl, by simp [List.mergeSort]⟩
  exact ⟨h, (placed_body_agrees h).2.1⟩

end TapeLang
