import TapeLang.Block

/-!
# Forests and their statements

A forest is a list of blocks. `Leaves P` says that every statement in it satisfies `P`; when no leaf is a bracket,
`nest` reads the flattened forest back (`nest_flattenAll`). On an arbitrary list of statements `nest` mends the
brackets first: flattening what it reads gives `mend 0 body` (`flattenAll_nest`), which is `body` itself when the
brackets of `body` match.
-/

namespace TapeLang

/-- Every leaf of a forest satisfies `P`. -/
inductive Leaves (P : Statement → Prop) : List Block → Prop where
  | nil : Leaves P []
  | plain {s : Statement} {rest : List Block} (hs : P s) (hrest : Leaves P rest) : Leaves P (.plain s :: rest)
  | loop {inner rest : List Block} (hinner : Leaves P inner) (hrest : Leaves P rest) :
      Leaves P (.loop inner :: rest)

namespace Leaves

variable {P Q : Statement → Prop}

theorem mono {bs : List Block} (h : Leaves P bs) (hPQ : ∀ s, P s → Q s) : Leaves Q bs := by
  induction h with
  | nil => exact .nil
  | plain hs _ ih => exact .plain (hPQ _ hs) ih
  | loop _ _ ihInner ihRest => exact .loop ihInner ihRest

theorem append {as bs : List Block} (ha : Leaves P as) (hb : Leaves P bs) : Leaves P (as ++ bs) := by
  induction ha with
  | nil => exact hb
  | plain hs _ ih => exact .plain hs ih
  | loop hinner _ _ ih => exact .loop hinner ih

theorem reverse {bs : List Block} (h : Leaves P bs) : Leaves P bs.reverse := by
  induction h with
  | nil => exact .nil
  | plain hs _ ih =>
    rw [List.reverse_cons]
    exact ih.append (.plain hs .nil)
  | loop hinner _ _ ih =>
    rw [List.reverse_cons]
    exact ih.append (.loop hinner .nil)

end Leaves

/-- The first element behind an index and what follows it. -/
theorem drop_eq_cons {α : Type} {l rest : List α} {i : Nat} {a : α} (h : l.drop i = a :: rest) :
    l[i]? = some a ∧ l.drop (i + 1) = rest := by
  constructor
  · rw [← List.head?_drop, h, List.head?_cons]
  · rw [← List.tail_drop, h, List.tail_cons]

/-! ### Flattening -/

@[simp] theorem flattenAll_nil : flattenAll [] = [] := by
  simp only [flattenAll]

@[simp] theorem flattenAll_plain (s : Statement) (rest : List Block) :
    flattenAll (.plain s :: rest) = s :: flattenAll rest := by
  simp only [flattenAll, Block.flatten, List.singleton_append]

@[simp] theorem flattenAll_loop (inner rest : List Block) :
    flattenAll (.loop inner :: rest) =
      .loopOpen :: (flattenAll inner ++ .loopClose :: flattenAll rest) := by
  simp only [flattenAll, Block.flatten, List.cons_append, List.append_assoc, List.nil_append]

@[simp] theorem flattenAll_append (as bs : List Block) :
    flattenAll (as ++ bs) = flattenAll as ++ flattenAll bs := by
  induction as with
  | nil => rw [flattenAll_nil, List.nil_append, List.nil_append]
  | cons b rest ih => simp only [List.cons_append, flattenAll, ih, List.append_assoc]

/-! ### Reading statements into open loops -/

namespace Block

variable {here : List Block} {outer : List (List Block)} {rest : List Statement}

/-- A statement that is no bracket becomes the next leaf. -/
theorem nestInto_plain {s : Statement} (hs : s.isBracket = false) :
    nestInto here outer (s :: rest) = nestInto (.plain s :: here) outer rest := by
  cases s with
  | loopOpen => nomatch hs
  | loopClose => nomatch hs
  | _ => rfl

theorem nestInto_flattenAll_append {bs : List Block} (h : Leaves (·.isBracket = false) bs) :
    nestInto here outer (flattenAll bs ++ rest) = nestInto (bs.reverse ++ here) outer rest := by
  induction h generalizing here outer rest with
  | nil => rfl
  | plain hs _ ih =>
    rw [flattenAll_plain, List.cons_append, nestInto_plain hs, ih]
    simp
  | loop _ _ ihInner ihRest =>
    -- the inner forest is read behind an empty list, its close puts it into the list below
    rw [flattenAll_loop, List.cons_append, List.append_assoc, List.cons_append]
    simp only [nestInto]
    rw [ihInner]
    simp only [nestInto]
    rw [ihRest]
    simp

end Block

/-- Reading the statements of a forest gives the forest. -/
theorem nest_flattenAll {bs : List Block} (h : Leaves (·.isBracket = false) bs) : nest (flattenAll bs) = bs := by
  have key : Block.nestInto [] [] (flattenAll bs ++ []) = Block.nestInto (bs.reverse ++ []) [] [] :=
    Block.nestInto_flattenAll_append h
  simpa [nest, Block.nestInto, Block.closeAll] using key

/-! ### Mending brackets -/

/-- The statements behind `depth` open loops with their brackets mended: a close without an open loop is left out,
and the loops still open at the end are closed there. -/
def mend : (depth : Nat) → List Statement → List Statement
  | depth, [] => List.replicate depth .loopClose
  | depth, .loopOpen :: rest => .loopOpen :: mend (depth + 1) rest
  | depth, .loopClose :: rest =>
    match depth with
    | 0 => mend 0 rest
    | d + 1 => .loopClose :: mend d rest
  | depth, s :: rest => s :: mend depth rest

theorem mend_plain {s : Statement} (hs : s.isBracket = false) (depth : Nat) (rest : List Statement) :
    mend depth (s :: rest) = s :: mend depth rest := by
  cases s with
  | loopOpen => nomatch hs
  | loopClose => nomatch hs
  | _ => rfl

/-- The statements already read into the open loops `outer` around `here`. -/
def heldStatements (here : List Block) : List (List Block) → List Statement
  | [] => flattenAll here.reverse
  | up :: outer => heldStatements up outer ++ .loopOpen :: flattenAll here.reverse

private theorem heldStatements_plain (s : Statement) (here : List Block) (outer : List (List Block)) :
    heldStatements (.plain s :: here) outer = heldStatements here outer ++ [s] := by
  cases outer <;> simp [heldStatements]

private theorem heldStatements_loop (here up : List Block) (outer : List (List Block)) :
    heldStatements (.loop here.reverse :: up) outer = heldStatements here (up :: outer) ++ [.loopClose] := by
  cases outer <;> simp [heldStatements]

private theorem flattenAll_closeAll (here : List Block) (outer : List (List Block)) :
    flattenAll (Block.closeAll here outer) =
      heldStatements here outer ++ List.replicate outer.length .loopClose := by
  induction outer generalizing here with
  | nil => simp [Block.closeAll, heldStatements]
  | cons up outer ih =>
    rw [Block.closeAll, ih, heldStatements_loop, List.length_cons, List.replicate_succ]
    simp

theorem flattenAll_nestInto (here : List Block) (outer : List (List Block)) (body : List Statement) :
    flattenAll (Block.nestInto here outer body) = heldStatements here outer ++ mend outer.length body := by
  fun_induction Block.nestInto here outer body with
  | case1 here outer => exact flattenAll_closeAll here outer
  | case2 here outer rest ih => simp [ih, heldStatements, mend]
  | case3 here rest ih => rw [ih]; rfl
  | case4 here rest up around ih => simp [ih, heldStatements_loop, mend]
  | case5 here outer s rest hopen hclose ih =>
    have hs : s.isBracket = false := by cases s <;> simp_all [Statement.isBracket]
    rw [ih, heldStatements_plain, mend_plain hs, List.append_assoc, List.singleton_append]

/-- Flattening what `nest` reads gives the statements with their brackets mended. -/
theorem flattenAll_nest (body : List Statement) : flattenAll (nest body) = mend 0 body := by
  rw [nest, flattenAll_nestInto]
  rfl

/-! ### The leaves that `nest` reads -/

section

variable {P : Statement → Prop}

private theorem leaves_closeAll {here : List Block} {outer : List (List Block)} (hhere : Leaves P here)
    (houter : ∀ up ∈ outer, Leaves P up) : Leaves P (Block.closeAll here outer) := by
  induction outer generalizing here with
  | nil => exact hhere.reverse
  | cons up outer ih =>
    exact ih (.loop hhere.reverse (houter up (by simp))) (fun up' h => houter up' (by simp [h]))

private theorem leaves_nestInto {here : List Block} {outer : List (List Block)} {body : List Statement}
    (hbody : ∀ s ∈ body, s.isBracket = false → P s) (hhere : Leaves P here)
    (houter : ∀ up ∈ outer, Leaves P up) : Leaves P (Block.nestInto here outer body) := by
  fun_induction Block.nestInto here outer body with
  | case1 here outer => exact leaves_closeAll hhere houter
  | case2 here outer rest ih =>
    apply ih (fun s h => hbody s (by simp [h])) .nil
    intro up hup
    rcases List.mem_cons.1 hup with rfl | hup
    · exact hhere
    · exact houter up hup
  | case3 here rest ih => exact ih (fun s h => hbody s (by simp [h])) hhere houter
  | case4 here rest up around ih =>
    exact ih (fun s h => hbody s (by simp [h])) (.loop hhere.reverse (houter up (by simp)))
      (fun up' h => houter up' (by simp [h]))
  | case5 here outer s rest hopen hclose ih =>
    have hs : s.isBracket = false := by cases s <;> simp_all [Statement.isBracket]
    exact ih (fun s' h => hbody s' (by simp [h])) (.plain (hbody s (by simp) hs) hhere) houter

/-- A property of the statements of a body that are no brackets holds of the leaves of its forest. -/
theorem leaves_nest {body : List Statement} (hbody : ∀ s ∈ body, s.isBracket = false → P s) :
    Leaves P (nest body) :=
  leaves_nestInto hbody .nil (by simp)

theorem plain_leaves_nest (body : List Statement) : Leaves (·.isBracket = false) (nest body) :=
  leaves_nest fun _ _ hs => hs

end

end TapeLang
