import TapeLang.Proofs.Forest

/-!
# Nesting undoes flattening

`nest` and `flattenAll` undo each other on bodies whose brackets match (`Balanced`) and on forests without brackets in
their leaves. Of any other body `nest` leaves out the closes that stand where no loop is open, and closes the loops
that are open at the end; flattening what it reads shows this (`flattenAll_nest_eq`).
-/

namespace TapeLang

/-! ### Open loops and stray closes -/

/-- The number of open loops behind a statement, if there are `count` before it. A close ends one of them, if there
is one. -/
def openStep (count : Nat) : Statement → Nat
  | .loopOpen => count + 1
  | .loopClose => count - 1
  | _ => count

/-- The number of loops that are open behind `body`. -/
def openLoops (body : List Statement) : Nat := body.foldl openStep 0

/-- Whether the statement at an index of `body` is a close where no loop is open. -/
def isStray (body : List Statement) (x : Statement × Nat) : Bool :=
  x.1 = .loopClose && openLoops (body.take x.2) = 0

/-- A body without the closes that stand where no loop is open. -/
def withoutStrays (body : List Statement) : List Statement :=
  (body.zipIdx.filter fun x => !isStray body x).map (·.1)

theorem openLoops_append_singleton (front : List Statement) (s : Statement) :
    openLoops (front ++ [s]) = openStep (openLoops front) s := by
  rw [openLoops, List.foldl_append]
  rfl

/-- Behind `front`, mending goes through the statements that are no stray closes. -/
private theorem mend_eq (front rest : List Statement) :
    mend (openLoops front) rest =
      ((rest.zipIdx front.length).filter fun x => !isStray (front ++ rest) x).map (·.1) ++
        List.replicate (openLoops (front ++ rest)) .loopClose := by
  induction rest generalizing front with
  | nil => simp [mend]
  | cons s rest ih =>
    have ih := ih (front ++ [s])
    rw [openLoops_append_singleton, List.length_append, List.length_singleton, List.append_assoc,
      List.singleton_append] at ih
    have hstray : isStray (front ++ s :: rest) (s, front.length) = (s = .loopClose && openLoops front = 0) := by
      rw [isStray, List.take_left']
      rfl
    rw [List.zipIdx_cons, List.filter_cons, hstray]
    cases s with
    | loopOpen => simpa [mend, openStep] using ih
    | loopClose =>
      cases hopen : openLoops front with
      | zero => simpa [mend, openStep, hopen] using ih
      | succ n => simpa [mend, openStep, hopen] using ih
    | _ => simpa [mend, openStep] using ih

/-- Flattening what `nest` reads gives the body without its stray closes, and a close for each loop that is open at
its end. -/
theorem flattenAll_nest_eq (body : List Statement) :
    flattenAll (nest body) = withoutStrays body ++ List.replicate (openLoops body) .loopClose := by
  rw [flattenAll_nest]
  exact mend_eq [] body

/-! ### Balanced bodies -/

/-- Brackets that match: no prefix has more closes than opens, and the whole has as many. -/
def Balanced (body : List Statement) : Prop :=
  (∀ k, (body.take k).count .loopClose ≤ (body.take k).count .loopOpen) ∧
    body.count .loopClose = body.count .loopOpen

/-- Brackets that match behind `depth` opens. -/
private def BalancedBehind (depth : Nat) (body : List Statement) : Prop :=
  (∀ k, (body.take k).count .loopClose ≤ depth + (body.take k).count .loopOpen) ∧
    body.count .loopClose = depth + body.count .loopOpen

private theorem balancedBehind_cons {depth : Nat} {s : Statement} {rest : List Statement} :
    BalancedBehind depth (s :: rest) ↔ (s = .loopClose → 0 < depth) ∧ BalancedBehind (openStep depth s) rest := by
  constructor
  · rintro ⟨hfirst, hall⟩
    have hpositive : s = .loopClose → 0 < depth := by
      rintro rfl
      have := hfirst 1
      simp at this
      omega
    refine ⟨hpositive, fun k => ?_, ?_⟩
    · have hk := hfirst (k + 1)
      rw [List.take_succ_cons, List.count_cons, List.count_cons] at hk
      cases s <;> simp [openStep] at hk hpositive ⊢ <;> omega
    · rw [List.count_cons, List.count_cons] at hall
      cases s <;> simp [openStep] at hall hpositive ⊢ <;> omega
  · rintro ⟨hpositive, hfirst, hall⟩
    refine ⟨fun k => ?_, ?_⟩
    · cases k with
      | zero => simp
      | succ k =>
        have hk := hfirst k
        rw [List.take_succ_cons, List.count_cons, List.count_cons]
        cases s <;> simp [openStep] at hk hpositive ⊢ <;> omega
    · rw [List.count_cons, List.count_cons]
      cases s <;> simp [openStep] at hall hpositive ⊢ <;> omega

/-- What is mended behind no open loop does not begin with a close. -/
private theorem head?_mend_zero (body : List Statement) : (mend 0 body).head? ≠ some .loopClose := by
  induction body with
  | nil => simp [mend]
  | cons s rest ih =>
    cases s with
    | loopClose => simpa [mend] using ih
    | _ => simp [mend]

private theorem mend_eq_self_iff {depth : Nat} {body : List Statement} :
    mend depth body = body ↔ BalancedBehind depth body := by
  induction body generalizing depth with
  | nil =>
    simp only [mend, BalancedBehind, List.take_nil, List.count_nil, Nat.add_zero, Nat.zero_le, implies_true, true_and,
      List.replicate_eq_nil_iff]
    exact eq_comm
  | cons s rest ih =>
    rw [balancedBehind_cons, ← ih]
    cases s with
    | loopClose =>
      cases depth with
      | zero =>
        have hhead := head?_mend_zero rest
        simp only [mend, Nat.lt_irrefl, imp_false, not_true_eq_false, false_and, iff_false]
        intro heq
        rw [heq] at hhead
        exact hhead rfl
      | succ depth => simp [mend, openStep]
    | _ => simp [mend, openStep]

/-- Flattening gives a body back as it was exactly if its brackets match. -/
theorem flattenAll_nest_eq_self_iff {body : List Statement} : flattenAll (nest body) = body ↔ Balanced body := by
  rw [flattenAll_nest, mend_eq_self_iff, BalancedBehind, Balanced]
  simp only [Nat.zero_add]

/-- Nesting and flattening undo each other. What `nest` reads from any body has no brackets in its leaves and flattens
to the body without its stray closes, behind which a close follows for each loop left open; this is the body itself
exactly if its brackets match. -/
theorem nest_and_flatten_inverse :
    (∀ body, flattenAll (nest body) = withoutStrays body ++ List.replicate (openLoops body) .loopClose) ∧
    (∀ body, flattenAll (nest body) = body ↔ Balanced body) ∧
    (∀ bs, Leaves (·.isBracket = false) bs → nest (flattenAll bs) = bs) ∧
    ∀ body, Leaves (·.isBracket = false) (nest body) :=
  ⟨flattenAll_nest_eq, fun _ => flattenAll_nest_eq_self_iff, fun _ => nest_flattenAll, plain_leaves_nest⟩

/-- A stray close is left out and an open loop closed; a forest with a loop in it is read back. -/
theorem nest_and_flatten_inverse_mended :
    flattenAll (nest [.loopClose, .loopOpen, .increment]) = [.loopOpen, .increment, .loopClose] ∧
      nest (flattenAll [.loop [.plain .read], .plain .write]) = [.loop [.plain .read], .plain .write] := by
  obtain ⟨hmended, -, hforest, -⟩ := nest_and_flatten_inverse
  refine ⟨(hmended _).trans (by decide), hforest _ ?_⟩
  exact .loop (.plain rfl .nil) (.plain rfl .nil)

end TapeLang
