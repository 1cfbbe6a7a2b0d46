import Mathlib.Order.Bounds.Basic
import TapeLang.Proofs.Bracket.Spans
import TapeLang.Proofs.Lexing

/-!
# Bracket depth

The depth after the first `k` symbols of a program is the number of its opens less the number of its closes among
them. The bracket check is compared with it: the open loops on its stack are those that no prefix so far has
brought back to the depth before them (`OpenLoops`), so a close without an open loop is where the depth first
becomes negative, and the loop reported as unclosed is the first one to whose depth no later prefix returns.
-/

namespace TapeLang

/-- By how much a symbol changes the depth. -/
def Symbol.weight : Symbol → Int
  | .loopOpen => 1
  | .loopClose => -1
  | _ => 0

/-- The number of opens less the number of closes among the first `k` symbols. -/
def depth (program : List Occurrence) (k : Nat) : Int :=
  (program.take k).countP (·.symbol = .loopOpen) - (program.take k).countP (·.symbol = .loopClose)

/-- A loop opens at index `j`. -/
def OpensAt (program : List Occurrence) (j : Nat) : Prop :=
  ∃ o, program[j]? = some o ∧ o.symbol = .loopOpen

/-- The loops whose opens no later prefix brings back to the depth before them. -/
def Unclosed (program : List Occurrence) : Set Nat :=
  {j | OpensAt program j ∧ ∀ k, j < k → k ≤ program.length → depth program k ≠ depth program j}

section

variable {program : List Occurrence} {i j k : Nat} {o : Occurrence}

@[simp] theorem depth_zero (program : List Occurrence) : depth program 0 = 0 := by
  simp [depth]

theorem depth_succ (h : program[k]? = some o) : depth program (k + 1) = depth program k + o.symbol.weight := by
  unfold depth
  rw [List.take_add_one, h]
  simp only [Option.toList_some, List.countP_append, List.countP_singleton, Int.natCast_add]
  cases hs : o.symbol <;> simp [Symbol.weight] <;> omega

/-- A loop whose depth does not come back stays below all that follows. -/
theorem depth_lt_of_ne (hj : OpensAt program j) (hk : k ≤ program.length)
    (hne : ∀ l, j < l → l ≤ k → depth program l ≠ depth program j) (hjk : j < k) :
    depth program j < depth program k := by
  obtain ⟨o, ho, hsym⟩ := hj
  induction k with
  | zero => omega
  | succ k ih =>
    rcases Nat.lt_succ_iff_lt_or_eq.1 hjk with hlt | rfl
    · have ih := ih (by omega) (fun l hl hlk => hne l hl (by omega)) hlt
      have hlast := hne (k + 1) (by omega) (Nat.le_refl _)
      have hget : program[k]? = some program[k] := List.getElem?_eq_getElem (by omega)
      rw [depth_succ hget] at hlast ⊢
      have : -1 ≤ program[k].symbol.weight := by cases program[k].symbol <;> simp [Symbol.weight]
      omega
    · rw [depth_succ ho, hsym, Symbol.weight]
      omega

end

/-! ### The open loops -/

/-- The loop opened at `j` is still open before the symbol at `i`. -/
def StillOpen (program : List Occurrence) (i j : Nat) : Prop :=
  j < i ∧ OpensAt program j ∧ ∀ k, j < k → k ≤ i → depth program j < depth program k

/-- The depths before the loops of a stack, innermost first, count down to zero. -/
def Levels (program : List Occurrence) : List Nat → Prop
  | [] => True
  | o :: outer => depth program o = outer.length ∧ Levels program outer

theorem Levels.depth_lt {program : List Occurrence} {stack : List Nat} (h : Levels program stack) {j : Nat}
    (hj : j ∈ stack) : depth program j < stack.length := by
  induction stack with
  | nil => simp at hj
  | cons o outer ih =>
    rw [List.length_cons]
    rcases List.mem_cons.1 hj with rfl | hj
    · have := h.1
      omega
    · have := ih h.2 hj
      omega

theorem Levels.depth_getLast {program : List Occurrence} {stack : List Nat} (h : Levels program stack) {j : Nat}
    (hj : stack.getLast? = some j) : depth program j = 0 := by
  induction stack with
  | nil => simp at hj
  | cons o outer ih =>
    cases outer with
    | nil =>
      obtain rfl : o = j := by simpa using hj
      simpa using h.1
    | cons o' outer => exact ih h.2 (by simpa [List.getLast?_cons_cons] using hj)

/-- What the bracket check knows before the symbol at `i`: no prefix was negative, and `stack` holds the loops that
are still open, innermost first. -/
structure OpenLoops (program : List Occurrence) (i : Nat) (stack : List Nat) : Prop where
  depth_eq : depth program i = stack.length
  nonneg : ∀ k ≤ i, 0 ≤ depth program k
  mem_iff : ∀ j, j ∈ stack ↔ StillOpen program i j
  levels : Levels program stack

namespace OpenLoops

variable {program : List Occurrence} {i : Nat} {stack : List Nat} {o : Occurrence}

theorem start (program : List Occurrence) : OpenLoops program 0 [] where
  depth_eq := by simp
  nonneg k hk := by
    obtain rfl : k = 0 := by omega
    simp
  mem_iff j := by simp [StillOpen]
  levels := trivial

private theorem nonneg_succ (h : OpenLoops program i stack) (hi : 0 ≤ depth program (i + 1)) :
    ∀ k ≤ i + 1, 0 ≤ depth program k := by
  intro k hk
  rcases Nat.le_succ_iff.1 hk with hk | rfl
  · exact h.nonneg k hk
  · exact hi

/-- A loop is open after one more symbol if it was before and the depth has not come back, or if that symbol
opens it. -/
private theorem stillOpen_succ {j : Nat} :
    StillOpen program (i + 1) j ↔
      StillOpen program i j ∧ depth program j < depth program (i + 1) ∨ j = i ∧ OpensAt program i := by
  constructor
  · rintro ⟨hj, hopen, hlt⟩
    rcases Nat.lt_succ_iff_lt_or_eq.1 hj with hj | rfl
    · exact .inl ⟨⟨hj, hopen, fun k hjk hk => hlt k hjk (by omega)⟩, hlt (i + 1) (by omega) (Nat.le_refl _)⟩
    · exact .inr ⟨rfl, hopen⟩
  · rintro (⟨⟨hj, hopen, hlt⟩, hlast⟩ | ⟨rfl, o, ho, hs⟩)
    · refine ⟨by omega, hopen, fun k hjk hk => ?_⟩
      rcases Nat.le_succ_iff.1 hk with hk | rfl
      · exact hlt k hjk hk
      · exact hlast
    · refine ⟨by omega, ⟨o, ho, hs⟩, fun k hjk hk => ?_⟩
      obtain rfl : k = j + 1 := by omega
      rw [depth_succ ho, hs, Symbol.weight]
      omega

private theorem not_opensAt (ho : program[i]? = some o) (hs : o.symbol ≠ .loopOpen) : ¬OpensAt program i := by
  rintro ⟨o', ho', hs'⟩
  rw [ho] at ho'
  cases ho'
  exact hs hs'

theorem push (h : OpenLoops program i stack) (ho : program[i]? = some o) (hs : o.symbol = .loopOpen) :
    OpenLoops program (i + 1) (i :: stack) := by
  have hdepth : depth program (i + 1) = depth program i + 1 := by rw [depth_succ ho, hs, Symbol.weight]
  have hi := h.depth_eq
  refine ⟨?_, h.nonneg_succ (by omega), fun j => ?_, h.depth_eq, h.levels⟩
  · rw [hdepth, hi, List.length_cons]
    omega
  · rw [List.mem_cons, h.mem_iff, stillOpen_succ]
    constructor
    · rintro (rfl | hj)
      · exact .inr ⟨rfl, o, ho, hs⟩
      · have := hj.2.2 i hj.1 (Nat.le_refl _)
        exact .inl ⟨hj, by omega⟩
    · rintro (⟨hj, -⟩ | ⟨rfl, -⟩)
      · exact .inr hj
      · exact .inl rfl

theorem pop {j : Nat} (h : OpenLoops program i (j :: stack)) (ho : program[i]? = some o)
    (hs : o.symbol = .loopClose) : OpenLoops program (i + 1) stack := by
  have hdepth : depth program (i + 1) = depth program i - 1 := by
    rw [depth_succ ho, hs, Symbol.weight]
    omega
  have hi := h.depth_eq
  rw [List.length_cons] at hi
  refine ⟨by omega, h.nonneg_succ (by omega), fun l => ?_, h.levels.2⟩
  rw [stillOpen_succ, ← h.mem_iff, List.mem_cons]
  constructor
  · intro hl
    have := h.levels.2.depth_lt hl
    exact .inl ⟨.inr hl, by omega⟩
  · rintro (⟨rfl | hl, hlt⟩ | ⟨-, hopen⟩)
    -- the closed loop has come back to its depth
    · have := h.levels.1
      omega
    · exact hl
    · exact absurd hopen (not_opensAt ho (by simp [hs]))

theorem skip (h : OpenLoops program i stack) (ho : program[i]? = some o) (hopen : o.symbol ≠ .loopOpen)
    (hclose : o.symbol ≠ .loopClose) : OpenLoops program (i + 1) stack := by
  have hdepth : depth program (i + 1) = depth program i := by
    rw [depth_succ ho]
    cases hs : o.symbol <;> simp_all [Symbol.weight]
  have hi := h.depth_eq
  refine ⟨by omega, h.nonneg_succ (by omega), fun j => ?_, h.levels⟩
  rw [stillOpen_succ, h.mem_iff]
  constructor
  · intro hj
    have := hj.2.2 i hj.1 (Nat.le_refl _)
    exact .inl ⟨hj, by omega⟩
  · rintro (⟨hj, -⟩ | ⟨-, hopen'⟩)
    · exact hj
    · exact absurd hopen' (not_opensAt ho hopen)

/-- The outermost open loop at the end of a program is the first one that is not closed. -/
theorem isLeast_unclosed (h : OpenLoops program program.length stack) {j : Nat} (hj : stack.getLast? = some j) :
    IsLeast (Unclosed program) j := by
  have hlevel := h.levels.depth_getLast hj
  have hstill := (h.mem_iff j).1 (List.mem_of_getLast? hj)
  have hlen := hstill.1
  refine ⟨⟨hstill.2.1, fun k hjk hk => ?_⟩, ?_⟩
  · have := hstill.2.2 k hjk hk
    omega
  · rintro l ⟨hopen, hne⟩
    by_contra hlj
    -- an unclosed loop before it would put it at a positive depth
    have hlj : l < j := Nat.lt_of_not_le hlj
    have := depth_lt_of_ne hopen (k := j) (by omega) (fun k hlk hk => hne k hlk (by omega)) (by omega)
    have := h.nonneg l (by omega)
    omega

end OpenLoops

/-! ### The verdict -/

/-- What a verdict of the bracket check says about the depth of the program. -/
def Agrees (program : List Occurrence) : Except BracketError (List (Nat × Nat)) → Prop
  | .ok _ => (∀ k ≤ program.length, 0 ≤ depth program k) ∧ depth program program.length = 0
  | .error (.unopened p) =>
    ∃ i o, program[i]? = some o ∧ o.position = p ∧ o.symbol = .loopClose ∧
      IsLeast {i | depth program (i + 1) < 0} i
  | .error (.unclosed p) =>
    (∀ k ≤ program.length, 0 ≤ depth program k) ∧ 0 < depth program program.length ∧
      ∃ j o, program[j]? = some o ∧ o.position = p ∧ o.symbol = .loopOpen ∧ IsLeast (Unclosed program) j

private theorem isLeast_negative {program : List Occurrence} {i : Nat} {s : Occurrence}
    (h : OpenLoops program i []) (hs : program[i]? = some s) (hclose : s.symbol = .loopClose) :
    IsLeast {i | depth program (i + 1) < 0} i := by
  have hi := h.depth_eq
  constructor
  · show depth program (i + 1) < 0
    rw [depth_succ hs, hi, hclose]
    decide
  · intro k (hk : depth program (k + 1) < 0)
    by_contra hki
    have := h.nonneg (k + 1) (by omega)
    omega

private theorem agrees_matchFrom {program : List Occurrence} {i : Nat} {pending : List (Nat × Position)}
    {found : List (Nat × Nat)} {rest : List Occurrence} (h : OpenLoops program i (pending.map (·.1)))
    (hplaces : ∀ q ∈ pending, ∃ o, program[q.1]? = some o ∧ o.position = q.2) (hrest : program.drop i = rest)
    (hi : i ≤ program.length) : Agrees program (matchFrom i pending found rest) := by
  fun_induction matchFrom i pending found rest with
  | case1 i pending found p hp =>
    obtain rfl : i = program.length := Nat.le_antisymm hi (List.drop_eq_nil_iff.1 hrest)
    obtain ⟨⟨j, _⟩, hlast, rfl⟩ := Option.map_eq_some_iff.1 hp
    obtain ⟨o, ho, hpos⟩ := hplaces _ (List.mem_of_getLast? hlast)
    have hj : (pending.map (·.1)).getLast? = some j := by rw [List.getLast?_map, hlast, Option.map_some]
    have hleast := h.isLeast_unclosed hj
    obtain ⟨o', ho', hsym⟩ := hleast.1.1
    obtain rfl : o = o' := Option.some.inj (ho.symm.trans ho')
    refine ⟨h.nonneg, ?_, j, o, ho, hpos, hsym, hleast⟩
    have := List.length_pos_of_mem (List.mem_of_getLast? hlast)
    rw [h.depth_eq, List.length_map]
    omega
  | case2 i pending found hp =>
    obtain rfl : i = program.length := Nat.le_antisymm hi (List.drop_eq_nil_iff.1 hrest)
    obtain rfl : pending = [] := by simpa [outermost?] using hp
    exact ⟨h.nonneg, h.depth_eq⟩
  | case3 i pending found s rest hs ih =>
    obtain ⟨hget, hdrop⟩ := drop_eq_cons hrest
    have hlt := (List.getElem?_eq_some_iff.1 hget).1
    refine ih (h.push hget hs) ?_ hdrop hlt
    rintro q hq
    rcases List.mem_cons.1 hq with rfl | hq
    · exact ⟨s, hget, rfl⟩
    · exact hplaces q hq
  | case4 i found s rest hs =>
    obtain ⟨hget, -⟩ := drop_eq_cons hrest
    exact ⟨i, s, hget, rfl, hs, isLeast_negative h hget hs⟩
  | case5 i found s rest hs o p outer ih =>
    obtain ⟨hget, hdrop⟩ := drop_eq_cons hrest
    have hlt := (List.getElem?_eq_some_iff.1 hget).1
    exact ih (h.pop hget hs) (fun q hq => hplaces q (by simp [hq])) hdrop hlt
  | case6 i pending found s rest hopen hclose ih =>
    obtain ⟨hget, hdrop⟩ := drop_eq_cons hrest
    have hlt := (List.getElem?_eq_some_iff.1 hget).1
    exact ih (h.skip hget hopen hclose) hplaces hdrop hlt

/-- The verdict on a program agrees with its depth. -/
theorem agrees_matchBrackets (program : List Occurrence) : Agrees program (matchFrom 0 [] [] program) :=
  agrees_matchFrom (.start program) (by simp) (List.drop_zero) (Nat.zero_le _)

theorem matchBrackets_eq_error {program : List Occurrence} {e : BracketError} :
    matchBrackets program = .error e ↔ matchFrom 0 [] [] program = .error e := by
  unfold matchBrackets
  cases matchFrom 0 [] [] program with
  | error e' => simp [Except.map]
  | ok found => simp [Except.map]

/-- No two symbols of a program stand at one place. -/
def OwnPlaces (program : List Occurrence) : Prop :=
  ∀ ⦃i j : Nat⦄ ⦃a b : Occurrence⦄, program[i]? = some a → program[j]? = some b → a.position = b.position → i = j

section

variable {program : List Occurrence}

theorem isOk_matchBrackets_iff :
    (∃ m, matchBrackets program = .ok m) ↔
      (∀ k ≤ program.length, 0 ≤ depth program k) ∧ depth program program.length = 0 := by
  have hagrees := agrees_matchBrackets program
  unfold matchBrackets
  rcases hm : matchFrom 0 [] [] program with (_ | p) | found <;> rw [hm] at hagrees
  · have := hagrees.2.1
    simp only [Except.map, reduceCtorEq, exists_false, false_iff]
    omega
  · obtain ⟨i, o, ho, -, -, hleast⟩ := hagrees
    have hi := (List.getElem?_eq_some_iff.1 ho).1
    simp only [Except.map, reduceCtorEq, exists_false, false_iff]
    intro h
    exact absurd hleast.1 (Int.not_lt.2 (h.1 (i + 1) hi))
  · simpa [Except.map, Agrees] using hagrees

theorem unopened_iff (hplaces : OwnPlaces program) {i : Nat} {o : Occurrence} (ho : program[i]? = some o) :
    matchBrackets program = .error (.unopened o.position) ↔ IsLeast {i | depth program (i + 1) < 0} i := by
  have hi := (List.getElem?_eq_some_iff.1 ho).1
  have hagrees := agrees_matchBrackets program
  rw [matchBrackets_eq_error]
  rcases hm : matchFrom 0 [] [] program with (_ | p) | found <;> rw [hm] at hagrees
  · simp only [reduceCtorEq, Except.error.injEq, false_iff]
    exact fun hleast => absurd hleast.1 (Int.not_lt.2 (hagrees.1 (i + 1) hi))
  · obtain ⟨i', o', ho', rfl, -, hleast⟩ := hagrees
    simp only [Except.error.injEq, BracketError.unopened.injEq]
    constructor
    · intro h
      rwa [← hplaces ho' ho h]
    · intro h
      obtain rfl := h.unique hleast
      exact congrArg _ (Option.some.inj (ho'.symm.trans ho))
  · simp only [reduceCtorEq, false_iff]
    exact fun hleast => absurd hleast.1 (Int.not_lt.2 (hagrees.1 (i + 1) hi))

theorem unclosed_iff (hplaces : OwnPlaces program) {j : Nat} {o : Occurrence} (ho : program[j]? = some o) :
    matchBrackets program = .error (.unclosed o.position) ↔
      (∀ i < program.length, 0 ≤ depth program (i + 1)) ∧ 0 < depth program program.length ∧
        IsLeast (Unclosed program) j := by
  have hagrees := agrees_matchBrackets program
  rw [matchBrackets_eq_error]
  rcases hm : matchFrom 0 [] [] program with (_ | p) | found <;> rw [hm] at hagrees
  · obtain ⟨hnonneg, hpos, j', o', ho', rfl, -, hleast⟩ := hagrees
    simp only [Except.error.injEq, BracketError.unclosed.injEq]
    constructor
    · intro h
      rw [← hplaces ho' ho h]
      exact ⟨fun i hi => hnonneg (i + 1) hi, hpos, hleast⟩
    · rintro ⟨-, -, h⟩
      obtain rfl := h.unique hleast
      exact congrArg _ (Option.some.inj (ho'.symm.trans ho))
  · obtain ⟨i, o', ho', -, -, hleast⟩ := hagrees
    have hi := (List.getElem?_eq_some_iff.1 ho').1
    simp only [reduceCtorEq, Except.error.injEq, false_iff]
    exact fun h => absurd hleast.1 (Int.not_lt.2 (h.1 i hi))
  · simp only [reduceCtorEq, false_iff]
    intro h
    have := hagrees.2
    omega

end

/-- The verdict of the bracket check on a text, by the depth of its symbols: the first close that makes the depth
negative is unopened; if there is none, the first loop to whose depth no later prefix returns is unclosed; otherwise
the text is accepted. The place in a complaint is that of a bracket in the text. -/
theorem matchBrackets_lex (text : String) :
    (∀ i o, (lex text)[i]? = some o →
      (matchBrackets (lex text) = .error (.unopened o.position) ↔
        IsLeast {i | depth (lex text) (i + 1) < 0} i)) ∧
    (∀ j o, (lex text)[j]? = some o →
      (matchBrackets (lex text) = .error (.unclosed o.position) ↔
        (∀ i < (lex text).length, 0 ≤ depth (lex text) (i + 1)) ∧ 0 < depth (lex text) (lex text).length ∧
          IsLeast (Unclosed (lex text)) j)) ∧
    ((∃ m, matchBrackets (lex text) = .ok m) ↔
      (∀ k ≤ (lex text).length, 0 ≤ depth (lex text) k) ∧ depth (lex text) (lex text).length = 0) ∧
    (∀ p, matchBrackets (lex text) = .error (.unopened p) →
      (∃ o ∈ lex text, o.position = p) ∧ text.toList[p.offset]? = some ']') ∧
    (∀ p, matchBrackets (lex text) = .error (.unclosed p) →
      (∃ o ∈ lex text, o.position = p) ∧ text.toList[p.offset]? = some '[') := by
  have hplaces : OwnPlaces (lex text) := fun _ _ _ _ => lex_position_inj
  have hagrees := agrees_matchBrackets (lex text)
  refine ⟨fun i o ho => unopened_iff hplaces ho, fun j o ho => unclosed_iff hplaces ho, isOk_matchBrackets_iff,
    fun p hp => ?_, fun p hp => ?_⟩
  · rw [matchBrackets_eq_error.1 hp] at hagrees
    obtain ⟨i, o, ho, rfl, hsym, -⟩ := hagrees
    have hmem := List.mem_of_getElem? ho
    have hchar := getElem?_of_mem_lexFrom hmem
    rw [hsym] at hchar
    exact ⟨⟨o, hmem, rfl⟩, hchar⟩
  · rw [matchBrackets_eq_error.1 hp] at hagrees
    obtain ⟨-, -, j, o, ho, rfl, hsym, -⟩ := hagrees
    have hmem := List.mem_of_getElem? ho
    have hchar := getElem?_of_mem_lexFrom hmem
    rw [hsym] at hchar
    exact ⟨⟨o, hmem, rfl⟩, hchar⟩

-- of two loops that are never closed the first one is reported
example : matchBrackets (lex "+[[]\n[") = .error (.unclosed ⟨1, 1, 2⟩) := by rfl

end TapeLang
