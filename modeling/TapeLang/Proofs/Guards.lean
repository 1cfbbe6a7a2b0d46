import TapeLang.Code.Dialect
import TapeLang.Proofs.Bracket.Matching
import TapeLang.Proofs.Faults
import TapeLang.Proofs.Nesting

/-!
# Guards that never act

Emission, nesting, the flat layouts and the tape are each guarded against what no accepted program brings about: a
bracket without a partner, a close without a loop, a loop without a close, a depth below zero, and a pointer off the
tape. In front of any symbol the depth of an accepted program is the number of matched pairs around this place
(`depth_eq_openBefore`), and a counter that stops at zero follows it exactly (`depthCounter_emit`): the levels of
the stack of `nest` and the depth counter of a flat layout. The pointer is moved modulo the length of the tape and so
stays on it through every tick (`Machine.onTape_of_reaches`). `guards_never_act` has all guards together.
-/

namespace TapeLang

open Code (Dialect Line linesAt)
open StateTransition (Reaches)

/-! ### Loops around a symbol -/

namespace Matching

/-- The number of loops around the symbol at `i`. -/
def enclosing (m : Matching) (i : Nat) : Nat := m.pairs.countP fun p => p.1 < i ∧ i < p.2

/-- The number of loops that are open in front of the symbol at `i`. -/
def openBefore (m : Matching) (i : Nat) : Nat := m.pairs.countP fun p => p.1 < i ∧ i ≤ p.2

end Matching

/-- A counter of open loops in front of the statement at `i`, if it begins at `n`. It never falls below zero. -/
def depthCounter (n : Nat) (body : List Statement) (i : Nat) : Nat := (body.take i).foldl openStep n

theorem depthCounter_succ {body : List Statement} {i : Nat} {s : Statement} (h : body[i]? = some s) (n : Nat) :
    depthCounter n body (i + 1) = openStep (depthCounter n body i) s := by
  rw [depthCounter, List.take_add_one, h, List.foldl_append]
  rfl

/-- Below an index, as many indices are found as there are elements to find in front of it. -/
theorem countP_findIdxs {α : Type} (p : α → Bool) (l : List α) (start k : Nat) :
    (l.findIdxs p start).countP (· < start + k) = (l.take k).countP p := by
  induction l generalizing start k with
  | nil => simp
  | cons a l ih =>
    cases k with
    | zero =>
      refine List.countP_eq_zero.2 fun i hi => ?_
      have := List.ge_of_mem_findIdxs i hi
      simpa using this
    | succ k =>
      have ih := ih (start + 1) k
      rw [Nat.add_right_comm, Nat.add_assoc] at ih
      rw [List.findIdxs_cons, List.take_succ_cons, List.countP_cons, ← ih]
      by_cases ha : p a = true
      · simp [ha]
      · simp [ha]

/-- Of the pairs that begin in front of an index, each ends in front of it or is around it. -/
theorem countP_fst_lt {pairs : List (Nat × Nat)} (h : ∀ p ∈ pairs, p.1 < p.2) (k : Nat) :
    (pairs.countP fun p => p.1 < k) =
      (pairs.countP fun p => p.1 < k ∧ k ≤ p.2) + pairs.countP fun p => p.2 < k := by
  induction pairs with
  | nil => rfl
  | cons p pairs ih =>
    obtain ⟨hp, hpairs⟩ := List.forall_mem_cons.1 h
    simp only [List.countP_cons, ih hpairs, decide_eq_true_eq]
    split_ifs <;> omega

section

variable {program : List Occurrence} {m : Matching} {i : Nat}

/-- The depth behind the first symbols is the number of pairs around this place. -/
theorem depth_eq_openBefore (h : matchBrackets program = .ok m) (k : Nat) : depth program k = m.openBefore k := by
  have hopens : (program.take k).countP (·.symbol = .loopOpen) = m.pairs.countP fun p => p.1 < k := by
    rw [← countP_findIdxs _ _ 0, ← map_fst_pairs h, List.countP_map]
    simp [Function.comp_def]
  have hcloses : (program.take k).countP (·.symbol = .loopClose) = m.pairs.countP fun p => p.2 < k := by
    rw [← countP_findIdxs _ _ 0, ← (map_snd_pairs_perm h).countP_eq, List.countP_map]
    simp [Function.comp_def]
  rw [depth, hopens, hcloses, countP_fst_lt (pairs_bounds h), Matching.openBefore]
  omega

/-- The loops around a symbol that opens none are those that are open behind it. -/
theorem openBefore_succ (h : matchBrackets program = .ok m) (hi : ¬ OpensAt program i) :
    m.openBefore (i + 1) = m.enclosing i := by
  refine List.countP_congr fun p hp => ?_
  have hne : p.1 ≠ i := by
    rintro rfl
    exact hi ((opensAt_iff_mem h).2 ⟨p.2, hp⟩)
  simp only [decide_eq_true_eq]
  omega

/-- The loops around a symbol that closes none are those that are open in front of it. -/
theorem openBefore_eq (h : matchBrackets program = .ok m) (hi : ¬ ClosesAt program i) :
    m.openBefore i = m.enclosing i := by
  refine List.countP_congr fun p hp => ?_
  have hne : p.2 ≠ i := by
    rintro rfl
    exact hi ((closesAt_iff_mem h).2 ⟨p.1, hp⟩)
  simp only [decide_eq_true_eq]
  omega

/-- In an accepted program the counter never stops at zero, and so follows the depth. -/
theorem depthCounter_emit (h : matchBrackets program = .ok m) (n k : Nat) :
    depthCounter n (emit program) k = n + m.openBefore k := by
  suffices hint : (depthCounter n (emit program) k : Int) = n + depth program k by
    rw [depth_eq_openBefore h] at hint
    exact_mod_cast hint
  induction k with
  | zero => simp [depthCounter]
  | succ k ih =>
    cases ho : program[k]? with
    | none =>
      have hlength : program.length ≤ k := List.getElem?_eq_none_iff.1 ho
      have htake : (emit program).take (k + 1) = (emit program).take k := by
        rw [List.take_of_length_le, List.take_of_length_le] <;> simp [emit] <;> omega
      have hdepth : depth program (k + 1) = depth program k := by
        rw [depth, depth, List.take_of_length_le (by omega), List.take_of_length_le hlength]
      rw [depthCounter, htake, hdepth]
      exact ih
    | some o =>
      have hget : (emit program)[k]? = some (.ofSymbol o.symbol) := by simp [emit, ho]
      -- the depth behind the symbol is a number of pairs, so that a close finds a positive counter
      have hnonneg := depth_eq_openBefore h (k + 1)
      rw [depth_succ ho] at hnonneg ⊢
      rw [depthCounter_succ hget]
      cases hs : o.symbol <;> simp only [hs, Symbol.weight, Statement.ofSymbol, openStep] at hnonneg ⊢ <;> omega

theorem opensAt_iff_getElem? : OpensAt program i ↔ (emit program)[i]? = some .loopOpen := by
  simp [OpensAt, emit, Statement.ofSymbol_eq_loopOpen]

theorem closesAt_iff_getElem? : ClosesAt program i ↔ (emit program)[i]? = some .loopClose := by
  simp [ClosesAt, emit, Statement.ofSymbol_eq_loopClose]

end

/-! ### The stack of `nest` -/

/-- The bodies being read: that of the innermost open loop, latest block first, and those around it, innermost first. -/
structure Block.Stack where
  here : List Block
  outer : List (List Block)

namespace Block.Stack

def levels (b : Stack) : Nat := b.outer.length + 1

/-- The bodies behind one more statement. A close is passed over if no loop is open. -/
def read : Stack → Statement → Stack
  | ⟨here, outer⟩, .loopOpen => ⟨[], here :: outer⟩
  | ⟨here, []⟩, .loopClose => ⟨here, []⟩
  | ⟨here, up :: around⟩, .loopClose => ⟨.loop here.reverse :: up, around⟩
  | ⟨here, outer⟩, s => ⟨.plain s :: here, outer⟩

/-- The bodies in front of the statement at `i`. -/
def before (body : List Statement) (i : Nat) : Stack := (body.take i).foldl read ⟨[], []⟩

theorem length_outer_read (b : Stack) (s : Statement) : (b.read s).outer.length = openStep b.outer.length s := by
  obtain ⟨here, _ | ⟨up, around⟩⟩ := b <;> cases s <;> rfl

theorem nestInto_append (b : Stack) (front rest : List Statement) :
    nestInto b.here b.outer (front ++ rest) =
      nestInto (front.foldl read b).here (front.foldl read b).outer rest := by
  induction front generalizing b with
  | nil => rfl
  | cons s front ih =>
    rw [List.cons_append, List.foldl_cons, ← ih]
    obtain ⟨here, _ | ⟨up, around⟩⟩ := b <;> cases s <;> rfl

theorem levels_before (body : List Statement) (i : Nat) : (before body i).levels = depthCounter 0 body i + 1 := by
  have hlength : (before body i).outer.length = depthCounter 0 body i :=
    (List.foldl_hom (fun b : Stack => b.outer.length) fun b s => (length_outer_read b s).symm).symm
  rw [levels, hlength]

end Block.Stack

/-! ### The counter of a flat layout -/

namespace Code.Dialect

/-- The lines of a statement at `depth`, where `entered` says whether a loop has just begun. -/
def flatStatement (d : Dialect) (size depth : Nat) (entered : Bool) : Statement → List Line
  | .loopOpen => linesAt depth d.enter
  | .loopClose => (if entered then linesAt depth d.idle else []) ++ linesAt (depth - 1) d.leave
  | s => (d.statement size s).map (·.inward depth)

theorem flatLines_cons (d : Dialect) (size depth : Nat) (entered : Bool) (s : Statement) (rest : List Statement) :
    d.flatLines size depth entered (s :: rest) =
      d.flatStatement size depth entered s ++ d.flatLines size (openStep depth s) (s = .loopOpen) rest := by
  cases s <;> simp [flatLines, flatStatement, openStep]

private theorem flatLines_behind (d : Dialect) (size depth : Nat) (front rest : List Statement) :
    d.flatLines size (front.foldl openStep depth) (front.getLast? = some .loopOpen) rest =
      (rest.zipIdx front.length).flatMap fun x => d.flatStatement size
        (depthCounter depth (front ++ rest) x.2) (((front ++ rest).take x.2).getLast? = some .loopOpen) x.1 := by
  induction rest generalizing front with
  | nil => rfl
  | cons s rest ih =>
    have ih := ih (front ++ [s])
    rw [List.foldl_append, List.getLast?_concat, List.length_append, List.length_singleton, List.append_assoc,
      List.singleton_append] at ih
    rw [flatLines_cons, List.zipIdx_cons, List.flatMap_cons, depthCounter, List.take_left, ← ih]
    simp

/-- A flat layout has the lines of each statement at the counter in front of it. -/
theorem flatLines_eq_flatMap (d : Dialect) (size depth : Nat) (body : List Statement) :
    d.flatLines size depth false body = body.zipIdx.flatMap fun x => d.flatStatement size
      (depthCounter depth body x.2) ((body.take x.2).getLast? = some .loopOpen) x.1 :=
  flatLines_behind d size depth [] body

end Code.Dialect

/-! ### Accepted programs -/

/-- `nest` reads `body` without its guards: every close finds a loop to end, and no loop is left at the end. -/
structure NestsUnguarded (body : List Statement) : Prop where
  /-- The stack in front of each statement is the one that `nest` has there. -/
  nest_eq : ∀ i, nest body =
    Block.nestInto (Block.Stack.before body i).here (Block.Stack.before body i).outer (body.drop i)
  two_le_levels : ∀ i, body[i]? = some .loopClose → 2 ≤ (Block.Stack.before body i).levels
  levels_close : ∀ i, body[i]? = some .loopClose →
    (Block.Stack.before body i).levels = (Block.Stack.before body (i + 1)).levels + 1
  levels_end : (Block.Stack.before body body.length).levels = 1
  nest_eq_here : nest body = (Block.Stack.before body body.length).here.reverse

/-- The depth counter of the flat layouts of `body` counts the loops of `m` and is never stopped at zero. -/
structure CountsUnguarded (m : Matching) (body : List Statement) : Prop where
  /-- The lines of each statement are written at the counter in front of it, which begins at two in Rust, Python and
  TypeScript. -/
  flatLines_eq : ∀ (d : Dialect) (size : Nat), d.flatLines size 2 false body =
    body.zipIdx.flatMap fun x =>
      d.flatStatement size (depthCounter 2 body x.2) ((body.take x.2).getLast? = some .loopOpen) x.1
  /-- A close is written behind its subtraction, every other statement at the counter in front of it. -/
  counter_eq : ∀ i s, body[i]? = some s →
    depthCounter 2 body (if s = .loopClose then i + 1 else i) = 2 + m.enclosing i
  two_le_counter : ∀ i, 2 ≤ depthCounter 2 body i
  counter_close : ∀ i, body[i]? = some .loopClose → depthCounter 2 body i = depthCounter 2 body (i + 1) + 1
  counter_end : depthCounter 2 body body.length = 2

section

variable {program : List Occurrence} {m : Matching} {i : Nat} {s : Statement}

/-- A close ends one of the open loops. -/
theorem openBefore_close (h : matchBrackets program = .ok m) (hi : (emit program)[i]? = some .loopClose) :
    m.openBefore i = m.openBefore (i + 1) + 1 := by
  obtain ⟨o, ho, hclose⟩ := closesAt_iff_getElem?.2 hi
  have hdepth := depth_succ ho
  rw [hclose, Symbol.weight, depth_eq_openBefore h, depth_eq_openBefore h] at hdepth
  omega

/-- No loop is open behind the last symbol. -/
theorem openBefore_length (h : matchBrackets program = .ok m) : m.openBefore (emit program).length = 0 := by
  refine List.countP_eq_zero.2 fun p hp => ?_
  have := (pairs_lt_length h hp).2
  simp [emit]
  omega

theorem isSome_partner_of_isBracket (h : matchBrackets program = .ok m) (hi : (emit program)[i]? = some s)
    (hs : s.isBracket) : (m.partner i).isSome := by
  cases s with
  | loopOpen =>
    obtain ⟨j, hj⟩ := (opensAt_iff_mem h).1 (opensAt_iff_getElem?.2 hi)
    exact Option.isSome_iff_exists.2 ⟨j, (partner_eq_some_iff h).2 (.inl hj)⟩
  | loopClose =>
    obtain ⟨j, hj⟩ := (closesAt_iff_mem h).1 (closesAt_iff_getElem?.2 hi)
    exact Option.isSome_iff_exists.2 ⟨j, (partner_eq_some_iff h).2 (.inr hj)⟩
  | _ => cases hs

theorem nestsUnguarded_emit (h : matchBrackets program = .ok m) : NestsUnguarded (emit program) := by
  have hlevels (i : Nat) : (Block.Stack.before (emit program) i).levels = m.openBefore i + 1 := by
    rw [Block.Stack.levels_before, depthCounter_emit h, Nat.zero_add]
  have hnest (i : Nat) : nest (emit program) = Block.nestInto (Block.Stack.before (emit program) i).here
      (Block.Stack.before (emit program) i).outer ((emit program).drop i) := by
    rw [Block.Stack.before, ← Block.Stack.nestInto_append, List.take_append_drop]
    rfl
  have hend : (Block.Stack.before (emit program) (emit program).length).levels = 1 := by
    rw [hlevels, openBefore_length h]
  refine ⟨hnest, fun i hi => ?_, fun i hi => ?_, hend, ?_⟩
  · rw [hlevels, openBefore_close h hi]
    omega
  · rw [hlevels, hlevels, openBefore_close h hi]
  · have houter : (Block.Stack.before (emit program) (emit program).length).outer = [] := by
      simpa [Block.Stack.levels] using hend
    rw [hnest (emit program).length, houter, List.drop_length]
    rfl

theorem countsUnguarded_emit (h : matchBrackets program = .ok m) : CountsUnguarded m (emit program) := by
  have hcounter := depthCounter_emit h 2
  refine ⟨fun d size => d.flatLines_eq_flatMap size 2 _, fun i s hi => ?_, fun i => ?_, fun i hi => ?_, ?_⟩
  · rw [hcounter]
    by_cases hclose : s = .loopClose
    · have hopen : ¬ OpensAt program i := by simp [opensAt_iff_getElem?, hi, hclose]
      rw [if_pos hclose, openBefore_succ h hopen]
    · have hclose' : ¬ ClosesAt program i := by simp [closesAt_iff_getElem?, hi, hclose]
      rw [if_neg hclose, openBefore_eq h hclose']
  · rw [hcounter]
    omega
  · rw [hcounter, hcounter, openBefore_close h hi]
    omega
  · rw [hcounter, openBefore_length h]

end

/-- On a tape that can be made no run of an emitted program faults. -/
theorem exists_memory_of_reaches {program : List Occurrence} {k : Machine} (hsize : k.tapeSize.toNat < 2 ^ 63)
    {input : List UInt8} {r : Run} (h : Reaches Run.next (k.start (emit program) input) r) : ∃ m, r.memory = .ok m := by
  obtain ⟨blocks, _ | m, t⟩ := r
  · refine absurd ⟨blocks, t, h⟩ (Machine.not_reaches_fault hsize fun d hd => ?_)
    have hunit := toInt_of_unit (unit_of_mem_emit hd)
    omega
  · exact ⟨m, rfl⟩

/-- On what compiles no guard acts. Every bracket that is emitted has a partner; at a close `nest` has a loop to end,
and behind the last statement a single level; the counter of a flat layout is two more than the number of loops around
the statement, so that it is never stopped at zero, and comes back to two; and in every memory that the machine runs
through the pointer is that of a cell, where a tape that can be made is never lost to a fault. -/
theorem guards_never_act {s : Source} {f : Function} (h : compile s = .ok f) :
    ∃ m, matchBrackets s.program = .ok m ∧
      (∀ i b, f.body[i]? = some b → b.isBracket → (m.partner i).isSome) ∧
      NestsUnguarded f.body ∧ CountsUnguarded m f.body ∧
      ∀ (k : Machine) (input : List UInt8) (r : Run), Reaches Run.next (k.start f.body input) r →
        (∀ m, r.memory = .ok m → m.tape.pointer < m.tape.length) ∧
        (k.tapeSize.toNat < 2 ^ 63 → ∃ m, r.memory = .ok m) := by
  obtain ⟨hbody, m, hm⟩ := body_of_compile h
  rw [hbody]
  exact ⟨m, hm, fun i b => isSome_partner_of_isBracket hm, nestsUnguarded_emit hm, countsUnguarded_emit hm,
    fun k input r hreach => ⟨fun m hm => (Machine.onTape_of_reaches hreach hm).pointer_lt,
      fun hsize => exists_memory_of_reaches hsize hreach⟩⟩

/-- Two loops around a statement, on a tape asked for without cells. -/
theorem guards_never_act_nested :
    let body := emit (lex "+[>[-]]<")
    compile ⟨"a.b", lex "+[>[-]]<", "0"⟩ = .ok ⟨"a", "a.b", "0", body⟩ ∧
      2 ≤ (Block.Stack.before body 5).levels ∧ (Block.Stack.before body 8).levels = 1 ∧
      depthCounter 2 body 4 = 4 ∧ depthCounter 2 body 7 = 2 ∧
      ∃ m, (Machine.start ⟨0⟩ body []).memory = .ok m ∧ m.tape.pointer < m.tape.length := by
  intro body
  have hmatch : matchBrackets (lex "+[>[-]]<") = .ok ⟨[(1, 6), (3, 5)]⟩ :=
    matchBrackets_eq_ok.2 ⟨[(1, 6), (3, 5)], rfl, by simp [List.mergeSort]⟩
  have hcompile : compile ⟨"a.b", lex "+[>[-]]<", "0"⟩ = .ok ⟨"a", "a.b", "0", body⟩ := by
    rw [compile, hmatch]
    rfl
  obtain ⟨m, hm, -, hnest, hcount, hpointer⟩ := guards_never_act hcompile
  obtain rfl : m = ⟨[(1, 6), (3, 5)]⟩ := Except.ok.inj (hm.symm.trans hmatch)
  obtain ⟨hon, hmemory⟩ := hpointer ⟨0⟩ [] _ .refl
  obtain ⟨memory, hstart⟩ := hmemory (by decide)
  exact ⟨hcompile, hnest.two_le_levels 5 rfl, hnest.levels_end, hcount.counter_eq 4 .decrement rfl,
    hcount.counter_eq 6 .loopClose rfl, memory, hstart, hon memory hstart⟩

end TapeLang
