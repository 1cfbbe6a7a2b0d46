import Mathlib.Data.List.Nodup
import TapeLang.Compile
import TapeLang.Proofs.Forest

/-!
# The spans of loops

`spansAll i bs` lists the places of the open and the close of every loop in a forest whose statements stand from
index `i` on, in the order of the opens. On an accepted program the bracket check finds exactly the spans of the
nested body (`pairs_eq_spans`), so that `Matching.partner` takes either end of a loop to the other.
-/

namespace TapeLang

mutual

/-- The spans of the loops in a block whose first statement stands at `i`. -/
def Block.spans (i : Nat) : Block → List (Nat × Nat)
  | .plain _ => []
  | .loop body => (i, i + 1 + (flattenAll body).length) :: spansAll (i + 1) body

/-- The spans of the loops in a forest whose first statement stands at `i`. -/
def spansAll (i : Nat) : List Block → List (Nat × Nat)
  | [] => []
  | b :: rest => b.spans i ++ spansAll (i + b.flatten.length) rest

end

@[simp] theorem spansAll_nil (i : Nat) : spansAll i [] = [] := by
  simp only [spansAll]

@[simp] theorem spansAll_plain (i : Nat) (s : Statement) (rest : List Block) :
    spansAll i (.plain s :: rest) = spansAll (i + 1) rest := by
  simp only [spansAll, Block.spans, Block.flatten, List.nil_append, List.length_singleton]

@[simp] theorem spansAll_loop (i : Nat) (inner rest : List Block) :
    spansAll i (.loop inner :: rest) =
      (i, i + 1 + (flattenAll inner).length) ::
        (spansAll (i + 1) inner ++ spansAll (i + 1 + (flattenAll inner).length + 1) rest) := by
  have hlen : i + (Block.loop inner).flatten.length = i + 1 + (flattenAll inner).length + 1 := by
    simp [Block.flatten]
    omega
  rw [spansAll, hlen, Block.spans, List.cons_append]

variable {P : Statement → Prop}

/-- A span lies between the first and the last statement of the forest. -/
theorem spansAll_bounds {bs : List Block} (h : Leaves P bs) {i : Nat} {p : Nat × Nat} (hp : p ∈ spansAll i bs) :
    i ≤ p.1 ∧ p.1 < p.2 ∧ p.2 < i + (flattenAll bs).length := by
  induction h generalizing i with
  | nil => simp at hp
  | plain _ _ ih =>
    rw [spansAll_plain] at hp
    have := ih hp
    rw [flattenAll_plain, List.length_cons]
    omega
  | loop _ _ ihInner ihRest =>
    simp only [spansAll_loop, List.mem_cons, List.mem_append] at hp
    simp only [flattenAll_loop, List.length_cons, List.length_append]
    rcases hp with rfl | hp | hp
    · simp only
      omega
    · have := ihInner hp
      omega
    · have := ihRest hp
      omega

/-- Spans come in the order of their opens, and any two of them are nested or apart. -/
theorem spansAll_pairwise {bs : List Block} (h : Leaves P bs) (i : Nat) :
    (spansAll i bs).Pairwise fun p q => p.1 < q.1 ∧ (q.2 < p.2 ∨ p.2 < q.1) := by
  induction h generalizing i with
  | nil => simp
  | plain _ _ ih => simpa using ih (i + 1)
  | loop hinner hrest ihInner ihRest =>
    rw [spansAll_loop, List.pairwise_cons, List.pairwise_append]
    refine ⟨?_, ihInner _, ihRest _, ?_⟩
    · intro q hq
      rcases List.mem_append.1 hq with hq | hq
      · have := spansAll_bounds hinner hq
        simp only
        omega
      · have := spansAll_bounds hrest hq
        simp only
        omega
    · intro p hp q hq
      have := spansAll_bounds hinner hp
      have := spansAll_bounds hrest hq
      omega

/-- The spans of a forest that stands `n` statements further on. -/
theorem spansAll_add {bs : List Block} (h : Leaves P bs) (n i : Nat) :
    spansAll (n + i) bs = (spansAll i bs).map fun p => (n + p.1, n + p.2) := by
  induction h generalizing i with
  | nil => simp
  | plain _ _ ih => simpa [Nat.add_assoc] using ih (i + 1)
  | loop _ _ ihInner ihRest =>
    simp only [spansAll_loop, List.map_cons, List.map_append, ← ihInner, ← ihRest, Nat.add_assoc]

/-- The spans begin at the opens of a forest, in their order. -/
theorem map_fst_spansAll {bs : List Block} (h : Leaves (·.isBracket = false) bs) (i : Nat) :
    (spansAll i bs).map Prod.fst = (flattenAll bs).findIdxs (· = .loopOpen) i := by
  induction h generalizing i with
  | nil => simp
  | plain hs _ ih =>
    rw [spansAll_plain, flattenAll_plain, List.findIdxs_cons, if_neg, ih]
    rintro hopen
    simp_all [Statement.isBracket]
  | loop _ _ ihInner ihRest => simp [List.findIdxs_cons, List.findIdxs_append, ihInner, ihRest]

/-- The spans end at the closes of a forest. -/
theorem map_snd_spansAll_perm {bs : List Block} (h : Leaves (·.isBracket = false) bs) (i : Nat) :
    ((spansAll i bs).map Prod.snd).Perm ((flattenAll bs).findIdxs (· = .loopClose) i) := by
  induction h generalizing i with
  | nil => simp
  | plain hs _ ih =>
    rw [spansAll_plain, flattenAll_plain, List.findIdxs_cons, if_neg]
    · exact ih (i + 1)
    · rintro hclose
      simp_all [Statement.isBracket]
  | loop _ _ ihInner ihRest =>
    -- the close of the loop stands behind those in its body
    simp only [spansAll_loop, flattenAll_loop, List.map_cons, List.map_append, List.findIdxs_cons,
      List.findIdxs_append, reduceCtorEq, decide_false, Bool.false_eq_true, if_false, decide_true, if_true]
    exact List.perm_middle.symm.trans ((ihInner _).append ((ihRest _).cons _))

section

variable {bs : List Block} {i o c : Nat}

/-- All spans of a forest lie between two indices around it. -/
theorem filter_spansAll_eq_self (h : Leaves P bs) (ho : o < i) (hc : i + (flattenAll bs).length ≤ c) :
    (spansAll i bs).filter (fun p => o < p.1 ∧ p.2 < c) = spansAll i bs := by
  refine List.filter_eq_self.2 fun p hp => ?_
  have := spansAll_bounds h hp
  simp only [decide_eq_true_eq]
  omega

/-- No span of a forest lies between two indices behind it or before it. -/
theorem filter_spansAll_eq_nil (h : Leaves P bs) (hapart : i + (flattenAll bs).length ≤ o ∨ c ≤ i) :
    (spansAll i bs).filter (fun p => o < p.1 ∧ p.2 < c) = [] := by
  refine List.filter_eq_nil_iff.2 fun p hp => ?_
  have := spansAll_bounds h hp
  simp only [decide_eq_true_eq]
  omega

/-- Between the ends of a span stands a forest, and the spans between them are those of this forest. -/
theorem exists_inner_of_mem_spansAll (h : Leaves P bs) (hp : (o, c) ∈ spansAll i bs) :
    ∃ inner front back, Leaves P inner ∧
      flattenAll bs = front ++ .loopOpen :: (flattenAll inner ++ .loopClose :: back) ∧
      o = i + front.length ∧ c = o + 1 + (flattenAll inner).length ∧
      (spansAll i bs).filter (fun p => o < p.1 ∧ p.2 < c) = spansAll (o + 1) inner := by
  induction h generalizing i with
  | nil => simp at hp
  | @plain s rest _ _ ih =>
    rw [spansAll_plain] at hp
    obtain ⟨inner, front, back, hinner, hflat, ho, hc, hspans⟩ := ih hp
    refine ⟨inner, s :: front, back, hinner, by simp [hflat], ?_, hc, by rwa [spansAll_plain]⟩
    rw [List.length_cons]
    omega
  | @loop inner rest hinner hrest ihInner ihRest =>
    rw [spansAll_loop, List.filter_cons, List.filter_append]
    simp only [spansAll_loop, List.mem_cons, List.mem_append] at hp
    rcases hp with hp | hp | hp
    · obtain ⟨rfl, rfl⟩ := Prod.mk.inj hp
      refine ⟨inner, [], flattenAll rest, hinner, by simp, by simp, rfl, ?_⟩
      rw [if_neg (by simp), filter_spansAll_eq_self hinner (by omega) (by omega),
        filter_spansAll_eq_nil hrest (by omega), List.append_nil]
    · have hbounds : i + 1 ≤ o ∧ o < c ∧ c < i + 1 + (flattenAll inner).length := spansAll_bounds hinner hp
      obtain ⟨inner', front, back, hinner', hflat, ho, hc, hspans⟩ := ihInner hp
      refine ⟨inner', .loopOpen :: front, back ++ .loopClose :: flattenAll rest, hinner', by simp [hflat], ?_, hc, ?_⟩
      · rw [List.length_cons]
        omega
      · rw [if_neg (by simp; omega), hspans, filter_spansAll_eq_nil hrest (by omega), List.append_nil]
    · have hbounds : i + 1 + (flattenAll inner).length + 1 ≤ o := (spansAll_bounds hrest hp).1
      obtain ⟨inner', front, back, hinner', hflat, ho, hc, hspans⟩ := ihRest hp
      refine ⟨inner', .loopOpen :: (flattenAll inner ++ .loopClose :: front), back, hinner', by simp [hflat], ?_, hc,
        ?_⟩
      · simp only [List.length_cons, List.length_append]
        omega
      · rw [if_neg (by simp; omega), filter_spansAll_eq_nil hinner (by omega), List.nil_append, hspans]

end

/-! ### Partners -/

/-- If the pairs of a matching are spans that do not cross, each end of a pair has the other as its partner. -/
theorem Matching.partner_of_mem {m : Matching} (hlt : ∀ p ∈ m.pairs, p.1 < p.2)
    (hcross : m.pairs.Pairwise fun p q => p.1 < q.1 ∧ (q.2 < p.2 ∨ p.2 < q.1)) {o c : Nat}
    (h : (o, c) ∈ m.pairs) : m.partner o = some c ∧ m.partner c = some o := by
  obtain ⟨pairs⟩ := m
  unfold Matching.partner
  simp only at hlt hcross h ⊢
  induction pairs with
  | nil => simp at h
  | cons p rest ih =>
    rw [List.pairwise_cons] at hcross
    rcases List.mem_cons.1 h with rfl | h
    · have := hlt (o, c) (by simp)
      have hne : o ≠ c := by omega
      simp [hne]
    · have ih := ih (fun q hq => hlt q (by simp [hq])) hcross.2 h
      -- neither end of the first pair is an end of this one
      have hp := hlt p (by simp)
      have ho := hcross.1 (o, c) h
      have hc := hlt (o, c) (by simp [h])
      simp only at ho hc
      have h1 : p.1 ≠ o := by omega
      have h2 : p.2 ≠ o := by omega
      have h3 : p.1 ≠ c := by omega
      have h4 : p.2 ≠ c := by omega
      simpa [List.findSome?_cons, h1, h2, h3, h4] using ih

/-- The partner of an index is the other end of the pair it is in. -/
theorem Matching.partner_eq_some_iff {m : Matching} (hlt : ∀ p ∈ m.pairs, p.1 < p.2)
    (hcross : m.pairs.Pairwise fun p q => p.1 < q.1 ∧ (q.2 < p.2 ∨ p.2 < q.1)) {i j : Nat} :
    m.partner i = some j ↔ (i, j) ∈ m.pairs ∨ (j, i) ∈ m.pairs := by
  constructor
  · intro h
    obtain ⟨⟨o, c⟩, hmem, hend⟩ := List.exists_of_findSome?_eq_some h
    simp only at hend
    split at hend
    · simp_all
    · split at hend <;> simp_all
  · rintro (h | h)
    · exact (Matching.partner_of_mem hlt hcross h).1
    · exact (Matching.partner_of_mem hlt hcross h).2

/-! ### The bracket check -/

theorem Statement.ofSymbol_eq_loopOpen {y : Symbol} : Statement.ofSymbol y = .loopOpen ↔ y = .loopOpen := by
  cases y <;> simp [Statement.ofSymbol]

theorem Statement.ofSymbol_eq_loopClose {y : Symbol} : Statement.ofSymbol y = .loopClose ↔ y = .loopClose := by
  cases y <;> simp [Statement.ofSymbol]

section

variable {i : Nat} {pending : List (Nat × Position)} {found : List (Nat × Nat)} {s : Occurrence}
  {rest : List Occurrence}

private theorem matchFrom_open (hs : Statement.ofSymbol s.symbol = .loopOpen) :
    matchFrom i pending found (s :: rest) = matchFrom (i + 1) ((i, s.position) :: pending) found rest := by
  rw [Statement.ofSymbol_eq_loopOpen] at hs
  simp only [matchFrom, hs]

private theorem matchFrom_close {o : Nat} {p : Position} (hs : Statement.ofSymbol s.symbol = .loopClose) :
    matchFrom i ((o, p) :: pending) found (s :: rest) = matchFrom (i + 1) pending ((o, i) :: found) rest := by
  rw [Statement.ofSymbol_eq_loopClose] at hs
  simp only [matchFrom, hs]

private theorem matchFrom_plain (hs : (Statement.ofSymbol s.symbol).isBracket = false) :
    matchFrom i pending found (s :: rest) = matchFrom (i + 1) pending found rest := by
  cases hsym : s.symbol with
  | loopOpen => simp [hsym, Statement.ofSymbol, Statement.isBracket] at hs
  | loopClose => simp [hsym, Statement.ofSymbol, Statement.isBracket] at hs
  | _ => simp only [matchFrom, hsym]

end

/-- The check passes over a forest: it finds the spans of its loops and leaves the open loops as they are. -/
private theorem matchFrom_forest {bs : List Block} (h : Leaves (·.isBracket = false) bs)
    {program : List Occurrence} (hprogram : emit program = flattenAll bs) (i : Nat) :
    ∃ closed, closed.Perm (spansAll i bs) ∧ ∀ pending found rest,
      matchFrom i pending found (program ++ rest) =
        matchFrom (i + (flattenAll bs).length) pending (closed ++ found) rest := by
  induction h generalizing program i with
  | nil =>
    obtain rfl : program = [] := by simpa [emit] using hprogram
    exact ⟨[], by simp, fun _ _ _ => rfl⟩
  | plain hs _ ih =>
    rw [flattenAll_plain] at hprogram
    obtain ⟨y, ys, rfl, rfl, hys⟩ := List.map_eq_cons_iff.1 hprogram
    obtain ⟨closed, hperm, hstep⟩ := ih hys (i + 1)
    refine ⟨closed, by rwa [spansAll_plain], fun pending found rest' => ?_⟩
    rw [List.cons_append, matchFrom_plain hs, hstep, flattenAll_plain, List.length_cons]
    congr 1
    omega
  | @loop inner rest _ _ ihInner ihRest =>
    rw [flattenAll_loop] at hprogram
    obtain ⟨y, ys, rfl, hy, hys⟩ := List.map_eq_cons_iff.1 hprogram
    obtain ⟨ya, yb, rfl, hya, hyb⟩ := List.map_eq_append_iff.1 hys
    obtain ⟨z, zs, rfl, hz, hzs⟩ := List.map_eq_cons_iff.1 hyb
    obtain ⟨closedInner, hpermInner, hstepInner⟩ := ihInner hya (i + 1)
    obtain ⟨closedRest, hpermRest, hstepRest⟩ := ihRest hzs (i + 1 + (flattenAll inner).length + 1)
    refine ⟨closedRest ++ (i, i + 1 + (flattenAll inner).length) :: closedInner, ?_,
      fun pending found rest' => ?_⟩
    · -- the loops behind this one are found last, and so stand first
      rw [spansAll_loop]
      exact List.perm_middle.trans ((List.perm_append_comm.trans (hpermInner.append hpermRest)).cons _)
    · rw [List.cons_append, matchFrom_open hy, List.append_assoc, hstepInner, List.cons_append,
        matchFrom_close hz, hstepRest]
      simp only [flattenAll_loop, List.length_cons, List.length_append, List.append_assoc, List.cons_append]
      congr 1
      omega

/-- An accepted program has nothing to mend. -/
private theorem mend_of_matchFrom {i : Nat} {pending : List (Nat × Position)} {found found' : List (Nat × Nat)}
    {program : List Occurrence} (h : matchFrom i pending found program = .ok found') :
    mend pending.length (emit program) = emit program := by
  fun_induction matchFrom i pending found program with
  | case1 => cases h
  | case2 i pending found hp =>
    have : pending = [] := by simpa [outermost?] using hp
    subst this
    rfl
  | case3 i pending found s rest hs ih =>
    have ih := ih h
    simp only [emit, List.map_cons, hs, Statement.ofSymbol, mend, List.length_cons] at ih ⊢
    rw [ih]
  | case4 => cases h
  | case5 i found s rest hs o p outer ih =>
    have ih := ih h
    simp only [emit, List.map_cons, hs, Statement.ofSymbol, mend, List.length_cons] at ih ⊢
    rw [ih]
  | case6 i pending found s rest hopen hclose ih =>
    have ih := ih h
    have hs : (Statement.ofSymbol s.symbol).isBracket = false := by
      cases hsym : s.symbol <;> simp_all [Statement.ofSymbol, Statement.isBracket]
    simp only [emit, List.map_cons] at ih ⊢
    rw [mend_plain hs, ih]

theorem matchBrackets_eq_ok {program : List Occurrence} {m : Matching} :
    matchBrackets program = .ok m ↔
      ∃ found, matchFrom 0 [] [] program = .ok found ∧ found.mergeSort (fun a b => a.1 ≤ b.1) = m.pairs := by
  obtain ⟨pairs⟩ := m
  unfold matchBrackets
  cases matchFrom 0 [] [] program with
  | error e => simp [Except.map]
  | ok found => simp [Except.map]

/-- An accepted program is the flattened form of its nested body. -/
theorem flattenAll_nest_emit {program : List Occurrence} {m : Matching} (h : matchBrackets program = .ok m) :
    flattenAll (nest (emit program)) = emit program := by
  obtain ⟨found, hfound, -⟩ := matchBrackets_eq_ok.1 h
  rw [flattenAll_nest]
  exact mend_of_matchFrom hfound

/-- The bracket check finds the spans of the nested body. -/
theorem pairs_eq_spans {program : List Occurrence} {m : Matching} (h : matchBrackets program = .ok m) :
    m.pairs = spansAll 0 (nest (emit program)) := by
  have hleaves := plain_leaves_nest (emit program)
  obtain ⟨closed, hperm, hstep⟩ := matchFrom_forest hleaves (flattenAll_nest_emit h).symm 0
  obtain ⟨found, hfound, hpairs⟩ := matchBrackets_eq_ok.1 h
  have hall := hstep [] [] []
  rw [List.append_nil, hfound, List.append_nil] at hall
  obtain rfl : found = closed := by simpa [matchFrom, outermost?] using hall
  have hperm : m.pairs.Perm (spansAll 0 (nest (emit program))) := by
    rw [← hpairs]
    exact (List.mergeSort_perm _ _).trans hperm
  have hsorted : m.pairs.Pairwise fun a b => a.1 ≤ b.1 := by
    have hsort : (found.mergeSort fun a b => a.1 ≤ b.1).Pairwise fun a b => decide (a.1 ≤ b.1) = true :=
      List.pairwise_mergeSort (fun a b c => by simpa using Nat.le_trans)
        (fun a b => by simpa using Nat.le_total a.1 b.1) found
    rw [hpairs] at hsort
    simpa using hsort
  -- both lists are in the order of the opens, and no two loops open at one place
  have hspans := spansAll_pairwise hleaves 0
  have hnodup : ((spansAll 0 (nest (emit program))).map Prod.fst).Nodup := by
    rw [List.Nodup, List.pairwise_map]
    exact hspans.imp fun h => Nat.ne_of_lt h.1
  refine hperm.eq_of_pairwise ?_ hsorted (hspans.imp fun h => Nat.le_of_lt h.1)
  intro a b ha hb hab hba
  exact List.inj_on_of_nodup_map hnodup (hperm.mem_iff.1 ha) hb (Nat.le_antisymm hab hba)

/-- A flattened forest is accepted with the spans of its loops. -/
theorem matchBrackets_of_emit_eq {bs : List Block} (hbs : Leaves (·.isBracket = false) bs)
    {program : List Occurrence} (h : emit program = flattenAll bs) :
    matchBrackets program = .ok ⟨spansAll 0 bs⟩ := by
  obtain ⟨closed, -, hstep⟩ := matchFrom_forest hbs h 0
  have hall := hstep [] [] []
  rw [List.append_nil, List.append_nil] at hall
  have hok : matchBrackets program = .ok ⟨closed.mergeSort fun a b => a.1 ≤ b.1⟩ := by
    rw [matchBrackets, hall]
    rfl
  have hpairs := pairs_eq_spans hok
  rw [h, nest_flattenAll hbs] at hpairs
  rw [hok, ← hpairs]

section

variable {program : List Occurrence} {m : Matching}

theorem pairs_bounds (h : matchBrackets program = .ok m) : ∀ p ∈ m.pairs, p.1 < p.2 := by
  rw [pairs_eq_spans h]
  exact fun p hp => (spansAll_bounds (plain_leaves_nest _) hp).2.1

/-- Pairs come in the order of their opens, and any two of them are nested or apart. -/
theorem pairs_pairwise (h : matchBrackets program = .ok m) :
    m.pairs.Pairwise fun p q => p.1 < q.1 ∧ (q.2 < p.2 ∨ p.2 < q.1) := by
  rw [pairs_eq_spans h]
  exact spansAll_pairwise (plain_leaves_nest _) 0

/-- The partner of either end of a loop in an accepted program is its other end. -/
theorem partner_of_mem_spansAll (h : matchBrackets program = .ok m) {o c : Nat}
    (hmem : (o, c) ∈ spansAll 0 (nest (emit program))) : m.partner o = some c ∧ m.partner c = some o := by
  rw [← pairs_eq_spans h] at hmem
  exact Matching.partner_of_mem (pairs_bounds h) (pairs_pairwise h) hmem

end

/-! ### Compiled functions -/

/-- What `compile` returns is an accepted program, one statement for each symbol. -/
theorem body_of_compile {s : Source} {f : Function} (h : compile s = .ok f) :
    f.body = emit s.program ∧ ∃ m, matchBrackets s.program = .ok m := by
  obtain ⟨haccepted, name, -, rfl⟩ := compile_eq_ok.1 h
  exact ⟨rfl, haccepted⟩

theorem flattenAll_nest_body {s : Source} {f : Function} (h : compile s = .ok f) :
    flattenAll (nest f.body) = f.body := by
  obtain ⟨hbody, m, hm⟩ := body_of_compile h
  rw [hbody]
  exact flattenAll_nest_emit hm

/-- The moves of a program go by one cell. -/
theorem unit_of_mem_emit {program : List Occurrence} {d : Int64} (h : .move d ∈ emit program) : d = 1 ∨ d = -1 := by
  obtain ⟨o, -, ho⟩ := List.mem_map.1 h
  cases hs : o.symbol <;> simp_all [Statement.ofSymbol]

end TapeLang
