import Mathlib.Data.List.Pairwise
import TapeLang.Proofs.Bracket.Depth

/-!
# The matching of an accepted program

The bracket check pairs each open with the first later close behind which the depth is again what it was before the
open (`isLeast_of_mem_pairs`). Of any two pairs one lies inside the other or they stand apart, so that the matching is
local: what stands between the two brackets of a pair is a program of its own, which is accepted with the pairs that
lie between them (`matchBrackets_between`). `Matching.Perfect` gathers what this says of a matching.
-/

namespace TapeLang

/-- A loop closes at index `j`. -/
def ClosesAt (program : List Occurrence) (j : Nat) : Prop :=
  ∃ o, program[j]? = some o ∧ o.symbol = .loopClose

/-- Two pairs of indices that stand apart or of which one lies inside the other. -/
def Noncrossing (p q : Nat × Nat) : Prop :=
  p.2 < q.1 ∨ q.2 < p.1 ∨ p.1 < q.1 ∧ q.2 < p.2 ∨ q.1 < p.1 ∧ p.2 < q.2

instance : Std.Symm Noncrossing where
  symm p q h := by
    unfold Noncrossing at h ⊢
    omega

/-- The symbols strictly between two indices. -/
def between (program : List Occurrence) (i j : Nat) : List Occurrence :=
  (program.take j).drop (i + 1)

namespace Matching

/-- The pairs strictly between two indices, counted from behind the first of these. -/
def between (m : Matching) (i j : Nat) : Matching :=
  ⟨(m.pairs.filter fun p => i < p.1 ∧ p.2 < j).map fun p => (p.1 - (i + 1), p.2 - (i + 1))⟩

/-- A matching that is perfect and does not cross itself. -/
structure Perfect (program : List Occurrence) (m : Matching) : Prop where
  isSome_partner_iff : ∀ i, (m.partner i).isSome ↔ OpensAt program i ∨ ClosesAt program i
  involutive : ∀ i j, m.partner i = some j → m.partner j = some i ∧ i ≠ j
  /-- The partner of an open is the first later close behind which the depth has come back. -/
  isLeast : ∀ i, OpensAt program i → ∃ j, m.partner i = some j ∧
    IsLeast {j | i < j ∧ ClosesAt program j ∧ depth program (j + 1) = depth program i} j
  noncrossing : ∀ p ∈ m.pairs, ∀ q ∈ m.pairs, p ≠ q → Noncrossing p q
  /-- The pairs are found at their opens among the partners of all indices. -/
  pairs_eq : m.pairs = (List.range program.length).filterMap fun i =>
    (m.partner i).bind fun j => if i < j then some (i, j) else none
  opens_eq : m.pairs.map Prod.fst = program.findIdxs (·.symbol = .loopOpen)
  partner_fst : ∀ p ∈ m.pairs, m.partner p.1 = some p.2
  size_eq : m.size = program.countP (·.symbol = .loopOpen)
  two_mul_size : 2 * m.size = (List.range program.length).countP fun i => (m.partner i).isSome
  /-- What stands between an open and its partner is accepted with the pairs that lie there. -/
  accepts_between : ∀ i j, i < j → m.partner i = some j →
    matchBrackets (TapeLang.between program i j) = .ok (m.between i j)
  partner_between : ∀ i j, m.partner i = some j → ∀ k, i + 1 + k < j →
    (m.between i j).partner k = (m.partner (i + 1 + k)).map (· - (i + 1))

end Matching

/-! ### Depth between two indices -/

section

variable {program : List Occurrence} {i j k : Nat}

theorem depth_between (hk : i + 1 + k ≤ j) :
    depth (between program i j) k = depth program (i + 1 + k) - depth program (i + 1) := by
  have htake : (program.take j).take (i + 1 + k) = program.take (i + 1) ++ (between program i j).take k := by
    rw [List.take_add, List.take_take, Nat.min_eq_left (by omega), between]
  rw [List.take_take, Nat.min_eq_left hk] at htake
  simp only [depth, htake, List.countP_append]
  omega

end

/-! ### The pairs of an accepted program -/

section

variable {program : List Occurrence} {m : Matching}

theorem partner_eq_some_iff (h : matchBrackets program = .ok m) {i j : Nat} :
    m.partner i = some j ↔ (i, j) ∈ m.pairs ∨ (j, i) ∈ m.pairs :=
  Matching.partner_eq_some_iff (pairs_bounds h) (pairs_pairwise h)

/-- Two pairs do not cross. -/
theorem noncrossing_of_mem (h : matchBrackets program = .ok m) {p q : Nat × Nat} (hp : p ∈ m.pairs)
    (hq : q ∈ m.pairs) (hne : p ≠ q) : Noncrossing p q := by
  refine List.Pairwise.forall ((pairs_pairwise h).imp fun hpq => ?_) hp hq hne
  unfold Noncrossing
  omega

theorem map_fst_pairs (h : matchBrackets program = .ok m) :
    m.pairs.map Prod.fst = program.findIdxs (·.symbol = .loopOpen) := by
  rw [pairs_eq_spans h, map_fst_spansAll (plain_leaves_nest _), flattenAll_nest_emit h, emit, List.findIdxs_map]
  congr 1
  funext o
  simp [Statement.ofSymbol_eq_loopOpen]

theorem map_snd_pairs_perm (h : matchBrackets program = .ok m) :
    (m.pairs.map Prod.snd).Perm (program.findIdxs (·.symbol = .loopClose)) := by
  have hperm := map_snd_spansAll_perm (plain_leaves_nest (emit program)) 0
  rw [← pairs_eq_spans h, flattenAll_nest_emit h, emit, List.findIdxs_map] at hperm
  convert hperm using 2
  funext o
  simp [Statement.ofSymbol_eq_loopClose]

theorem opensAt_iff_mem (h : matchBrackets program = .ok m) {i : Nat} :
    OpensAt program i ↔ ∃ j, (i, j) ∈ m.pairs := by
  have hmem : i ∈ m.pairs.map Prod.fst ↔ i ∈ program.findIdxs (·.symbol = .loopOpen) := by
    rw [map_fst_pairs h]
  simpa [OpensAt, List.mem_findIdxs_iff_exists_getElem_pos, List.getElem?_eq_some_iff] using hmem.symm

theorem closesAt_iff_mem (h : matchBrackets program = .ok m) {j : Nat} :
    ClosesAt program j ↔ ∃ i, (i, j) ∈ m.pairs := by
  have hmem := (map_snd_pairs_perm h).mem_iff (a := j)
  simpa [ClosesAt, List.mem_findIdxs_iff_exists_getElem_pos, List.getElem?_eq_some_iff] using hmem.symm

theorem pairs_lt_length (h : matchBrackets program = .ok m) {p : Nat × Nat} (hp : p ∈ m.pairs) :
    p.1 < program.length ∧ p.2 < program.length := by
  obtain ⟨o, ho, -⟩ := (opensAt_iff_mem h).2 ⟨p.2, hp⟩
  obtain ⟨c, hc, -⟩ := (closesAt_iff_mem h).2 ⟨p.1, hp⟩
  exact ⟨(List.getElem?_eq_some_iff.1 ho).1, (List.getElem?_eq_some_iff.1 hc).1⟩

/-- The pairs are read off the partners of all indices, each at its open. -/
theorem pairs_eq_filterMap (h : matchBrackets program = .ok m) :
    m.pairs = (List.range program.length).filterMap fun i =>
      (m.partner i).bind fun j => if i < j then some (i, j) else none := by
  have hread {i : Nat} {p : Nat × Nat} :
      ((m.partner i).bind fun j => if i < j then some (i, j) else none) = some p ↔ i = p.1 ∧ p ∈ m.pairs := by
    obtain ⟨o, c⟩ := p
    simp only [Option.bind_eq_some_iff, partner_eq_some_iff h, Option.ite_none_right_eq_some, Option.some.injEq,
      Prod.mk.injEq]
    constructor
    · rintro ⟨j, hij | hji, hlt, rfl, rfl⟩
      · exact ⟨rfl, hij⟩
      · have : j < i := pairs_bounds h _ hji
        omega
    · rintro ⟨rfl, hp⟩
      exact ⟨c, .inl hp, pairs_bounds h _ hp, rfl, rfl⟩
  have hsorted := (pairs_pairwise h).imp fun hpq => hpq.1
  have hsorted' : ((List.range program.length).filterMap fun i =>
      (m.partner i).bind fun j => if i < j then some (i, j) else none).Pairwise fun p q => p.1 < q.1 := by
    refine List.pairwise_filterMap.2 (List.pairwise_lt_range.imp fun {i j} hij p hp q hq => ?_)
    rw [← (hread.1 hp).1, ← (hread.1 hq).1]
    exact hij
  have hnodup {l : List (Nat × Nat)} (hl : l.Pairwise fun p q => p.1 < q.1) : l.Nodup :=
    hl.imp fun hlt heq => Nat.ne_of_lt hlt (congrArg Prod.fst heq)
  refine ((List.perm_ext_iff_of_nodup (hnodup hsorted) (hnodup hsorted')).2 fun p => ?_).eq_of_pairwise ?_ hsorted
    hsorted'
  · rw [List.mem_filterMap]
    simp only [hread, List.mem_range]
    constructor
    · intro hp
      exact ⟨p.1, (pairs_lt_length h hp).1, rfl, hp⟩
    · rintro ⟨i, -, -, hp⟩
      exact hp
  · intro p q _ _ hpq hqp
    omega

/-- Every pair makes two indices that have partners. -/
theorem two_mul_size (h : matchBrackets program = .ok m) :
    2 * m.size = (List.range program.length).countP fun i => (m.partner i).isSome := by
  have hnodup : (m.pairs.map Prod.fst ++ m.pairs.map Prod.snd).Nodup := by
    refine List.nodup_append.2 ⟨?_, ?_, ?_⟩
    · rw [map_fst_pairs h]
      exact List.nodup_findIdxs
    · rw [(map_snd_pairs_perm h).nodup_iff]
      exact List.nodup_findIdxs
    · rintro i hi _ hj rfl
      obtain ⟨p, hp, rfl⟩ := List.mem_map.1 hi
      obtain ⟨q, hq, heq⟩ := List.mem_map.1 hj
      obtain ⟨x, hx, hopen⟩ := (opensAt_iff_mem h).2 ⟨p.2, hp⟩
      obtain ⟨y, hy, hclose⟩ := (closesAt_iff_mem h).2 ⟨q.1, hq⟩
      simp_all
  have hperm : ((List.range program.length).filter fun i => (m.partner i).isSome).Perm
      (m.pairs.map Prod.fst ++ m.pairs.map Prod.snd) := by
    refine (List.perm_ext_iff_of_nodup (List.nodup_range.filter _) hnodup).2 fun i => ?_
    simp only [List.mem_filter, List.mem_range, List.mem_append, List.mem_map, Option.isSome_iff_exists,
      partner_eq_some_iff h]
    constructor
    · rintro ⟨-, j, hj | hj⟩
      · exact .inl ⟨_, hj, rfl⟩
      · exact .inr ⟨_, hj, rfl⟩
    · rintro (⟨p, hp, rfl⟩ | ⟨p, hp, rfl⟩)
      · exact ⟨(pairs_lt_length h hp).1, p.2, .inl hp⟩
      · exact ⟨(pairs_lt_length h hp).2, p.1, .inr hp⟩
  rw [List.countP_eq_length_filter, hperm.length_eq, List.length_append, List.length_map, List.length_map,
    Matching.size, Nat.two_mul]

/-- What stands between the brackets of a pair is accepted with the pairs that lie there. -/
theorem matchBrackets_between (h : matchBrackets program = .ok m) {i j : Nat} (hp : (i, j) ∈ m.pairs) :
    matchBrackets (between program i j) = .ok (m.between i j) := by
  rw [pairs_eq_spans h] at hp
  obtain ⟨inner, front, back, hinner, hflat, hi, hj, hspans⟩ := exists_inner_of_mem_spansAll (plain_leaves_nest _) hp
  have hemit : emit (between program i j) = flattenAll inner := by
    have hsplit : emit program = (front ++ [.loopOpen] ++ flattenAll inner) ++ .loopClose :: back := by
      rw [← flattenAll_nest_emit h, hflat]
      simp
    rw [emit, between, List.map_drop, List.map_take, ← emit, hsplit, List.take_left', List.drop_left']
    · simp
      omega
    · simp
      omega
  have hpairs : (m.between i j).pairs = spansAll 0 inner := by
    have hshift := spansAll_add hinner (i + 1) 0
    rw [Nat.add_zero] at hshift
    rw [Matching.between, pairs_eq_spans h, hspans, hshift, List.map_map]
    simp [Function.comp_def]
  rw [matchBrackets_of_emit_eq hinner hemit, ← hpairs]

/-- The close of a pair is the first behind which the depth is again what it was before the open. -/
theorem isLeast_of_mem_pairs (h : matchBrackets program = .ok m) {i j : Nat} (hp : (i, j) ∈ m.pairs) :
    IsLeast {j | i < j ∧ ClosesAt program j ∧ depth program (j + 1) = depth program i} j := by
  have hlt : i < j := pairs_bounds h _ hp
  obtain ⟨o, ho, hopen⟩ := (opensAt_iff_mem h).2 ⟨j, hp⟩
  obtain ⟨c, hc, hclose⟩ := (closesAt_iff_mem h).2 ⟨i, hp⟩
  have hj : j < program.length := (pairs_lt_length h hp).2
  -- between the brackets the depth stays above that behind the open, and comes back to it at the end
  have hlength : (between program i j).length = j - (i + 1) := by
    simp [between]
    omega
  obtain ⟨hnonneg, hzero⟩ := isOk_matchBrackets_iff.1 ⟨_, matchBrackets_between h hp⟩
  rw [hlength, depth_between (by omega), Nat.add_sub_cancel' hlt] at hzero
  have hbehind : depth program (i + 1) = depth program i + 1 := by rw [depth_succ ho, hopen, Symbol.weight]
  refine ⟨⟨hlt, ⟨c, hc, hclose⟩, ?_⟩, ?_⟩
  · rw [depth_succ hc, hclose, Symbol.weight]
    omega
  · rintro l ⟨hil, -, hl⟩
    by_contra hlj
    have hk := hnonneg (l + 1 - (i + 1)) (by omega)
    rw [depth_between (by omega), Nat.add_sub_cancel' (by omega)] at hk
    omega

/-- Between the brackets of a pair the partners are those of the program, counted from behind the open. -/
theorem partner_between (h : matchBrackets program = .ok m) {i j k : Nat} (hp : (i, j) ∈ m.pairs)
    (hk : i + 1 + k < j) : (m.between i j).partner k = (m.partner (i + 1 + k)).map (· - (i + 1)) := by
  have hinside := matchBrackets_between h hp
  ext l
  rw [partner_eq_some_iff hinside, Option.map_eq_some_iff]
  simp only [partner_eq_some_iff h]
  simp only [Matching.between, List.mem_map, List.mem_filter, decide_eq_true_eq, Prod.mk.injEq]
  constructor
  · rintro (⟨⟨a, b⟩, ⟨hab, hia, hbj⟩, ha, hb⟩ | ⟨⟨a, b⟩, ⟨hab, hia, hbj⟩, ha, hb⟩)
    · obtain rfl : a = i + 1 + k := by omega
      exact ⟨b, .inl hab, hb⟩
    · have := pairs_bounds h _ hab
      obtain rfl : b = i + 1 + k := by omega
      exact ⟨a, .inr hab, ha⟩
  · rintro ⟨l', hl' | hl', rfl⟩
    · have hlt : i + 1 + k < l' := pairs_bounds h _ hl'
      have hl'j : l' < j := by
        have hcross := noncrossing_of_mem h hp hl' (by simp; omega)
        unfold Noncrossing at hcross
        omega
      exact .inl ⟨_, ⟨hl', by omega, hl'j⟩, by omega, rfl⟩
    · have hlt : l' < i + 1 + k := pairs_bounds h _ hl'
      have hil' : i < l' := by
        have hcross := noncrossing_of_mem h hp hl' (by simp; omega)
        unfold Noncrossing at hcross
        omega
      exact .inr ⟨_, ⟨hl', hil', hk⟩, rfl, by omega⟩

end

/-- The bracket check accepts with a perfect matching that does not cross itself. -/
theorem perfect_of_matchBrackets {program : List Occurrence} {m : Matching} (h : matchBrackets program = .ok m) :
    m.Perfect program where
  isSome_partner_iff i := by
    simp only [Option.isSome_iff_exists, partner_eq_some_iff h, exists_or, opensAt_iff_mem h, closesAt_iff_mem h]
  involutive i j hij := by
    rw [partner_eq_some_iff h] at hij ⊢
    refine ⟨hij.symm, ?_⟩
    rcases hij with hij | hij
    · exact Nat.ne_of_lt (pairs_bounds h _ hij)
    · exact Nat.ne_of_gt (pairs_bounds h _ hij)
  isLeast i hi := by
    obtain ⟨j, hp⟩ := (opensAt_iff_mem h).1 hi
    exact ⟨j, (partner_eq_some_iff h).2 (.inl hp), isLeast_of_mem_pairs h hp⟩
  noncrossing _ hp _ hq := noncrossing_of_mem h hp hq
  pairs_eq := pairs_eq_filterMap h
  opens_eq := map_fst_pairs h
  partner_fst p hp := (partner_eq_some_iff h).2 (.inl hp)
  size_eq := by
    rw [Matching.size, ← List.length_map Prod.fst, map_fst_pairs h, List.length_findIdxs]
  two_mul_size := two_mul_size h
  accepts_between i j hlt hij := by
    refine matchBrackets_between h (((partner_eq_some_iff h).1 hij).resolve_right fun hji => ?_)
    have := pairs_bounds h _ hji
    omega
  partner_between i j hij k hk := by
    refine partner_between h (((partner_eq_some_iff h).1 hij).resolve_right fun hji => ?_) hk
    have : j < i := pairs_bounds h _ hji
    omega

/-- The two loops of a program, and the inner one as a program of its own. -/
theorem perfect_of_matchBrackets_nested :
    matchBrackets (lex "+[>[-]]<") = .ok ⟨[(1, 6), (3, 5)]⟩ ∧
      matchBrackets (between (lex "+[>[-]]<") 1 6) = .ok ⟨[(1, 3)]⟩ := by
  have h : matchBrackets (lex "+[>[-]]<") = .ok ⟨[(1, 6), (3, 5)]⟩ :=
    matchBrackets_eq_ok.2 ⟨[(1, 6), (3, 5)], rfl, by simp [List.mergeSort]⟩
  exact ⟨h, (perfect_of_matchBrackets h).accepts_between 1 6 (by decide) rfl⟩

end TapeLang
