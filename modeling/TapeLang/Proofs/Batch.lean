import Mathlib.Data.List.Nodup
import TapeLang.Compile

/-!
# What becomes of every source

`Verdict earlier s` says what a batch makes of the source `s` behind the sources `earlier`: its own error if it does
not compile, its function if no earlier source compiles to one with its clash key, and a complaint that names the
first such source otherwise. While a batch is compiled, the taken keys are those of the sources so far, each with the
first source that has it (`Records`), and `verdict` decides by them. So a batch consists of one verdict for each source
(`compileFrom_eq`, `compileAll_accounts`), its functions have different clash keys (`pairwise_clashKey`), and a source
is turned away for the function that has its key (`nameTaken_iff`).
-/

namespace TapeLang

theorem source_of_compile {s : Source} {f : Function} (h : compile s = .ok f) : f.source = s.name := by
  obtain ⟨-, name, -, rfl⟩ := compile_eq_ok.1 h
  rfl

/-- The name of a function depends on the stem of its source only. -/
theorem name_eq_of_stem_eq {s t : Source} {f g : Function} (h : s.stem = t.stem) (hf : compile s = .ok f)
    (hg : compile t = .ok g) : f.name = g.name := by
  obtain ⟨-, a, ha, rfl⟩ := compile_eq_ok.1 hf
  obtain ⟨-, b, hb, rfl⟩ := compile_eq_ok.1 hg
  rw [h, hb] at ha
  exact (Option.some.inj ha).symm

/-- The source compiles to a function with the clash key `key`. -/
def Source.Claims (key : String) (s : Source) : Prop :=
  ∃ f, compile s = .ok f ∧ clashKey f.name = key

theorem Source.claims_iff {key : String} {s : Source} :
    s.Claims key ↔ (compile s).toOption.map (fun f => clashKey f.name) = some key := by
  unfold Source.Claims
  cases compile s <;> simp [Except.toOption]

instance (key : String) (s : Source) : Decidable (s.Claims key) :=
  decidable_of_iff _ Source.claims_iff.symm

/-- What becomes of the source `s` behind the sources `earlier`. -/
inductive Verdict (earlier : List Source) (s : Source) : Except Rejection Function → Prop where
  | failed {e : CompileError} (h : compile s = .error e) : Verdict earlier s (.error ⟨s.name, e⟩)
  | taken {f : Function} {first : Source} (h : compile s = .ok f)
      (hfirst : earlier.find? (·.Claims (clashKey f.name)) = some first) :
      Verdict earlier s (.error ⟨s.name, .nameTaken f.name first.name⟩)
  | kept {f : Function} (h : compile s = .ok f) (hfree : ∀ t ∈ earlier, ¬ t.Claims (clashKey f.name)) :
      Verdict earlier s (.ok f)

/-- A source has one verdict only. -/
theorem Verdict.unique {earlier : List Source} {s : Source} {v w : Except Rejection Function}
    (hv : Verdict earlier s v) (hw : Verdict earlier s w) : v = w := by
  have hexcl : ∀ {key : String} {first : Source}, earlier.find? (·.Claims key) = some first →
      ¬ ∀ t ∈ earlier, ¬ t.Claims key := fun hfirst hfree =>
    hfree _ (List.mem_of_find?_eq_some hfirst) (by simpa using List.find?_some hfirst)
  cases hv with
  | failed hs => cases hw <;> simp_all
  | taken hs hfirst =>
    cases hw with
    | kept hs' hfree =>
      obtain rfl := Except.ok.inj (hs.symm.trans hs')
      exact absurd hfree (hexcl hfirst)
    | _ => simp_all
  | kept hs hfree =>
    cases hw with
    | taken hs' hfirst =>
      obtain rfl := Except.ok.inj (hs.symm.trans hs')
      exact absurd hfree (hexcl hfirst)
    | _ => simp_all

namespace Batch

/-- The batch with what a verdict adds in front. -/
def add : Except Rejection Function → Batch → Batch
  | .ok f, b => b.accept f
  | .error r, b => b.reject r

/-- The rejection that a verdict is, if it is one. -/
def rejection? : Except Rejection Function → Option Rejection
  | .error r => some r
  | .ok _ => none

variable (verdicts : List (Except Rejection Function))

theorem functions_foldr_add : (verdicts.foldr add .empty).functions = verdicts.filterMap Except.toOption := by
  induction verdicts with
  | nil => rfl
  | cons v verdicts ih => cases v <;> simp [add, accept, reject, Except.toOption, ih, List.filterMap_cons]

theorem rejections_foldr_add : (verdicts.foldr add .empty).rejections = verdicts.filterMap rejection? := by
  induction verdicts with
  | nil => rfl
  | cons v verdicts ih => cases v <;> simp [add, accept, reject, rejection?, ih, List.filterMap_cons]

theorem length_foldr_add :
    (verdicts.foldr add .empty).functions.length + (verdicts.foldr add .empty).rejections.length =
      verdicts.length := by
  induction verdicts with
  | nil => rfl
  | cons v verdicts ih => cases v <;> simp [add, accept, reject] <;> omega

end Batch

section

variable {earlier : List Source} {taken : List (String × String)} {s : Source}

/-! ### One source -/

/-- The taken keys are those of the sources `earlier`, each with the first source that has it. -/
def Records (earlier : List Source) (taken : List (String × String)) : Prop :=
  ∀ key, takenBy? taken key = (earlier.find? (·.Claims key)).map (·.name)

/-- A source without a new key leaves the record as it is. -/
theorem Records.skip (h : Records earlier taken) (hs : ∀ key, s.Claims key → (earlier.find? (·.Claims key)).isSome) :
    Records (earlier ++ [s]) taken := by
  intro key
  rw [h key, List.find?_append]
  cases hfind : earlier.find? (·.Claims key) with
  | some first => simp
  | none =>
    have hclaims : ¬ s.Claims key := fun hc => by simpa [hfind] using hs key hc
    simp [hclaims]

/-- A source with a new key is recorded as its first one. -/
theorem Records.enter {f : Function} (h : Records earlier taken) (hs : compile s = .ok f)
    (hfree : earlier.find? (·.Claims (clashKey f.name)) = none) :
    Records (earlier ++ [s]) ((clashKey f.name, s.name) :: taken) := by
  have hclaims : ∀ key, s.Claims key ↔ clashKey f.name = key := fun key => by
    simp [Source.Claims, hs]
  intro key
  rw [List.find?_append]
  by_cases hkey : clashKey f.name = key
  · subst hkey
    have hself : s.Claims (clashKey f.name) := (hclaims _).2 rfl
    simp [takenBy?, hfree, hself]
  · have hnot : ¬ s.Claims key := fun hc => hkey ((hclaims key).1 hc)
    have hskip : takenBy? ((clashKey f.name, s.name) :: taken) key = takenBy? taken key := by
      simp [takenBy?, hkey]
    rw [hskip, h key]
    simp [hnot]

/-- What becomes of a source while the keys in `taken` are in use. -/
def verdict (taken : List (String × String)) (s : Source) : Except Rejection Function :=
  match compile s with
  | .error e => .error ⟨s.name, e⟩
  | .ok f =>
    match takenBy? taken (clashKey f.name) with
    | some first => .error ⟨s.name, .nameTaken f.name first⟩
    | none => .ok f

/-- The keys in use behind a source with a verdict: only an accepted function takes one. -/
def takenAfter (taken : List (String × String)) (s : Source) : Except Rejection Function → List (String × String)
  | .ok f => (clashKey f.name, s.name) :: taken
  | .error _ => taken

theorem compileFrom_cons (taken : List (String × String)) (s : Source) (rest : List Source) :
    compileFrom taken (s :: rest) =
      (compileFrom (takenAfter taken s (verdict taken s)) rest).add (verdict taken s) := by
  unfold verdict
  rw [compileFrom]
  cases compile s with
  | error e => rfl
  | ok f =>
    dsimp only
    cases takenBy? taken (clashKey f.name) <;> rfl

/-- Compiling one source of a batch gives its verdict and keeps the record. -/
theorem Records.verdict (h : Records earlier taken) (s : Source) :
    Verdict earlier s (verdict taken s) ∧ Records (earlier ++ [s]) (takenAfter taken s (verdict taken s)) := by
  unfold TapeLang.verdict
  cases hs : compile s with
  | error e =>
    refine ⟨.failed hs, h.skip ?_⟩
    rintro key ⟨f, hf, -⟩
    rw [hs] at hf
    cases hf
  | ok f =>
    have hkey := h (clashKey f.name)
    cases hfind : earlier.find? (·.Claims (clashKey f.name)) with
    | some first =>
      rw [hfind, Option.map_some] at hkey
      simp only [hkey]
      refine ⟨.taken hs hfind, h.skip ?_⟩
      rintro key ⟨g, hg, rfl⟩
      obtain rfl := Except.ok.inj (hs.symm.trans hg)
      rw [hfind]
      rfl
    | none =>
      rw [hfind, Option.map_none] at hkey
      have hfree : ∀ t ∈ earlier, ¬ t.Claims (clashKey f.name) := by simpa using hfind
      simp only [hkey]
      exact ⟨.kept hs hfree, h.enter hs hfind⟩

/-! ### All sources -/

/-- What becomes of each source, where `taken` holds the keys in use before the first. -/
def verdictsFrom (taken : List (String × String)) : List Source → List (Except Rejection Function)
  | [] => []
  | s :: rest => verdict taken s :: verdictsFrom (takenAfter taken s (verdict taken s)) rest

theorem compileFrom_eq (taken : List (String × String)) (sources : List Source) :
    compileFrom taken sources = (verdictsFrom taken sources).foldr Batch.add .empty := by
  induction sources generalizing taken with
  | nil => rfl
  | cons s rest ih => rw [compileFrom_cons, ih, verdictsFrom, List.foldr_cons]

/-- Every source has its verdict behind the sources before it. -/
def Judged (earlier sources : List Source) (verdicts : List (Except Rejection Function)) : Prop :=
  verdicts.length = sources.length ∧
    ∀ i s, sources[i]? = some s → ∀ v, verdicts[i]? = some v ↔ Verdict (earlier ++ sources.take i) s v

theorem Records.judged (h : Records earlier taken) (sources : List Source) :
    Judged earlier sources (verdictsFrom taken sources) := by
  induction sources generalizing earlier taken with
  | nil => exact ⟨rfl, by simp⟩
  | cons s rest ih =>
    obtain ⟨hv, hrecords⟩ := h.verdict s
    obtain ⟨hlength, hverdicts⟩ := ih hrecords
    refine ⟨by simp [verdictsFrom, hlength], ?_⟩
    intro i t ht w
    rw [verdictsFrom]
    cases i with
    | zero =>
      obtain rfl : s = t := by simpa using ht
      rw [List.getElem?_cons_zero, Option.some_inj, List.take_zero, List.append_nil]
      exact ⟨fun hvw => hvw ▸ hv, hv.unique⟩
    | succ i =>
      have htake : earlier ++ (s :: rest).take (i + 1) = earlier ++ [s] ++ rest.take i := by simp
      rw [List.getElem?_cons_succ, hverdicts i t (by simpa using ht) w, htake]

theorem judged_verdictsFrom_nil (sources : List Source) : Judged [] sources (verdictsFrom [] sources) :=
  Records.judged (fun _ => rfl) sources

theorem exists_verdicts_compileAll (sources : List Source) :
    ∃ verdicts, Judged [] sources verdicts ∧ compileAll sources = verdicts.foldr Batch.add .empty :=
  ⟨_, judged_verdictsFrom_nil sources, compileFrom_eq [] sources⟩

/-- The source of a function compiles to it, and no earlier one has its clash key. -/
theorem Judged.source_of_ok {sources : List Source} {verdicts : List (Except Rejection Function)}
    (h : Judged earlier sources verdicts) {i : Nat} {f : Function} (hf : verdicts[i]? = some (.ok f)) :
    ∃ s, sources[i]? = some s ∧ compile s = .ok f ∧
      ∀ t ∈ earlier ++ sources.take i, ¬ t.Claims (clashKey f.name) := by
  obtain ⟨hi, -⟩ := List.getElem?_eq_some_iff.1 hf
  rw [h.1] at hi
  have hs : sources[i]? = some sources[i] := List.getElem?_eq_getElem hi
  cases (h.2 i _ hs _).1 hf with
  | kept hcompile hfree => exact ⟨_, hs, hcompile, hfree⟩

section

variable {sources : List Source} {verdicts : List (Except Rejection Function)} {i : Nat}

/-- The first source with a clash key is the one that gave the function with this key. -/
theorem Judged.find?_claims (h : Judged [] sources verdicts) {key : String} {first : Source} :
    (sources.take i).find? (·.Claims key) = some first ↔
      ∃ j < i, ∃ g, sources[j]? = some first ∧ verdicts[j]? = some (.ok g) ∧ clashKey g.name = key := by
  rw [List.find?_eq_some_iff_append]
  constructor
  · rintro ⟨hclaims, before, after, htake, hbefore⟩
    obtain ⟨g, hg, hkey⟩ : first.Claims key := by simpa using hclaims
    have hj : before.length < i := by
      have hlength := congrArg List.length htake
      simp only [List.length_take, List.length_append, List.length_cons] at hlength
      omega
    have hfirst : sources[before.length]? = some first := by
      rw [← List.getElem?_take_of_lt hj, htake]
      simp
    have hprefix : sources.take before.length = before := by
      have htwice := congrArg (List.take before.length) htake
      rwa [List.take_take, Nat.min_eq_left (Nat.le_of_lt hj), List.take_left] at htwice
    have hfree : ∀ t ∈ [] ++ sources.take before.length, ¬ t.Claims (clashKey g.name) := by
      rw [List.nil_append, hprefix, hkey]
      simpa using hbefore
    exact ⟨_, hj, g, hfirst, (h.2 _ _ hfirst _).2 (.kept hg hfree), hkey⟩
  · rintro ⟨j, hj, g, hfirst, hok, rfl⟩
    obtain ⟨s, hs, hcompile, hfree⟩ := h.source_of_ok hok
    obtain rfl := Option.some.inj (hfirst.symm.trans hs)
    have hclaims : first.Claims (clashKey g.name) := ⟨g, hcompile, rfl⟩
    have hsplit : sources.take i = sources.take j ++ first :: (sources.take i).drop (j + 1) := by
      obtain ⟨hlength, hget⟩ := List.getElem?_eq_some_iff.1 ((List.getElem?_take_of_lt hj).trans hfirst)
      rw [← hget, ← List.drop_eq_getElem_cons hlength]
      conv_lhs => rw [← List.take_append_drop j (sources.take i)]
      rw [List.take_take, Nat.min_eq_left (Nat.le_of_lt hj)]
    exact ⟨by simpa using hclaims, _, _, hsplit, by simpa using hfree⟩

/-- A source that compiles is turned away exactly if an earlier one gave a function with its clash key. -/
theorem Judged.nameTaken_iff (h : Judged [] sources verdicts) {s : Source} {f : Function} {first : String}
    (hs : sources[i]? = some s) (hf : compile s = .ok f) :
    verdicts[i]? = some (.error ⟨s.name, .nameTaken f.name first⟩) ↔
      ∃ j < i, ∃ g, verdicts[j]? = some (.ok g) ∧ g.source = first ∧ clashKey f.name = clashKey g.name := by
  rw [h.2 i s hs]
  constructor
  · intro hv
    generalize hverdict : Except.error (Rejection.mk s.name (.nameTaken f.name first)) = v at hv
    cases hv with
    | failed he => simp [hf] at he
    | kept _ _ => cases hverdict
    | @taken f' t hf' hfirst =>
      obtain rfl := Except.ok.inj (hf.symm.trans hf')
      simp only [Except.error.injEq, Rejection.mk.injEq, CompileError.nameTaken.injEq, true_and] at hverdict
      obtain ⟨j, hj, g, ht, hok, hkey⟩ := h.find?_claims.1 hfirst
      obtain ⟨t', ht', hg, -⟩ := h.source_of_ok hok
      obtain rfl := Option.some.inj (ht.symm.trans ht')
      exact ⟨j, hj, g, hok, (source_of_compile hg).trans hverdict.symm, hkey.symm⟩
  · rintro ⟨j, hj, g, hok, rfl, hkey⟩
    obtain ⟨t, ht, hg, -⟩ := h.source_of_ok hok
    rw [source_of_compile hg]
    exact .taken hf (h.find?_claims.2 ⟨j, hj, g, ht, hok, hkey.symm⟩)

end

theorem toOption_eq_some {v : Except Rejection Function} {f : Function} : v.toOption = some f ↔ v = .ok f := by
  cases v <;> simp [Except.toOption]

/-- A function of a batch is what one of its sources compiles to. -/
theorem exists_source_of_mem {sources : List Source} {f : Function} (hf : f ∈ (compileAll sources).functions) :
    ∃ s ∈ sources, compile s = .ok f := by
  obtain ⟨verdicts, hjudged, hbatch⟩ := exists_verdicts_compileAll sources
  rw [hbatch, Batch.functions_foldr_add, List.mem_filterMap] at hf
  obtain ⟨v, hv, hvf⟩ := hf
  obtain ⟨i, hi⟩ := List.getElem?_of_mem hv
  rw [toOption_eq_some.1 hvf] at hi
  obtain ⟨s, hs, hcompile, -⟩ := hjudged.source_of_ok hi
  exact ⟨s, List.mem_of_getElem? hs, hcompile⟩

/-- No two functions of a batch have one clash key. -/
theorem pairwise_clashKey (sources : List Source) :
    (compileAll sources).functions.Pairwise fun f g => clashKey f.name ≠ clashKey g.name := by
  obtain ⟨verdicts, hjudged, hbatch⟩ := exists_verdicts_compileAll sources
  rw [hbatch, Batch.functions_foldr_add, List.pairwise_filterMap, List.pairwise_iff_getElem]
  intro i j hi hj hij f hf g hg heq
  obtain ⟨s, hs, hcompile, -⟩ := hjudged.source_of_ok (List.getElem?_eq_some_iff.2 ⟨hi, toOption_eq_some.1 hf⟩)
  obtain ⟨-, -, -, hfree⟩ := hjudged.source_of_ok (List.getElem?_eq_some_iff.2 ⟨hj, toOption_eq_some.1 hg⟩)
  -- the source of `f` stands before that of `g` and has its key
  have hmem : s ∈ sources.take j :=
    List.mem_of_getElem? (by rw [List.getElem?_take_of_lt hij, hs])
  exact hfree s hmem ⟨f, hcompile, heq⟩

/-- Sources with one name give functions with one name, so a batch has at most one function of each. -/
theorem nodup_sources (sources : List Source) : ((compileAll sources).functions.map (·.source)).Nodup := by
  rw [List.Nodup, List.pairwise_map]
  refine (pairwise_clashKey sources).imp_of_mem fun {f g} hf hg hne heq => hne ?_
  obtain ⟨s, -, hs⟩ := exists_source_of_mem hf
  obtain ⟨t, -, ht⟩ := exists_source_of_mem hg
  rw [source_of_compile hs, source_of_compile ht] at heq
  have hstem : s.stem = t.stem := congrArg Path.stem heq
  rw [name_eq_of_stem_eq hstem hs ht]

theorem length_compileAll (sources : List Source) :
    (compileAll sources).functions.length + (compileAll sources).rejections.length = sources.length := by
  obtain ⟨verdicts, ⟨hlength, -⟩, hbatch⟩ := exists_verdicts_compileAll sources
  rw [hbatch, Batch.length_foldr_add, hlength]

/-- A source that does not compile keeps no name from the others. -/
theorem functions_compileFrom_of_error {e : CompileError} (hs : compile s = .error e) (before after : List Source) :
    (compileFrom taken (before ++ s :: after)).functions = (compileFrom taken (before ++ after)).functions := by
  have hverdict : ∀ taken, verdict taken s = .error ⟨s.name, e⟩ := fun taken => by simp only [verdict, hs]
  induction before generalizing taken with
  | nil =>
    rw [List.nil_append, compileFrom_cons, hverdict]
    rfl
  | cons t before ih =>
    rw [List.cons_append, List.cons_append, compileFrom_cons, compileFrom_cons]
    cases verdict taken t with
    | error r => exact ih
    | ok f => exact congrArg (f :: ·) ih

/-- A batch has one verdict for each source: the functions are the sources that compile without an earlier one of
the same clash key, in their order, and the rejections are the others, each with its own error or the first source of
its key. A source that does not compile has no influence on the functions. -/
theorem compileAll_accounts (sources : List Source) :
    (∃ verdicts : List (Except Rejection Function),
      verdicts.length = sources.length ∧
      (∀ i s, sources[i]? = some s → ∀ v, verdicts[i]? = some v ↔ Verdict (sources.take i) s v) ∧
      (compileAll sources).functions = verdicts.filterMap Except.toOption ∧
      (compileAll sources).rejections = verdicts.filterMap Batch.rejection?) ∧
    (compileAll sources).functions.length + (compileAll sources).rejections.length = sources.length ∧
    ∀ before s after e, sources = before ++ s :: after → compile s = .error e →
      (compileAll sources).functions = (compileAll (before ++ after)).functions := by
  obtain ⟨verdicts, ⟨hlength, hverdicts⟩, hbatch⟩ := exists_verdicts_compileAll sources
  refine ⟨⟨verdicts, hlength, hverdicts, ?_, ?_⟩, length_compileAll sources, ?_⟩
  · rw [hbatch, Batch.functions_foldr_add]
  · rw [hbatch, Batch.rejections_foldr_add]
  · rintro before s after e rfl hs
    exact functions_compileFrom_of_error hs before after

/-- Two names that differ in snake case only. -/
example : (compileAll [⟨"a-1.bf", [], ""⟩, ⟨"a1.bf", [], ""⟩]).rejections =
    [⟨"a1.bf", .nameTaken "a1" "a-1.bf"⟩] := rfl

end

end TapeLang
