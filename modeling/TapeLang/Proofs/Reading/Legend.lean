import Mathlib.Data.List.Pairwise
import TapeLang.Proofs.Reading.Lexeme

/-!
# Legends

A legend tells what the groups of lexemes in a language stand for: items, the ends of loops, or the word for having
nothing to do. `Legend.read` groups the lexemes by it and nests the loops. If a legend knows every group of a layout
(`Legend.Knows`), then reading a forest in that layout gives the forest, translated leaf by leaf (`read_forest`).
-/

namespace TapeLang.Reading

variable {β : Type}

/-- What a group of lexemes stands for. -/
inductive Token (β : Type) where
  | item (b : β)
  | enter
  /-- There is nothing in this loop. -/
  | idle
  | leave

/-- The meaning of the groups of lexemes in a language. A move is one line with its step between two texts; not every
number need be a step. -/
structure Legend (β : Type) where
  front : String
  back : String
  move? : Nat → Option β
  groups : List (List Lexeme × List (Token β))

/-- The decimal number between two texts. -/
def numberBetween (front back text : String) : Option Nat :=
  let digits := (text.toList.drop front.toList.length).takeWhile (·.isDigit)
  if digits ≠ [] ∧ text.toList = front.toList ++ digits ++ back.toList then some (Nat.ofDigitChars 10 digits 0)
  else none

theorem numberBetween_toString {front back : String} (hback : back.toList.head?.any (·.isDigit) = false) (n : Nat) :
    numberBetween front back (front ++ toString n ++ back) = some n := by
  have hdigits : ∀ c ∈ Nat.toDigits 10 n, c.isDigit = true := fun c hc =>
    Nat.isDigit_of_mem_toDigits (by decide) (by decide) hc
  have hchars : (front ++ toString n ++ back).toList = front.toList ++ Nat.toDigits 10 n ++ back.toList := by
    simp [toString, Nat.repr]
  have hrest : back.toList.takeWhile (·.isDigit) = [] := by
    cases hb : back.toList with
    | nil => rfl
    | cons c cs =>
      have hc : c.isDigit = false := by simpa [hb] using hback
      simp [hc]
  have htake : ((front ++ toString n ++ back).toList.drop front.toList.length).takeWhile (·.isDigit) =
      Nat.toDigits 10 n := by
    rw [hchars, List.append_assoc, List.drop_left, List.takeWhile_append_of_pos hdigits, hrest, List.append_nil]
  unfold numberBetween
  simp only [htake]
  rw [if_pos ⟨Nat.toDigits_ne_nil, hchars⟩, Nat.ofDigitChars_ten_toDigits]

namespace Legend

variable (L : Legend β)

/-- The step of a line that is a move. -/
def step? : Lexeme → Option Nat
  | .line text => numberBetween L.front L.back text
  | _ => none

/-- What the first group of lexemes stands for, and its length. -/
def next? (ls : List Lexeme) : Option (List (Token β) × Nat) :=
  match ls.head?.bind L.step? with
  | some n => (L.move? n).map fun b => ([.item b], 1)
  | none => (L.groups.find? fun g => g.1.isPrefixOf ls).map fun g => (g.2, g.1.length)

/-- What lexemes stand for, group by group. -/
def tokens : List Lexeme → Option (List (Token β))
  | [] => some []
  | l :: ls =>
    match L.next? (l :: ls) with
    | some (ts, n) => (tokens (ls.drop (n - 1))).map (ts ++ ·)
    | none => none
termination_by ls => ls.length
decreasing_by
  rw [List.length_cons, List.length_drop]
  omega

end Legend

/-- Nests items into the open loops `outer` around `here`. Every loop must be ended, and a loop that says that it has
nothing in it must have nothing in it. -/
def forestFrom (loop : List β → β) : (here : List β) → (outer : List (List β)) → List (Token β) → Option (List β)
  | here, [], [] => some here.reverse
  | _, _ :: _, [] => none
  | here, outer, .item b :: rest => forestFrom loop (b :: here) outer rest
  | here, outer, .enter :: rest => forestFrom loop [] (here :: outer) rest
  | [], up :: outer, .idle :: .leave :: rest => forestFrom loop (loop [] :: up) outer rest
  | _, _, .idle :: _ => none
  | here, up :: outer, .leave :: rest => forestFrom loop (loop here.reverse :: up) outer rest
  | _, [], .leave :: _ => none

mutual

/-- What a block is in another language, with what its statements and its loops are there. -/
def translate (leaf : Statement → List β) (loop : List β → β) : Block → List β
  | .plain s => leaf s
  | .loop body => [loop (translateAll leaf loop body)]

def translateAll (leaf : Statement → List β) (loop : List β → β) : List Block → List β
  | [] => []
  | b :: rest => translate leaf loop b ++ translateAll leaf loop rest

end

section

variable (leaf : Statement → List β) (loop : List β → β)

@[simp] theorem translateAll_nil : translateAll leaf loop [] = [] := by
  simp only [translateAll]

@[simp] theorem translateAll_plain (s : Statement) (rest : List Block) :
    translateAll leaf loop (.plain s :: rest) = leaf s ++ translateAll leaf loop rest := by
  simp only [translateAll, translate]

@[simp] theorem translateAll_loop (inner rest : List Block) :
    translateAll leaf loop (.loop inner :: rest) =
      loop (translateAll leaf loop inner) :: translateAll leaf loop rest := by
  simp only [translateAll, translate, List.singleton_append]

theorem translateAll_append (as bs : List Block) :
    translateAll leaf loop (as ++ bs) = translateAll leaf loop as ++ translateAll leaf loop bs := by
  induction as with
  | nil => rw [translateAll_nil, List.nil_append, List.nil_append]
  | cons b as ih => simp only [List.cons_append, translateAll, ih, List.append_assoc]

end

namespace Legend

variable {L : Legend β} {ls ks : List Lexeme} {ts us : List (Token β)}

/-- The forest that lexemes stand for. -/
def read (L : Legend β) (loop : List β → β) (ls : List Lexeme) : Option (List β) :=
  (L.tokens ls).bind (forestFrom loop [] [])

/-- Lexemes stand for given tokens, whatever follows them. -/
def Spells (L : Legend β) (ls : List Lexeme) (ts : List (Token β)) : Prop :=
  ∀ rest, L.tokens (ls ++ rest) = (L.tokens rest).map (ts ++ ·)

theorem Spells.append (h : L.Spells ls ts) (h' : L.Spells ks us) : L.Spells (ls ++ ks) (ts ++ us) := by
  intro rest
  rw [List.append_assoc, h, h', Option.map_map]
  simp only [Function.comp_def, List.append_assoc]

/-- No group of the legend is a move, and none begins like another one. -/
structure Clear (L : Legend β) : Prop where
  back : L.back.toList.head?.any (·.isDigit) = false
  nonempty : ∀ g ∈ L.groups, g.1 ≠ []
  steps : ∀ g ∈ L.groups, g.1.head?.bind L.step? = none
  apart : L.groups.Pairwise fun g h => ¬ g.1 <+: h.1 ∧ ¬ h.1 <+: g.1

theorem Clear.spells_move (h : L.Clear) {n : Nat} {b : β} (hb : L.move? n = some b) :
    L.Spells [.line (L.front ++ toString n ++ L.back)] [.item b] := by
  intro rest
  have hnext : L.next? (.line (L.front ++ toString n ++ L.back) :: rest) = some ([.item b], 1) := by
    simp only [next?, List.head?_cons, Option.bind_some, step?, numberBetween_toString h.back, hb, Option.map_some]
  rw [List.singleton_append, tokens, hnext]
  rfl

theorem Clear.spells_group (h : L.Clear) {g : List Lexeme × List (Token β)} (hg : g ∈ L.groups) :
    L.Spells g.1 g.2 := by
  intro rest
  obtain ⟨l, ls, hls⟩ := List.exists_cons_of_ne_nil (h.nonempty g hg)
  have hstep : (g.1 ++ rest).head?.bind L.step? = none := by
    have := h.steps g hg
    rw [hls] at this ⊢
    exact this
  have hfind : L.groups.find? (fun g' => g'.1.isPrefixOf (g.1 ++ rest)) = some g := by
    have hsome : (L.groups.find? fun g' => g'.1.isPrefixOf (g.1 ++ rest)).isSome :=
      List.find?_isSome.2 ⟨g, hg, by simp⟩
    obtain ⟨g', hg'⟩ := Option.isSome_iff_exists.1 hsome
    have hprefix : g'.1 <+: g.1 ++ rest := by simpa using List.find?_some hg'
    -- of two beginnings of the same lexemes one begins with the other
    by_cases hne : g' = g
    · rw [hg', hne]
    · have : Std.Symm fun g h : List Lexeme × List (Token β) => ¬ g.1 <+: h.1 ∧ ¬ h.1 <+: g.1 :=
        ⟨fun _ _ => And.symm⟩
      obtain ⟨hleft, hright⟩ := h.apart.forall (List.mem_of_find?_eq_some hg') hg hne
      rcases List.prefix_or_prefix_of_prefix hprefix (List.prefix_append g.1 rest) with h | h
      · exact absurd h hleft
      · exact absurd h hright
  have hnext : L.next? (g.1 ++ rest) = some (g.2, g.1.length) := by
    rw [next?, hstep, hfind]
    rfl
  have hdrop : (ls ++ rest).drop (g.1.length - 1) = rest := by
    rw [hls, List.length_cons, Nat.add_sub_cancel, List.drop_left]
  rw [hls, List.cons_append] at hnext ⊢
  rw [tokens, hnext, ← hls]
  simp only [hdrop]

/-- The group at an index stands for its tokens. -/
theorem Clear.spells_at (h : L.Clear) (k : Nat) (g : List Lexeme × List (Token β)) (hg : L.groups[k]? = some g) :
    L.Spells g.1 g.2 :=
  h.spells_group (List.mem_of_getElem? hg)

/-- A legend has every group of a layout in which `leaf` gives the items of a statement. -/
structure Knows (L : Legend β) (leaf : Statement → List β) (p : Layout Lexeme) : Prop where
  plain : ∀ depth s, s.isBracket = false → L.Spells (p.plain depth s) ((leaf s).map .item)
  enter : ∀ depth, L.Spells (p.enter depth) [.enter]
  leave : ∀ depth, L.Spells (p.leave depth) [.leave]
  hollow : ∀ depth, L.Spells (p.hollow depth) [.enter, .leave] ∨ L.Spells (p.hollow depth) [.enter, .idle, .leave]

variable {leaf : Statement → List β} {loop : List β → β} {p : Layout Lexeme}

private theorem forestFrom_leave (here up : List β) (outer : List (List β)) (rest : List (Token β)) :
    forestFrom loop here (up :: outer) (.leave :: rest) = forestFrom loop (loop here.reverse :: up) outer rest := by
  cases here with
  | nil => rfl
  | cons b here => rfl

private theorem forestFrom_items (bs : List β) (here : List β) (outer : List (List β)) (rest : List (Token β)) :
    forestFrom loop here outer (bs.map .item ++ rest) = forestFrom loop (bs.reverse ++ here) outer rest := by
  induction bs generalizing here with
  | nil => rfl
  | cons b bs ih =>
    rw [List.map_cons, List.cons_append, forestFrom, ih]
    simp

/-- The tokens of a forest add its translation to the innermost open loop. -/
private theorem Knows.spells_forest (h : L.Knows leaf p) {bs : List Block} (hbs : Leaves (·.isBracket = false) bs)
    (depth : Nat) :
    ∃ ts, L.Spells (p.forest depth bs) ts ∧ ∀ here outer rest,
      forestFrom loop here outer (ts ++ rest) =
        forestFrom loop ((translateAll leaf loop bs).reverse ++ here) outer rest := by
  induction hbs generalizing depth with
  | nil =>
    refine ⟨[], fun rest => ?_, fun here outer rest => ?_⟩
    · simp
    · simp
  | @plain s tail hs _ ih =>
    obtain ⟨ts, hspell, hforest⟩ := ih depth
    rw [Layout.forest_plain, translateAll_plain]
    refine ⟨_, (h.plain depth s hs).append hspell, fun here outer rest => ?_⟩
    rw [List.append_assoc, forestFrom_items, hforest]
    simp
  | @loop inner tail _ _ ihInner ihTail =>
    obtain ⟨ts, hspell, hforest⟩ := ihTail depth
    rw [translateAll_loop]
    cases inner with
    | nil =>
      rw [Layout.forest_hollow]
      rcases h.hollow depth with hhollow | hhollow
      · refine ⟨_, hhollow.append hspell, fun here outer rest => ?_⟩
        simp [forestFrom, hforest]
      · refine ⟨_, hhollow.append hspell, fun here outer rest => ?_⟩
        simp [forestFrom, hforest]
    | cons b inner =>
      obtain ⟨us, hinside, hinner⟩ := ihInner (depth + 1)
      rw [Layout.forest_loop]
      refine ⟨_, (((h.enter depth).append hinside).append (h.leave depth)).append hspell,
        fun here outer rest => ?_⟩
      -- the items inside are gathered behind an empty list, and the end of the loop makes one item of them
      simp only [List.append_assoc, List.cons_append, List.nil_append]
      rw [forestFrom, hinner, forestFrom_leave, hforest]
      simp

/-- Reading a forest in a layout that the legend knows gives its translation. -/
theorem Knows.read_forest (h : L.Knows leaf p) {bs : List Block} (hbs : Leaves (·.isBracket = false) bs)
    (depth : Nat) : L.read loop (p.forest depth bs) = some (translateAll leaf loop bs) := by
  obtain ⟨ts, hspell, hforest⟩ : ∃ ts, L.Spells (p.forest depth bs) ts ∧ ∀ here outer rest,
      forestFrom loop here outer (ts ++ rest) = _ := h.spells_forest hbs depth
  have htokens : L.tokens (p.forest depth bs) = some (ts ++ []) := by
    have hall := hspell []
    rw [List.append_nil, tokens] at hall
    exact hall
  rw [read, htokens, Option.bind_some, hforest]
  simp [forestFrom]

end Legend

end TapeLang.Reading
