import Mathlib.Data.List.Chain
import Mathlib.Data.List.TakeWhile
import TapeLang.Proofs.Yaml.Cursor
import TapeLang.Yaml.Document

/-!
# Plain scalars of one line

A text is plain before a character if it can stand there without quotes on one line (`IsPlain`). It is read by runs
of characters without blanks; with the blanks between them these give back the text as it is
(`plainFrom_append`).
-/

namespace TapeLang.Yaml

/-- Whether `d` can follow `c` in a plain scalar: a colon before a gap ends the scalar, and a number sign behind a blank
begins a comment. -/
def Joined (c d : Char) : Prop :=
  ¬ (c = ':' ∧ gapAhead [d]) ∧ ¬ (isBlank c ∧ d = '#')

instance : DecidableRel Joined := fun _ _ => inferInstanceAs (Decidable (_ ∧ _))

/-- The characters that have a meaning of their own at the beginning of a token. -/
def indicators : List Char :=
  ['-', '?', ':', ',', '[', ']', '\x7b', '\x7d', '#', '&', '*', '!', '|', '>', '\'', '"', '%', '@', Char.ofNat 0x60]

/-- Whether a plain scalar can begin with `c` before `rest`. -/
def CanBegin (c : Char) (rest : List Char) : Prop :=
  isBlank c = false ∧ (c ∈ indicators → c ∈ ['-', '?', ':'] ∧ gapAhead rest = false)

instance (c : Char) (rest : List Char) : Decidable (CanBegin c rest) := inferInstanceAs (Decidable (_ ∧ _))

theorem CanBegin.ne_hash {c : Char} {rest : List Char} (h : CanBegin c rest) : c ≠ '#' := by
  rintro rfl
  exact absurd (h.2 (by decide)).1 (by decide)

/-- The text is a plain scalar of one line where `next` follows. -/
structure IsPlain (next : Char) (cs : List Char) : Prop where
  allowed : ∀ c ∈ cs, Document.isAllowed c
  no_break : ∀ c ∈ cs, isBreak c = false
  joined : (cs ++ [next]).IsChain Joined
  nonempty : cs ≠ []
  first : ∀ c ∈ cs.head?, CanBegin c (cs.tail ++ [next])
  last : ∀ c ∈ cs.getLast?, isBlank c = false

instance (next : Char) (cs : List Char) : Decidable (IsPlain next cs) :=
  -- by `List.all`, since a quantifier over characters is decided by running through all of them
  decidable_of_iff (cs.all Document.isAllowed ∧ cs.all (!isBreak ·) ∧ (cs ++ [next]).IsChain Joined ∧ cs ≠ [] ∧
      cs.head?.all (fun c => decide (CanBegin c (cs.tail ++ [next]))) ∧ cs.getLast?.all (!isBlank ·)) (by
    simp only [List.all_eq_true, Option.all_eq_true, Bool.not_eq_true', decide_eq_true_eq]
    constructor
    · rintro ⟨hallowed, hbreak, hjoined, hne, hfirst, hlast⟩
      exact ⟨hallowed, hbreak, hjoined, hne, hfirst, hlast⟩
    · intro h
      exact ⟨h.allowed, h.no_break, h.joined, h.nonempty, h.first, h.last⟩)

theorem IsPlain.exists_cons {next : Char} {cs : List Char} (h : IsPlain next cs) :
    ∃ c rest, cs = c :: rest ∧ CanBegin c (rest ++ [next]) := by
  cases cs with
  | nil => exact absurd rfl h.nonempty
  | cons c rest => exact ⟨c, rest, rfl, h.first c rfl⟩

@[simp] theorem gapAhead_cons (c : Char) (cs : List Char) : gapAhead (c :: cs) = (isBlank c || isBreak c) := rfl

theorem gapAhead_append {next : Char} {tail : List Char} (htail : gapAhead tail = gapAhead [next]) (cs : List Char) :
    gapAhead (cs ++ tail) = gapAhead (cs ++ [next]) := by
  cases cs with
  | nil => exact htail
  | cons c cs => rfl

/-! ### Runs -/

/-- Whether a run of characters ends before `rest`. -/
def EndsRun (rest : List Char) : Prop :=
  ∀ c tail, rest = c :: tail → isBlank c ∨ isBreak c ∨ c = ':' ∧ gapAhead tail

theorem plainRun_of_endsRun {rest : List Char} (h : EndsRun rest) (read : List Char) (c : Cursor) :
    plainRun false read c rest = .ok (read, c) := by
  cases rest with
  | nil => rfl
  | cons d tail =>
    have hd := h d tail rfl
    rw [plainRun]
    by_cases hgap : isBlank d || isBreak d
    · rw [if_pos hgap]
    · simp only [Bool.or_eq_true, not_or] at hgap
      have hcolon : d = ':' ∧ gapAhead tail := by tauto
      simp [hcolon]

/-- A run reads characters up to a place where it ends. -/
theorem plainRun_append {next : Char} {word rest : List Char}
    (hword : ∀ c ∈ word, isBlank c = false ∧ isBreak c = false) (hjoined : (word ++ [next]).IsChain Joined)
    (hrest : EndsRun rest) (hnext : gapAhead rest = gapAhead [next]) (read : List Char) (m : Mark) :
    plainRun false read ⟨word ++ rest, m⟩ (word ++ rest) = .ok (word.reverse ++ read, ⟨rest, m.right word⟩) := by
  induction word generalizing read m with
  | nil => exact plainRun_of_endsRun hrest read _
  | cons c word ih =>
    obtain ⟨hblank, hbreak⟩ := hword c (by simp)
    obtain ⟨hc, hword'⟩ := List.isChain_cons.mp hjoined
    have hcolon : (c = ':' && gapAhead (word ++ rest)) = false := by
      rw [gapAhead_append hnext]
      cases word with
      | nil => simpa using (hc next rfl).1
      | cons d word => simpa using (hc d rfl).1
    have hrun := ih (fun d hd => hword d (by simp [hd])) hword' (c :: read) (m.right [c])
    rw [List.cons_append, plainRun]
    simp only [hblank, hbreak, hcolon, Bool.or_self, Bool.false_and, Bool.false_eq_true, if_false, Cursor.skip_cons]
    rw [hrun, List.reverse_cons, List.append_assoc, ← Mark.right_append]
    rfl

/-! ### Gaps -/

/-- A gap of blanks is kept as it is. -/
theorem readGap_blanks (indent : Option Nat) {blanks rest : List Char} (hblanks : ∀ c ∈ blanks, isBlank c)
    (hrest : gapAhead rest = false) (before : List Char) {n : Nat} (hn : blanks.length ≤ n) (m : Mark) :
    readGap indent n ⟨before, false, [], []⟩ ⟨blanks ++ rest, m⟩ =
      .ok (⟨before ++ blanks, false, [], []⟩, ⟨rest, m.right blanks⟩) := by
  induction blanks generalizing before n m with
  | nil =>
    cases n with
    | zero => simp [readGap]
    | succ n =>
      cases rest with
      | nil => simp [readGap]
      | cons c rest =>
        simp only [gapAhead_cons, Bool.or_eq_false_iff] at hrest
        simp [readGap, hrest]
  | cons b blanks ih =>
    have hb : isBlank b := hblanks b (by simp)
    obtain ⟨n, rfl⟩ : ∃ k, n = k + 1 := Nat.exists_eq_succ_of_ne_zero (by simp at hn; omega)
    have hrest := ih (fun c hc => hblanks c (by simp [hc])) (before ++ [b]) (by simpa using hn) (m.right [b])
    rw [readGap]
    simp only [List.cons_append, hb, if_true, Bool.and_false, Bool.false_and, Bool.false_eq_true, if_false,
      Cursor.skip_cons]
    rw [Gap.addBlank, if_neg Bool.false_ne_true, hrest, List.append_assoc, ← Mark.right_append]
    rfl

/-- One line end before a line that begins with a character. -/
theorem readGap_lineFeed (indent : Option Nat) {rest : List Char} (hrest : ∀ c ∈ rest.head?, gapAhead [c] = false)
    (m : Mark) :
    readGap indent (rest.length + 1) .none ⟨'\n' :: rest, m⟩ =
      .ok (⟨[], true, ['\n'], []⟩, ⟨rest, m.down ['\n']⟩) := by
  have hline : readGap indent (rest.length + 1) .none ⟨'\n' :: rest, m⟩ =
      readGap indent rest.length ⟨[], true, ['\n'], []⟩ ⟨rest, m.down ['\n']⟩ := rfl
  rw [hline]
  cases rest with
  | nil => rfl
  | cons c rest =>
    have hc := hrest c rfl
    simp only [gapAhead_cons, Bool.or_eq_false_iff] at hc
    simp [readGap, hc]

/-! ### Whole scalars -/

/-- What is done when a run of a plain scalar has been read. -/
def afterRun (flow : Bool) (indent : Nat) (start : Mark) (n : Nat) (t : PlainText) (after : Cursor) :
    Except Fault (PlainText × Cursor) :=
  if breakAhead after.rest && after.rest = [] || !gapAhead after.rest then .ok (t, after)
  else
    match readGap (some indent) after.rest.length t.gap after with
    | .error m => .error (.during .plainScalar start .tabInPlain m)
    | .ok (gap, next) =>
      if !flow && next.mark.column < indent then .ok ({ t with gap := gap }, next)
      else plainFrom flow indent start n { t with gap := gap } next

theorem plainFrom_succ {indent : Nat} {start : Mark} {t : PlainText} {c after : Cursor} {run : List Char}
    (hmarker : c.atMarker = false) (hhash : c.at? '#' = false) (hrun : plainRun false [] c c.rest = .ok (run, after))
    (hne : run ≠ []) (n : Nat) :
    plainFrom false indent start (n + 1) t c =
      afterRun false indent start n ⟨run ++ (t.gap.fold.reverse ++ t.read), .none, after.mark⟩ after := by
  rw [plainFrom]
  simp only [hmarker, hhash, hrun, hne]
  rfl

/-- Blanks between two runs are a gap of the scalar. -/
theorem afterRun_blanks {indent : Nat} {start m : Mark} {blanks rest : List Char} (hblanks : ∀ c ∈ blanks, isBlank c)
    (hne : blanks ≠ []) (hrest : gapAhead rest = false) (hindent : indent ≤ m.column + blanks.length) (n : Nat)
    (read : List Char) (stop : Mark) :
    afterRun false indent start n ⟨read, .none, stop⟩ ⟨blanks ++ rest, m⟩ =
      plainFrom false indent start n ⟨read, ⟨blanks, false, [], []⟩, stop⟩ ⟨rest, m.right blanks⟩ := by
  have hgap := readGap_blanks (some indent) hblanks hrest [] (n := (blanks ++ rest).length) (by simp) m
  have hahead : gapAhead (blanks ++ rest) := by
    cases blanks with
    | nil => exact absurd rfl hne
    | cons b blanks => simp [hblanks b (by simp)]
  rw [afterRun]
  simp only [hahead, List.append_eq_nil_iff, hne, false_and, decide_false, Bool.and_false, Bool.not_true, Bool.or_self,
    Bool.false_eq_true, if_false, Gap.none, hgap, List.nil_append, Bool.not_false, Bool.true_and, decide_eq_true_eq]
  rw [if_neg (by simpa using hindent)]

/-- A text between characters that are no blanks is a word, or a word, blanks and a text of the same kind. -/
theorem exists_word {cs : List Char} (hfirst : ∃ c ∈ cs.head?, isBlank c = false)
    (hlast : ∀ c ∈ cs.getLast?, isBlank c = false) :
    ∃ word left, cs = word ++ left ∧ word ≠ [] ∧ (∀ c ∈ word, isBlank c = false) ∧
      (left = [] ∨ ∃ blanks more, left = blanks ++ more ∧ blanks ≠ [] ∧ (∀ c ∈ blanks, isBlank c) ∧
        ∃ c ∈ more.head?, isBlank c = false) := by
  have hsplit : cs = cs.takeWhile (!isBlank ·) ++ cs.dropWhile (!isBlank ·) := List.takeWhile_append_dropWhile.symm
  refine ⟨cs.takeWhile (!isBlank ·), cs.dropWhile (!isBlank ·), hsplit, ?_, ?_, ?_⟩
  · obtain ⟨c, hc, hblank⟩ := hfirst
    cases cs with
    | nil => cases hc
    | cons d cs =>
      cases hc
      simp [hblank]
  · intro c hc
    simpa using List.mem_takeWhile_imp hc
  · have hstop := List.head?_dropWhile_not (!isBlank ·) cs
    cases hleft : cs.dropWhile (!isBlank ·) with
    | nil => exact .inl rfl
    | cons b left =>
      rw [hleft] at hstop hsplit
      have hb : isBlank b := by simpa using hstop
      have hmore := List.head?_dropWhile_not isBlank (b :: left)
      refine .inr ⟨(b :: left).takeWhile isBlank, (b :: left).dropWhile isBlank,
        List.takeWhile_append_dropWhile.symm, by simp [hb], fun c hc => List.mem_takeWhile_imp hc, ?_⟩
      cases hhead : ((b :: left).dropWhile isBlank).head? with
      | some c => exact ⟨c, rfl, by simpa [hhead] using hmore⟩
      | none =>
        -- blanks up to the end of the text: its last character would be one
        have hblanks : ∀ c ∈ b :: left, isBlank c := List.dropWhile_eq_nil_iff.mp (List.head?_eq_none_iff.mp hhead)
        obtain ⟨z, hz⟩ : ∃ z, (b :: left).getLast? = some z := by simp [List.getLast?_cons]
        have hzlast : z ∈ cs.getLast? := by
          rw [hsplit, List.getLast?_append, hz]
          rfl
        exact absurd (hblanks z (List.mem_of_getLast? hz)) (by simp [hlast z hzlast])

/-- The text of a plain scalar from a word on, where `next` follows. -/
structure FromWord (next : Char) (cs : List Char) : Prop where
  no_break : ∀ c ∈ cs, isBreak c = false
  joined : (cs ++ [next]).IsChain Joined
  first : ∃ c ∈ cs.head?, isBlank c = false ∧ c ≠ '#'
  last : ∀ c ∈ cs.getLast?, isBlank c = false

namespace FromWord

variable {next : Char} {cs : List Char}

theorem exists_cons (h : FromWord next cs) :
    ∃ c more, cs = c :: more ∧ isBlank c = false ∧ isBreak c = false ∧ c ≠ '#' := by
  obtain ⟨c, hc, hblank, hhash⟩ := h.first
  cases cs with
  | nil => cases hc
  | cons d more =>
    cases hc
    exact ⟨c, more, rfl, hblank, h.no_break c (by simp), hhash⟩

/-- It is a word, or a word, blanks and a text of the same kind. -/
theorem split (h : FromWord next cs) :
    ∃ word left, cs = word ++ left ∧ word ≠ [] ∧ (∀ c ∈ word, isBlank c = false ∧ isBreak c = false) ∧
      (left = [] ∨ ∃ b blanks more, left = b :: blanks ++ more ∧ (∀ c ∈ b :: blanks, isBlank c) ∧
        (word ++ [b]).IsChain Joined ∧ FromWord next more) := by
  obtain ⟨c, hc, hblank, -⟩ := h.first
  obtain ⟨word, left, rfl, hword, hnonblank, hleft⟩ := exists_word ⟨c, hc, hblank⟩ h.last
  refine ⟨word, left, rfl, hword, fun c hc => ⟨hnonblank c hc, h.no_break c (by simp [hc])⟩, ?_⟩
  rcases hleft with rfl | ⟨blanks, more, rfl, hne, hblanks, d, hd, hdblank⟩
  · exact .inl rfl
  · have hlast : ∀ c ∈ more.getLast?, isBlank c = false := by
      intro c hc
      exact h.last c (by simp [List.getLast?_append, Option.mem_def.mp hc])
    obtain ⟨b, blanks, rfl⟩ := List.exists_cons_of_ne_nil hne
    obtain ⟨hword, hbehind, hseam⟩ := List.isChain_append.mp (List.append_assoc word _ _ ▸ h.joined)
    obtain ⟨-, hmore, hseam'⟩ := List.isChain_append.mp (List.append_assoc (b :: blanks) more _ ▸ hbehind)
    have hdhash : d ≠ '#' := by
      -- the last of the blanks stands before it
      obtain ⟨z, hz⟩ : ∃ z, (b :: blanks).getLast? = some z := by simp [List.getLast?_cons]
      intro hhash
      exact (hseam' z hz d (by simp [List.head?_append, Option.mem_def.mp hd])).2
        ⟨hblanks z (List.mem_of_getLast? hz), hhash⟩
    have hjoined : (word ++ [b]).IsChain Joined :=
      List.isChain_append.mpr ⟨hword, .singleton b, fun x hx y hy => hseam x hx y hy⟩
    exact .inr ⟨b, blanks, more, rfl, hblanks, hjoined, fun c hc => h.no_break c (by simp [hc]), hmore,
      ⟨d, hd, hdblank, hdhash⟩, hlast⟩

end FromWord

/-- Reading a plain scalar of one line comes to what is done behind it, with its characters as they are. The induction
is on the steps, one for each run. -/
theorem plainFrom_append {indent : Nat} {start : Mark} {next : Char} {cs rest : List Char} (h : FromWord next cs)
    (hrest : EndsRun rest) (hnext : gapAhead rest = gapAhead [next]) {n : Nat} (hn : cs.length ≤ n) {t : PlainText}
    {m : Mark} (hindent : indent ≤ m.column + 1) (hmarker : (⟨cs ++ rest, m⟩ : Cursor).atMarker = false) :
    ∃ k, plainFrom false indent start n t ⟨cs ++ rest, m⟩ =
      afterRun false indent start k ⟨cs.reverse ++ (t.gap.fold.reverse ++ t.read), .none, m.right cs⟩
        ⟨rest, m.right cs⟩ := by
  induction n generalizing cs t m with
  | zero =>
    obtain ⟨c, more, rfl, -⟩ := h.exists_cons
    simp at hn
  | succ n ih =>
    have hhash : (⟨cs ++ rest, m⟩ : Cursor).at? '#' = false := by
      obtain ⟨c, more, rfl, -, -, hhash⟩ := h.exists_cons
      simpa [Cursor.at?] using hhash
    obtain ⟨word, left, rfl, hword, hchars, hleft⟩ := h.split
    rcases hleft with rfl | ⟨b, blanks, more, rfl, hblanks, hjoined, hmore⟩
    · rw [List.append_nil] at *
      have hrun := plainRun_append hchars h.joined hrest hnext [] m
      rw [plainFrom_succ hmarker hhash hrun (by simpa using hword), List.append_nil]
      exact ⟨n, rfl⟩
    · have hends : EndsRun (b :: blanks ++ (more ++ rest)) := by
        rintro c tail heq
        injection heq with heq
        exact .inl (heq ▸ hblanks b (by simp))
      have hahead : gapAhead (more ++ rest) = false := by
        obtain ⟨d, more, rfl, hblank, hbreak, -⟩ := hmore.exists_cons
        simp [hblank, hbreak]
      have hrun := plainRun_append hchars hjoined hends rfl [] m
      obtain ⟨k, hk⟩ := ih
        (t := ⟨word.reverse ++ (t.gap.fold.reverse ++ t.read), ⟨b :: blanks, false, [], []⟩, m.right word⟩)
        (m := (m.right word).right (b :: blanks)) hmore (by simp at hn ⊢; omega) (by simp; omega)
        (by simp [Cursor.atMarker])
      refine ⟨k, ?_⟩
      rw [List.append_assoc, List.append_assoc] at hmarker hhash ⊢
      rw [plainFrom_succ hmarker hhash hrun (by simpa using hword), List.append_nil,
        afterRun_blanks hblanks (List.cons_ne_nil b blanks) hahead (by simp; omega), hk]
      simp only [← Mark.right_append, Gap.fold, Bool.not_false, if_true, List.reverse_append, List.append_assoc]

/-! ### What is behind a scalar -/

theorem afterRun_of_no_gap {indent : Nat} {start : Mark} {after : Cursor} (h : gapAhead after.rest = false) (n : Nat)
    (t : PlainText) : afterRun false indent start n t after = .ok (t, after) := by
  rw [afterRun, if_pos (by simp [h])]

theorem afterRun_end (indent : Nat) (start m : Mark) (n : Nat) (t : PlainText) :
    afterRun false indent start n t ⟨[], m⟩ = .ok (t, ⟨[], m⟩) :=
  rfl

/-- A scalar inside a collection ends with its line if the next one begins at the margin. -/
theorem afterRun_lineFeed {indent : Nat} {start m : Mark} {rest : List Char} (hindent : 0 < indent)
    (hrest : ∀ c ∈ rest.head?, gapAhead [c] = false) (n : Nat) (read : List Char) (stop : Mark) :
    afterRun false indent start n ⟨read, .none, stop⟩ ⟨'\n' :: rest, m⟩ =
      .ok (⟨read, ⟨[], true, ['\n'], []⟩, stop⟩, ⟨rest, m.down ['\n']⟩) := by
  have hgap := readGap_lineFeed (some indent) hrest m
  rw [afterRun, if_neg (by simp [isBreak])]
  simp only [List.length_cons, hgap]
  exact if_pos (by simp [hindent])

namespace IsPlain

variable {next : Char} {cs rest : List Char}

/-- A plain scalar is read as its characters. -/
theorem plainFrom_eq (h : IsPlain next cs) (hrest : EndsRun rest) (hnext : gapAhead rest = gapAhead [next])
    (indent : Nat) {n : Nat} (hn : cs.length ≤ n) {m : Mark} (hindent : indent ≤ m.column + 1)
    (hmarker : (⟨cs ++ rest, m⟩ : Cursor).atMarker = false) :
    ∃ k, plainFrom false indent m n ⟨[], .none, m⟩ ⟨cs ++ rest, m⟩ =
      afterRun false indent m k ⟨cs.reverse, .none, m.right cs⟩ ⟨rest, m.right cs⟩ := by
  have hword : FromWord next cs := by
    obtain ⟨c, cs, rfl, hc⟩ := h.exists_cons
    exact ⟨h.no_break, h.joined, ⟨c, rfl, hc.1, hc.ne_hash⟩, h.last⟩
  simpa [Gap.fold, Gap.none] using plainFrom_append (t := ⟨[], .none, m⟩) hword hrest hnext hn hindent hmarker

/-- No gap and no comment begins where a plain scalar does. -/
theorem of_mem_head (h : IsPlain next cs) (rest : List Char) :
    ∀ c ∈ (cs ++ rest).head?, isBlank c = false ∧ isBreak c = false ∧ c ≠ '#' := by
  obtain ⟨d, cs, rfl, hd⟩ := h.exists_cons
  intro c hc
  cases hc
  exact ⟨hd.1, h.no_break d (by simp), hd.ne_hash⟩

/-- What comes first before `rest` can begin a plain scalar. -/
theorem exists_canBegin (h : IsPlain next cs) (hnext : gapAhead rest = gapAhead [next]) :
    ∃ c more, cs ++ rest = c :: more ∧ isBreak c = false ∧ CanBegin c more := by
  obtain ⟨c, cs, rfl, hc⟩ := h.exists_cons
  refine ⟨c, cs ++ rest, rfl, h.no_break c (by simp), ?_⟩
  rw [CanBegin, gapAhead_append hnext]
  exact hc

end IsPlain

/-- A token that begins like a plain scalar is one. -/
theorem Reading.readAt_of_canBegin {r : Reading} {c : Char} {rest : List Char} (hc : CanBegin c rest)
    (hbreak : isBreak c = false) (hflow : r.inFlow = false) (hmarker : r.cursor.atMarker = false) :
    r.readAt c rest = r.readPlain := by
  obtain ⟨hblank, hindicator⟩ := hc
  by_cases hmem : c ∈ indicators
  · obtain ⟨hthree, hgap⟩ := hindicator hmem
    have hhead : rest.head?.any isBlank = false := by
      cases rest with
      | nil => rfl
      | cons d rest =>
        simp only [gapAhead_cons, Bool.or_eq_false_iff] at hgap
        exact hgap.1
    simp only [List.mem_cons, List.not_mem_nil, or_false] at hthree
    rcases hthree with rfl | rfl | rfl <;> simp [readAt, beginsPlain, hmarker, hflow, hgap, hhead]
  · simp only [indicators, List.mem_cons, List.not_mem_nil, or_false, not_or] at hmem
    simp [readAt, beginsPlain, hmarker, hflow, hblank, hbreak, hmem]

end TapeLang.Yaml
