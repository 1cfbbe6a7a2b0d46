import TapeLang.Proofs.Yaml.NoContent
import TapeLang.Proofs.Yaml.PlainScalar

/-!
# Tokens of lines

A text of lines, each a plain key, a colon and a plain value, has four tokens for each line. The key is held back until
the colon behind it has been read (`next_key`, `next_colon`); a key that is too long never gets there.
-/

namespace TapeLang.Yaml

/-- The text is a plain scalar at the beginning of a line, before a colon. -/
structure IsPlainKey (cs : List Char) : Prop extends IsPlain ':' cs where
  no_marker : (⟨cs ++ [':'], .start⟩ : Cursor).atMarker = false
  no_mark : cs.head? ≠ some '\ufeff'

instance (cs : List Char) : Decidable (IsPlainKey cs) :=
  decidable_of_iff (IsPlain ':' cs ∧ (⟨cs ++ [':'], .start⟩ : Cursor).atMarker = false ∧ cs.head? ≠ some '\ufeff')
    ⟨fun ⟨h₁, h₂, h₃⟩ => ⟨h₁, h₂, h₃⟩, fun h => ⟨h.toIsPlain, h.no_marker, h.no_mark⟩⟩

/-- The text is a plain scalar at the end of a line. -/
abbrev IsPlainValue (cs : List Char) : Prop := IsPlain '\n' cs

/-- A key without a mark is at most so long. -/
def IsShort (key : List Char) : Prop := Text.byteCount key ≤ 1024

instance (key : List Char) : Decidable (IsShort key) := inferInstanceAs (Decidable (_ ≤ _))

/-- A key is no marker whatever follows its colon. -/
theorem IsPlainKey.atMarker_eq {cs : List Char} (h : IsPlainKey cs) (tail : List Char) (m : Mark) :
    (⟨cs ++ ':' :: tail, m⟩ : Cursor).atMarker = false := by
  have hmarker := h.no_marker
  by_cases hcolumn : m.column = 0
  · rcases cs with _ | ⟨a, _ | ⟨b, _ | ⟨c, cs⟩⟩⟩
    all_goals simp only [Cursor.atMarker, Mark.start, hcolumn, List.nil_append, List.cons_append, decide_true,
      Bool.true_and] at hmarker ⊢
    case cons.cons.cons =>
      -- behind three characters the colon, or another one of the key, comes first
      have hgap : gapAhead (cs ++ ':' :: tail) = gapAhead (cs ++ [':']) := gapAhead_append (gapAhead_cons ..) cs
      split
      · rename_i heq
        injections
        subst_vars
        exact hgap.trans hmarker
      · rename_i heq
        injections
        subst_vars
        exact hgap.trans hmarker
      · rfl
    all_goals
      split <;> simp_all
  · simp [Cursor.atMarker, hcolumn]

/-- What the tokens of a line say. -/
def lineLexemes (key value : List Char) : List Lexeme :=
  [.key, .scalar key .plain, .value, .scalar value .plain]

namespace Reading

/-- A gap of spaces before a token. -/
theorem skipGap_token {r : Reading} (spaces rest : List Char) {m : Mark} (hr : r.cursor = ⟨spaces ++ rest, m⟩)
    (hspaces : ∀ c ∈ spaces, c = ' ') (hrest : ∀ c ∈ rest.head?, isBlank c = false ∧ isBreak c = false ∧ c ≠ '#')
    (hmark : (spaces ++ rest).head? ≠ some '\ufeff') (n : Nat) :
    skipGap (n + 1) r = { r with cursor := ⟨rest, m.right spaces⟩ } := by
  have hhash : (⟨rest, m.right spaces⟩ : Cursor).at? '#' = false := by
    simp only [Cursor.at?, decide_eq_false_iff_not]
    intro h
    exact (hrest _ h).2.2 rfl
  have hbreak : rest.head?.any isBreak = false := by
    cases rest with
    | nil => rfl
    | cons c rest => exact (hrest c rfl).2.1
  rw [skipGap_spaces hr hspaces (fun c hc => (hrest c hc).1) hmark]
  simp [hhash, hbreak]

/-! ### Steps -/

theorem closeBlocks_of_le {r : Reading} {column : Int} (h : r.indent ≤ column) : r.closeBlocks column = r := by
  have hclosed : closedBelow column r.indent r.indents = (0, r.indent, r.indents) := by
    cases r.indents with
    | nil => rfl
    | cons i is => rw [closedBelow, if_neg (by omega)]
  rw [closeBlocks, hclosed]
  simp

/-- The next token is read behind the gap if no key is given up there and no collection ends. -/
theorem next_eq {r s : Reading} {c : Char} {rest : List Char} (hgap : skipGap (r.cursor.rest.length + 1) r = s)
    (hstale : s.dropStaleKeys = .ok s) (hindent : s.indent ≤ s.mark.column) (hrest : s.cursor.rest = c :: rest) :
    r.next = s.readAt c rest := by
  rw [next, hgap, hstale]
  simp only [bind, Except.bind, closeBlocks_of_le hindent, hrest]

theorem readPlain_eq {r s : Reading} {t : PlainText} {after : Cursor} (hnote : r.noteKey = .ok s)
    (hplain : plainFrom s.inFlow (s.indent + 1).toNat s.mark s.cursor.rest.length ⟨[], .none, s.mark⟩ s.cursor =
      .ok (t, after)) :
    r.readPlain = .ok ({ s with keyAllowed := t.gap.ended }.push (.scalar t.read.reverse .plain) t.stop after) := by
  rw [readPlain, hnote]
  simp only [bind, Except.bind, hplain]

/-- The reading at the beginning of a line of the outermost mapping, where `first` says whether it has no line yet. -/
def atLine (first : Bool) (c : Cursor) (released : Nat) (keyAllowed : Bool) : Reading :=
  ⟨c, [], released, if first then -1 else 0, if first then [] else [-1], keyAllowed, none, []⟩

/-- The reading when the key has been read and not released. -/
def behindKey (first : Bool) (key tail : List Char) (m : Mark) (released : Nat) (slot : Option KeySlot) : Reading :=
  ⟨⟨':' :: tail, m.right key⟩, [⟨.scalar key .plain, m, m.right key⟩], released, if first then -1 else 0,
    if first then [] else [-1], false, slot, []⟩

/-- The reading when the colon has been read and all is released. -/
def behindColon (c : Cursor) (released : Nat) : Reading := ⟨c, [], released, 0, [-1], false, none, []⟩

variable {key value tail : List Char} {m : Mark}

theorem endsRun_colon (htail : gapAhead tail) : EndsRun (':' :: tail) := by
  rintro c rest heq
  cases heq
  exact .inr (.inr ⟨rfl, htail⟩)

/-- The first token of a line is its key, which is held back. -/
theorem next_key (hkey : IsPlainKey key) (htail : gapAhead tail) (hm : m.column = 0) (first : Bool) (released : Nat) :
    (atLine first ⟨key ++ ':' :: tail, m⟩ released true).next =
      .ok (behindKey first key tail m released (some ⟨!first, released, m⟩)) := by
  have hcolon : gapAhead (':' :: tail) = gapAhead [':'] := rfl
  obtain ⟨c, more, hcs, hbreak, hcan⟩ := hkey.exists_canBegin hcolon
  have hmark : (key ++ ':' :: tail).head? ≠ some '\ufeff' := by
    rw [List.head?_append_of_ne_nil _ hkey.nonempty]
    exact hkey.no_mark
  have hgap : skipGap ((key ++ ':' :: tail).length + 1) (atLine first ⟨key ++ ':' :: tail, m⟩ released true) =
      atLine first ⟨key ++ ':' :: tail, m⟩ released true :=
    skipGap_token [] _ rfl (by simp) (hkey.of_mem_head _) hmark _
  have hnote : (atLine first ⟨key ++ ':' :: tail, m⟩ released true).noteKey =
      .ok { atLine first ⟨key ++ ':' :: tail, m⟩ released true with key := some ⟨!first, released, m⟩ } := by
    cases first <;> simp [noteKey, atLine, dropKey, inFlow, mark, hm, bind, Except.bind]
  have hcursor : (atLine first ⟨key ++ ':' :: tail, m⟩ released true).cursor.rest = c :: more := hcs
  obtain ⟨k, hplain⟩ := hkey.plainFrom_eq (endsRun_colon htail) hcolon
    ((atLine first ⟨key ++ ':' :: tail, m⟩ released true).indent + 1).toNat (n := (key ++ ':' :: tail).length)
    (by simp) (m := m) (by cases first <;> simp [atLine]) (hkey.atMarker_eq tail m)
  rw [next_eq hgap rfl (by cases first <;> simp [atLine, mark, hm]) hcursor,
    readAt_of_canBegin hcan hbreak rfl (hkey.atMarker_eq tail m)]
  rw [afterRun_of_no_gap rfl] at hplain
  rw [readPlain_eq hnote hplain]
  simp [push, behindKey, atLine, mark, Gap.none]

/-- The tokens of a key before its colon has been counted, with the beginning of the mapping before the first. -/
def keyTokens (first : Bool) (key : List Char) (m : Mark) : List Token :=
  (if first then [.empty .blockMappingStart m] else []) ++
    [.empty .key m, ⟨.scalar key .plain, m, m.right key⟩, ⟨.value, m.right key, (m.right key).right [':']⟩]

theorem skipGap_colon (r : Reading) (hr : r.cursor = ⟨':' :: tail, m⟩) (n : Nat) : skipGap (n + 1) r = r := by
  have hgap := skipGap_token [] (':' :: tail) hr (by simp) (by simp +decide) (by simp) n
  rw [hgap]
  cases r
  cases hr
  rfl

theorem readAt_colon {r : Reading} (hr : r.cursor = ⟨':' :: tail, m⟩) (htail : gapAhead tail) :
    r.readAt ':' tail = r.readValue := by
  simp [readAt, Cursor.atMarker, hr, htail]

/-- A possible key is given up behind a text that is not short, and a required one is then a fault. -/
theorem dropStaleKeys_behindKey (first required : Bool) (released : Nat) :
    (behindKey first key tail m released (some ⟨required, released, m⟩)).dropStaleKeys =
      if IsShort key then .ok (behindKey first key tail m released (some ⟨required, released, m⟩))
      else if required then .error ((⟨required, released, m⟩ : KeySlot).fault (m.right key))
      else .ok (behindKey first key tail m released none) := by
  have hstale : (⟨required, released, m⟩ : KeySlot).isStale (m.right key) = !decide (IsShort key) := by
    simp only [KeySlot.isStale, Mark.right_line, Mark.right_offset, Nat.lt_irrefl, decide_false, Bool.false_or,
      ← decide_not]
    exact decide_eq_decide.mpr (by rw [IsShort]; omega)
  by_cases hkey : IsShort key <;> cases required <;>
    simp [dropStaleKeys, dropStaleKey, behindKey, mark, hstale, hkey, bind, Except.bind, pure, Except.pure]

/-- The colon makes the token before it a key. -/
theorem next_colon (htail : gapAhead tail) (hm : m.column = 0) (first required : Bool) (released : Nat)
    (hshort : IsShort key) :
    (behindKey first key tail m released (some ⟨required, released, m⟩)).next =
      .ok { behindColon ⟨tail, (m.right key).right [':']⟩ released with pending := keyTokens first key m } := by
  have hstale : (behindKey first key tail m released (some ⟨required, released, m⟩)).dropStaleKeys =
      .ok (behindKey first key tail m released (some ⟨required, released, m⟩)) := by
    rw [dropStaleKeys_behindKey, if_pos hshort]
  rw [next_eq (skipGap_colon _ rfl _) hstale (by cases first <;> simp [behindKey, mark] <;> omega) rfl,
    readAt_colon rfl htail]
  cases first <;>
    simp [readValue, behindKey, behindColon, openBlock, pushChars, push, inFlow, mark, keyTokens, hm, Cursor.skip_cons]

/-- Behind a token that has been given up as a key a colon is a fault. -/
theorem exists_next_colon_error (htail : gapAhead tail) (first : Bool) (released : Nat) :
    ∃ f, { behindKey first key tail m released none with pending := [] }.next = .error f := by
  refine ⟨.bare .mappingValue (m.right key), ?_⟩
  rw [next_eq (skipGap_colon _ rfl _) rfl (by cases first <;> simp [behindKey, mark] <;> omega) rfl,
    readAt_colon rfl htail]
  simp [readValue, readMarked, behindKey, inFlow, mark]

/-- The last token of a line is its value. -/
theorem next_value {rest left : List Char} (hvalue : IsPlainValue value)
    (hrest : rest = [] ∧ left = [] ∨ rest = '\n' :: left ∧ ∀ c ∈ left.head?, gapAhead [c] = false) (released : Nat) :
    ∃ m' a t, (left = [] ∨ m'.column = 0 ∧ a = true) ∧ t.lexeme = .scalar value .plain ∧
      (behindColon ⟨' ' :: (value ++ rest), m⟩ released).next =
        .ok { atLine false ⟨left, m'⟩ released a with pending := [t] } := by
  have hnext : gapAhead rest = gapAhead ['\n'] := by
    rcases hrest with ⟨rfl, -⟩ | ⟨rfl, -⟩ <;> rfl
  obtain ⟨c, more, hcs, hbreak, hcan⟩ := hvalue.exists_canBegin hnext
  have hmarker : (⟨value ++ rest, m.right [' ']⟩ : Cursor).atMarker = false := by simp [Cursor.atMarker]
  have hends : EndsRun rest := by
    rcases hrest with ⟨rfl, -⟩ | ⟨rfl, -⟩
    · intro d tail heq
      cases heq
    · intro d tail heq
      cases heq
      exact .inr (.inl rfl)
  have hgap : skipGap ((' ' :: (value ++ rest)).length + 1) (behindColon ⟨' ' :: (value ++ rest), m⟩ released) =
      behindColon ⟨value ++ rest, m.right [' ']⟩ released :=
    skipGap_token [' '] _ rfl (by simp) (hvalue.of_mem_head _) (by simp) _
  have hcursor : (behindColon ⟨value ++ rest, m.right [' ']⟩ released).cursor.rest = c :: more := hcs
  obtain ⟨k, hplain⟩ := hvalue.plainFrom_eq hends hnext 1 (n := (value ++ rest).length) (by simp)
    (m := m.right [' ']) (by simp) hmarker
  rw [next_eq hgap rfl (by simp [behindColon, mark]; omega) hcursor, readAt_of_canBegin hcan hbreak rfl hmarker]
  have hnote : (behindColon ⟨value ++ rest, m.right [' ']⟩ released).noteKey =
      .ok (behindColon ⟨value ++ rest, m.right [' ']⟩ released) := rfl
  rcases hrest with ⟨rfl, rfl⟩ | ⟨rfl, hleft⟩
  · rw [afterRun_end] at hplain
    rw [readPlain_eq hnote hplain]
    exact ⟨_, _, _, .inl rfl, by simp, rfl⟩
  · rw [afterRun_lineFeed (by decide) hleft] at hplain
    rw [readPlain_eq hnote hplain]
    exact ⟨_, _, _, .inr ⟨rfl, rfl⟩, by simp, rfl⟩

/-! ### Lines -/

/-- A step that releases no end of the text. -/
theorem tokens_succ {r s left : Reading} {ready : List Token} (hstep : r.next >>= dropStaleKeys = .ok s)
    (hrelease : s.release = (ready, left)) (hend : ∀ t ∈ ready, t.lexeme ≠ .streamEnd) (n : Nat) :
    r.tokens none (n + 1) = (ready ++ (left.tokens none n).1, (left.tokens none n).2) := by
  have hany : ready.any (·.lexeme = .streamEnd) = false := by simpa using hend
  have hstep' : r.step none = .ok s := hstep
  rw [tokens, hstep']
  simp only [hrelease, hany]
  rfl

theorem tokens_error {r : Reading} {f : Fault} (hstep : r.next >>= dropStaleKeys = .error f) (n : Nat) :
    r.tokens none (n + 1) = ([], some f) := by
  have hstep' : r.step none = .error f := hstep
  rw [tokens, hstep']

theorem release_of_no_key {r : Reading} (hkey : r.key = none) (houter : r.outerKeys = []) :
    r.release = (r.pending, { r with pending := [], released := r.released + r.pending.length }) := by
  simp [release, settledCount, hkey, houter]

theorem release_behindKey (first required : Bool) (released : Nat) :
    (behindKey first key tail m released (some ⟨required, released, m⟩)).release =
      ([], behindKey first key tail m released (some ⟨required, released, m⟩)) := by
  simp [release, settledCount, behindKey]

/-- A line gives its tokens, and the tokens of what is behind it follow. -/
theorem tokens_line {rest left : List Char} (hkey : IsPlainKey key) (hshort : IsShort key)
    (hvalue : IsPlainValue value)
    (hrest : rest = [] ∧ left = [] ∨ rest = '\n' :: left ∧ ∀ c ∈ left.head?, gapAhead [c] = false)
    (hm : m.column = 0) (first : Bool) (released n : Nat) :
    ∃ ts m' a released', (left = [] ∨ m'.column = 0 ∧ a = true) ∧
      ts.map Token.lexeme = (if first then [.blockMappingStart] else []) ++ lineLexemes key value ∧
      (atLine first ⟨key ++ ':' :: ' ' :: (value ++ rest), m⟩ released true).tokens none (n + 3) =
        (ts ++ ((atLine false ⟨left, m'⟩ released' a).tokens none n).1,
          ((atLine false ⟨left, m'⟩ released' a).tokens none n).2) := by
  have htail : gapAhead (' ' :: (value ++ rest)) := rfl
  obtain ⟨m', a, t, hleft, ht, hnext⟩ := next_value (m := (m.right key).right [':']) hvalue hrest
    (released + (keyTokens first key m).length)
  have hfirst : (atLine first ⟨key ++ ':' :: ' ' :: (value ++ rest), m⟩ released true).next >>= dropStaleKeys =
      .ok (behindKey first key (' ' :: (value ++ rest)) m released (some ⟨!first, released, m⟩)) := by
    rw [next_key hkey htail hm]
    exact (dropStaleKeys_behindKey ..).trans (if_pos hshort)
  have hsecond : (behindKey first key (' ' :: (value ++ rest)) m released (some ⟨!first, released, m⟩)).next >>=
      dropStaleKeys = .ok { behindColon ⟨' ' :: (value ++ rest), (m.right key).right [':']⟩ released with
        pending := keyTokens first key m } := by
    rw [next_colon htail hm _ _ _ hshort]
    rfl
  have hthird : (behindColon ⟨' ' :: (value ++ rest), (m.right key).right [':']⟩
      (released + (keyTokens first key m).length)).next >>= dropStaleKeys =
        .ok { atLine false ⟨left, m'⟩ (released + (keyTokens first key m).length) a with pending := [t] } := by
    rw [hnext]
    rfl
  refine ⟨keyTokens first key m ++ [t], m', a, released + (keyTokens first key m).length + 1, hleft, ?_, ?_⟩
  · cases first <;> simp [keyTokens, lineLexemes, ht, Token.empty]
  · have hkeyEnd : ∀ t ∈ keyTokens first key m, t.lexeme ≠ .streamEnd := by
      cases first <;> simp [keyTokens, Token.empty]
    have hvalueEnd : ∀ u ∈ [t], u.lexeme ≠ .streamEnd := by simp [ht]
    rw [tokens_succ hfirst (release_behindKey ..) (by simp), tokens_succ hsecond (release_of_no_key rfl rfl) hkeyEnd]
    have hrest := tokens_succ hthird (release_of_no_key rfl rfl) hvalueEnd n
    rw [List.nil_append, List.append_assoc]
    exact congrArg (fun p : List Token × Option Fault => (keyTokens first key m ++ p.1, p.2)) hrest

/-- At the end of the text the mapping ends. -/
theorem tokens_end (m : Mark) (released : Nat) (a : Bool) (n : Nat) :
    ∃ ts, ts.map Token.lexeme = [.blockEnd, .streamEnd] ∧
      (atLine false ⟨[], m⟩ released a).tokens none (n + 1) = (ts, none) := by
  have hgap : skipGap 1 (atLine false ⟨[], m⟩ released a) = atLine false ⟨[], m⟩ released a :=
    skipGap_token [] [] rfl (by simp) (by simp) (by simp) 0
  have hnext : (atLine false ⟨[], m⟩ released a).next = (atLine false ⟨[], m⟩ released a).readStreamEnd := by
    have hclose : (atLine false ⟨[], m⟩ released a).closeBlocks m.column = atLine false ⟨[], m⟩ released a :=
      closeBlocks_of_le (by simp [atLine])
    have hstale : (atLine false ⟨[], m⟩ released a).dropStaleKeys = .ok (atLine false ⟨[], m⟩ released a) := rfl
    rw [next, show (atLine false ⟨[], m⟩ released a).cursor.rest.length + 1 = 1 from rfl, hgap, hstale]
    simp only [bind, Except.bind]
    rw [show (atLine false ⟨[], m⟩ released a).mark = m from rfl, hclose]
    rfl
  have hstep : (atLine false ⟨[], m⟩ released a).step none =
      (atLine false ⟨[], m⟩ released a).readStreamEnd >>= dropStaleKeys := by
    rw [← hnext]
    rfl
  rw [tokens, hstep]
  exact ⟨_, rfl, rfl⟩

/-- Reading stops at a key that is too long. If it is the first, it has been taken for a scalar. -/
theorem tokens_longKey (hkey : IsPlainKey key) (hlong : ¬ IsShort key) (htail : gapAhead tail) (hm : m.column = 0)
    (first : Bool) (released n : Nat) :
    ∃ ts f, ts.map Token.lexeme = (if first then [.scalar key .plain] else []) ∧
      (atLine first ⟨key ++ ':' :: tail, m⟩ released true).tokens none (n + 2) = (ts, some f) := by
  have hstep : (atLine first ⟨key ++ ':' :: tail, m⟩ released true).next >>= dropStaleKeys =
      if !first then .error ((⟨!first, released, m⟩ : KeySlot).fault (m.right key))
      else .ok (behindKey first key tail m released none) := by
    rw [next_key hkey htail hm]
    exact (dropStaleKeys_behindKey ..).trans (if_neg hlong)
  cases first with
  | false => exact ⟨[], _, rfl, tokens_error hstep _⟩
  | true =>
    obtain ⟨f, hf⟩ : ∃ f, { behindKey true key tail m (released + 1) none with pending := [] }.next = .error f :=
      exists_next_colon_error htail true (released + 1)
    have hcolon : { behindKey true key tail m (released + 1) none with pending := [] }.next >>= dropStaleKeys =
        .error f := by
      rw [hf]
      rfl
    refine ⟨[⟨.scalar key .plain, m, m.right key⟩], f, rfl, ?_⟩
    rw [tokens_succ hstep (release_of_no_key rfl rfl) (by simp [behindKey])]
    exact congrArg (fun p : List Token × Option Fault => ([⟨.scalar key .plain, m, m.right key⟩] ++ p.1, p.2))
      (tokens_error hcolon n)

end Reading

/-! ### Texts of lines -/

/-- A key and a value. -/
abbrev Line := List Char × List Char

/-- The text of lines, where the last one is followed by `ending`. -/
def linesText (ending : List Char) : List Line → List Char
  | [] => []
  | [(key, value)] => key ++ ':' :: ' ' :: (value ++ ending)
  | (key, value) :: line :: lines => key ++ ':' :: ' ' :: (value ++ '\n' :: linesText ending (line :: lines))

/-- The line can be written without quotes. -/
structure IsPlainLine (line : Line) : Prop where
  key : IsPlainKey line.1
  value : IsPlainValue line.2

/-- What is behind the first line, from the end of its value on. -/
def behindLine (ending : List Char) (lines : List Line) : List Char :=
  if lines = [] then ending else '\n' :: linesText ending lines

theorem linesText_cons (ending : List Char) (line : Line) (lines : List Line) :
    linesText ending (line :: lines) = line.1 ++ ':' :: ' ' :: (line.2 ++ behindLine ending lines) := by
  cases lines <;> rfl

/-- A line begins with a character that is no gap. -/
theorem linesText_head {ending : List Char} {lines : List Line} (hlines : ∀ l ∈ lines, IsPlainLine l) :
    ∀ c ∈ (linesText ending lines).head?, gapAhead [c] = false := by
  cases lines with
  | nil => simp [linesText]
  | cons l lines =>
    intro c hc
    rw [linesText_cons] at hc
    obtain ⟨hblank, hbreak, -⟩ := (hlines l (by simp)).key.of_mem_head _ c hc
    simp [hblank, hbreak]

theorem length_le_behindLine (ending : List Char) (lines : List Line) :
    (linesText ending lines).length ≤ (behindLine ending lines).length := by
  by_cases hnil : lines = []
  · simp [hnil, linesText]
  · simp [behindLine, hnil]

theorem behindLine_cases {ending : List Char} (hending : ending = [] ∨ ending = ['\n']) {lines : List Line}
    (hlines : ∀ l ∈ lines, IsPlainLine l) :
    behindLine ending lines = [] ∧ linesText ending lines = [] ∨
      behindLine ending lines = '\n' :: linesText ending lines ∧
        ∀ c ∈ (linesText ending lines).head?, gapAhead [c] = false := by
  by_cases hnil : lines = []
  · subst hnil
    rcases hending with rfl | rfl
    · exact .inl ⟨rfl, rfl⟩
    · exact .inr ⟨rfl, by simp [linesText]⟩
  · exact .inr ⟨if_neg hnil, linesText_head hlines⟩

/-- What the tokens of lines say. -/
def linesLexemes : List Line → List Lexeme
  | [] => []
  | l :: lines => lineLexemes l.1 l.2 ++ linesLexemes lines

/-- The tokens of lines whose keys are short come before those of the lines behind them. -/
theorem Reading.tokens_lines {ending : List Char} (hending : ending = [] ∨ ending = ['\n']) {before after : List Line}
    (hplain : ∀ l ∈ before ++ after, IsPlainLine l) (hshort : ∀ l ∈ before, IsShort l.1) (first : Bool) {a : Bool}
    {m : Mark} (hm : linesText ending (before ++ after) = [] ∨ m.column = 0 ∧ a = true) (released : Nat) {n : Nat}
    (hn : (linesText ending (before ++ after)).length < n) :
    ∃ ts m' a' released' n', (linesText ending after = [] ∨ m'.column = 0 ∧ a' = true) ∧
      (linesText ending after).length < n' ∧
      ts.map Token.lexeme = (if first && !before.isEmpty then [.blockMappingStart] else []) ++
        linesLexemes before ∧
      (atLine first ⟨linesText ending (before ++ after), m⟩ released a).tokens none n =
        (ts ++ ((atLine (first && before.isEmpty) ⟨linesText ending after, m'⟩ released' a').tokens none n').1,
          ((atLine (first && before.isEmpty) ⟨linesText ending after, m'⟩ released' a').tokens none n').2) := by
  induction before generalizing first a m released n with
  | nil => exact ⟨[], m, a, released, n, hm, hn, by simp [linesLexemes], by simp⟩
  | cons l before ih =>
    have hl := hplain l (by simp)
    have hbehind : ∀ l ∈ before ++ after, IsPlainLine l := fun l hl => hplain l (by simp at hl ⊢; tauto)
    rw [List.cons_append, linesText_cons] at hm hn
    have hcolumn : m.column = 0 ∧ a = true := by simpa using hm
    obtain ⟨hcolumn, rfl⟩ := hcolumn
    obtain ⟨k, rfl⟩ : ∃ k, n = k + 3 := ⟨n - 3, by simp at hn; omega⟩
    have hlength : (linesText ending (before ++ after)).length < k := by
      obtain ⟨c, key, hkey, -⟩ := hl.key.exists_cons
      have hle := length_le_behindLine ending (before ++ after)
      simp [hkey] at hn
      omega
    obtain ⟨ts, m', a', released', hm', hts, hline⟩ := tokens_line hl.key (hshort l (by simp)) hl.value
      (behindLine_cases hending hbehind) hcolumn first released k
    obtain ⟨more, m₂, a₂, released₂, n₂, hm₂, hn₂, hmore, hlines⟩ := ih hbehind
      (fun l hl => hshort l (by simp [hl])) false hm' released' hlength
    refine ⟨ts ++ more, m₂, a₂, released₂, n₂, hm₂, hn₂, ?_, ?_⟩
    · simp [hts, hmore, linesLexemes]
    · rw [List.cons_append, linesText_cons, hline, hlines]
      simp

/-- The tokens of lines whose keys are short. -/
theorem Token.ofText_lines {ending : List Char} (hending : ending = [] ∨ ending = ['\n']) {lines : List Line}
    (hne : lines ≠ []) (hplain : ∀ l ∈ lines, IsPlainLine l) (hshort : ∀ l ∈ lines, IsShort l.1) :
    ∃ ts, Token.ofText none (linesText ending lines) = (ts, none) ∧
      ts.map Token.lexeme = .blockMappingStart :: (linesLexemes lines ++ [.blockEnd, .streamEnd]) := by
  have hplain' : ∀ l ∈ lines ++ [], IsPlainLine l := by simpa using hplain
  obtain ⟨ts, m, a, released, n, -, hn, hts, htokens⟩ := Reading.tokens_lines hending hplain' hshort true
    (a := true) (m := .start) (.inr ⟨rfl, rfl⟩) 0 (Nat.lt_succ_self _)
  obtain ⟨k, rfl⟩ : ∃ k, n = k + 1 := ⟨n - 1, by omega⟩
  obtain ⟨last, hlast, hend⟩ := Reading.tokens_end m released a k
  have hempty : lines.isEmpty = false := by simpa using hne
  rw [List.append_nil] at htokens
  simp only [hempty, Bool.and_false, linesText, hend] at htokens
  refine ⟨ts ++ last, htokens, ?_⟩
  simp [hts, hlast, hempty]

/-- The tokens before the first key that is too long. -/
theorem Token.ofText_longKey {ending : List Char} (hending : ending = [] ∨ ending = ['\n']) {before after : List Line}
    {line : Line} (hplain : ∀ l ∈ before ++ line :: after, IsPlainLine l) (hshort : ∀ l ∈ before, IsShort l.1)
    (hlong : ¬ IsShort line.1) :
    ∃ ts f, Token.ofText none (linesText ending (before ++ line :: after)) = (ts, some f) ∧
      ts.map Token.lexeme =
        if before = [] then [.scalar line.1 .plain] else .blockMappingStart :: linesLexemes before := by
  obtain ⟨ts, m, a, released, n, hm, hn, hts, htokens⟩ := Reading.tokens_lines hending hplain hshort true
    (a := true) (m := .start) (.inr ⟨rfl, rfl⟩) 0 (Nat.lt_succ_self _)
  rw [linesText_cons] at hm hn htokens
  have hcolumn : m.column = 0 ∧ a = true := by simpa using hm
  obtain ⟨hcolumn, rfl⟩ := hcolumn
  obtain ⟨k, rfl⟩ : ∃ k, n = k + 2 := ⟨n - 2, by simp at hn; omega⟩
  have htail : gapAhead (' ' :: (line.2 ++ behindLine ending after)) := rfl
  obtain ⟨more, f, hmore, hfault⟩ := Reading.tokens_longKey (hplain line (by simp)).key hlong htail hcolumn
    (true && before.isEmpty) released k
  rw [hfault] at htokens
  refine ⟨ts ++ more, f, htokens, ?_⟩
  cases before <;> simp [hts, hmore, linesLexemes]

end TapeLang.Yaml
