import Mathlib.Data.List.Find
import Mathlib.Data.List.TakeWhile
import TapeLang.Code.Reflow.Token
import TapeLang.Proofs.Name.Canonical

/-!
# Reading tokens

A text without quotes, number signs and slashes is read token by token in the same way whatever comes behind it, as
long as that begins with a character at which every token ends (`nextToken_append`). `Lexes cs ts` says that `cs` is
read as `ts` in front of every such text, so parts of a line that are read alone are read together
(`Lexes.append`), and only white space is lost (`Lexes.inked_eq`).
-/

namespace TapeLang.Code.Reflow

/-! ### Characters -/

/-- An ASCII character that begins neither a quoted literal nor an attribute nor a comment. -/
def isPlain (c : Char) : Bool := c.toNat < 128 && !(['"', '\'', '#', '/'].contains c)

/-- A character at which every token before it ends. -/
def isStop (c : Char) : Bool := !continuesWord c && !joinedMarks.flatten.contains c && isPlain c

/-- A token that is neither empty nor mistaken for white space or a comment. -/
def Token.isSolid (t : Token) : Bool :=
  !t.chars.isEmpty && t.chars.all fun c => !isSpace c && c ≠ '/'

/-- What is left of a text when its white space is deleted. -/
def inked (cs : List Char) : List Char := cs.filter fun c => !Text.whiteSpace.contains c

@[simp] theorem inked_nil : inked [] = [] := rfl

@[simp] theorem inked_append (as bs : List Char) : inked (as ++ bs) = inked as ++ inked bs :=
  List.filter_append ..

theorem isSpace_of_whiteSpace {c : Char} (hc : Text.whiteSpace.contains c) : isSpace c := by
  simp [isSpace, hc]

theorem whiteSpace_of_isSpace {c : Char} (hplain : isPlain c) (hc : isSpace c) : Text.whiteSpace.contains c := by
  simp only [isPlain, Bool.and_eq_true, decide_eq_true_eq] at hplain
  simp only [isSpace, Bool.or_eq_true, decide_eq_true_eq] at hc
  rcases hc with (hc | hc) | hc
  · exact hc
  · omega
  · omega

namespace Token

variable {t : Token}

theorem chars_ne_nil (h : t.isSolid) : t.chars ≠ [] := by
  simp only [isSolid, Bool.and_eq_true] at h
  simpa using h.1

theorem of_mem_chars (h : t.isSolid) {c : Char} (hc : c ∈ t.chars) : isSpace c = false ∧ c ≠ '/' := by
  simp only [isSolid, Bool.and_eq_true] at h
  simpa using List.all_eq_true.1 h.2 c hc

theorem inked_chars (h : t.isSolid) : inked t.chars = t.chars := by
  refine List.filter_eq_self.2 fun c hc => ?_
  have hspace := (of_mem_chars h hc).1
  cases hwhite : Text.whiteSpace.contains c with
  | false => rfl
  | true => simp [isSpace_of_whiteSpace hwhite] at hspace

end Token

/-! ### The next token -/

/-- What follows is empty or begins with a character at which every token ends. -/
def Stops (r : List Char) : Prop := ∀ c ∈ r.head?, isStop c

instance (r : List Char) : Decidable (Stops r) :=
  decidable_of_iff (r.head?.all isStop) (by simp [Stops, Option.all_eq_true])

theorem stops_cons {d : Char} {r : List Char} : Stops (d :: r) ↔ isStop d := by
  simp [Stops]

section

variable {cs r : List Char} {t : Token}

/-- In a plain text, and where it stops, no quote and no number sign comes after letters. -/
theorem append_ne (hplain : ∀ c ∈ cs, isPlain c) (hr : Stops r) {letters : List Char}
    (hletters : letters.all (!isStop ·)) {d : Char} (hd : !isPlain d && !isStop d) (rest : List Char) :
    cs ++ r ≠ letters ++ d :: rest := by
  simp only [Bool.and_eq_true, Bool.not_eq_true'] at hd
  intro heq
  rcases List.append_eq_append_iff.1 heq with ⟨more, hmore, hrest⟩ | ⟨more, hmore, hrest⟩
  · -- the text stops before the letters end, or in front of `d`
    cases more with
    | nil =>
      obtain rfl : r = d :: rest := hrest
      simp [stops_cons, hd.2] at hr
    | cons a more =>
      have hstop := stops_cons.1 (hrest ▸ hr)
      have hletter := List.all_eq_true.1 hletters a (by simp [hmore])
      simp [hstop] at hletter
  · cases more with
    | nil =>
      obtain rfl : d :: rest = r := hrest
      simp [stops_cons, hd.2] at hr
    | cons a more =>
      obtain ⟨rfl, -⟩ := List.cons.inj hrest
      have hd' := hplain d (by simp [hmore])
      simp [hd.1] at hd'

/-- Letters begin a literal only in front of a quote or a number sign. -/
theorem literalLetters?_eq_none (hplain : ∀ c ∈ cs, isPlain c) (hr : Stops r) : literalLetters? (cs ++ r) = none := by
  have hone (a d : Char) (rest : List Char) (ha : [a].all (!isStop ·)) (hd : !isPlain d && !isStop d) :
      cs ++ r ≠ a :: d :: rest := append_ne hplain hr ha hd rest
  have htwo (a b d : Char) (rest : List Char) (hab : [a, b].all (!isStop ·)) (hd : !isPlain d && !isStop d) :
      cs ++ r ≠ a :: b :: d :: rest := append_ne hplain hr hab hd rest
  unfold literalLetters?
  split
  case h_11 => rfl
  all_goals
    next heq =>
      first
      | exact absurd heq (hone _ _ _ (by decide) (by decide))
      | exact absurd heq (htwo _ _ _ _ (by decide) (by decide))

/-- A raw word begins with a letter and a number sign. -/
theorem wordToken_eq (hplain : ∀ c ∈ cs, isPlain c) (hr : Stops r) :
    wordToken (cs ++ r) = some (.word ((cs ++ r).takeWhile continuesWord), (cs ++ r).dropWhile continuesWord) := by
  unfold wordToken
  split
  · next rest heq =>
    have hletters : ['r'].all (!isStop ·) := by decide
    exact absurd heq (append_ne hplain hr hletters (by decide) rest)
  · rfl

theorem span_append (cs : List Char) (hr : Stops r) :
    (cs ++ r).takeWhile continuesWord = cs.takeWhile continuesWord ∧
      (cs ++ r).dropWhile continuesWord = cs.dropWhile continuesWord ++ r := by
  induction cs with
  | nil =>
    cases r with
    | nil => exact ⟨rfl, rfl⟩
    | cons d r =>
      have hd := stops_cons.1 hr
      simp only [isStop, Bool.and_eq_true, Bool.not_eq_true'] at hd
      simp [hd.1.1]
  | cons c cs ih =>
    rw [List.cons_append]
    cases hc : continuesWord c <;> simp [hc, ih]

theorem isPrefixOf_append {m : List Char} (hm : m ≠ []) (hr : ∀ d ∈ r.head?, d ∉ m) :
    m.isPrefixOf (cs ++ r) = m.isPrefixOf cs := by
  induction cs generalizing m with
  | nil =>
    obtain ⟨a, m, rfl⟩ := List.exists_cons_of_ne_nil hm
    cases r with
    | nil => rfl
    | cons d r =>
      have hne : a ≠ d := fun h => hr d rfl (h ▸ List.mem_cons_self ..)
      simp [List.isPrefixOf, hne]
  | cons c cs ih =>
    obtain ⟨a, m, rfl⟩ := List.exists_cons_of_ne_nil hm
    rw [List.cons_append, List.isPrefixOf, List.isPrefixOf]
    cases m with
    | nil => simp [List.isPrefixOf]
    | cons b m => rw [ih (List.cons_ne_nil _ _) fun d hd hmem => hr d hd (List.mem_cons_of_mem _ hmem)]

/-- No token of several marks goes on where a token stops. -/
theorem find?_joinedMarks_append (hr : Stops r) :
    joinedMarks.find? (·.isPrefixOf (cs ++ r)) = joinedMarks.find? (·.isPrefixOf cs) := by
  have hne : ∀ m ∈ joinedMarks, m ≠ [] := by decide
  refine List.find?_congr fun m hm => isPrefixOf_append (hne m hm) fun d hd hmem => ?_
  have hstop := hr d hd
  simp only [isStop, Bool.and_eq_true, Bool.not_eq_true'] at hstop
  have hjoined : d ∈ joinedMarks.flatten := List.mem_flatten.2 ⟨m, hm, hmem⟩
  simp [hjoined] at hstop

theorem nextToken_word {c : Char} (hc : startsWord c) (hplain : ∀ d ∈ c :: cs, isPlain d) (hr : Stops r) :
    nextToken (c :: cs ++ r) =
      some (.word ((c :: cs).takeWhile continuesWord), (c :: cs).dropWhile continuesWord ++ r) := by
  have hspan := span_append (c :: cs) hr
  rw [← hspan.1, ← hspan.2, ← wordToken_eq hplain hr, nextToken.eq_def]
  simp only [List.cons_append, hc, if_true]
  rw [← List.cons_append, literalLetters?_eq_none hplain hr]

theorem nextToken_number {c : Char} (hstart : startsWord c = false) (hc : isDigit c) (hr : Stops r) :
    nextToken (c :: cs ++ r) =
      some (.literal ((c :: cs).takeWhile continuesWord), (c :: cs).dropWhile continuesWord ++ r) := by
  have hspan := span_append (c :: cs) hr
  rw [← hspan.1, ← hspan.2, nextToken.eq_def]
  simp only [List.cons_append, hstart, Bool.false_eq_true, if_false, hc, if_true]

theorem nextToken_delimiter {c : Char} (hc : c ∈ ['(', ')', '[', ']', '\x7b', '\x7d']) {after : List Char}
    (h : nextToken (c :: cs) = some (t, after)) :
    c :: cs = t.chars ++ after ∧ ∀ r, Stops r → nextToken (c :: cs ++ r) = some (t, after ++ r) := by
  simp only [List.mem_cons, List.not_mem_nil, or_false] at hc
  rcases hc with rfl | rfl | rfl | rfl | rfl | rfl <;>
  · cases h
    exact ⟨rfl, fun _ _ => rfl⟩

theorem nextToken_mark {c : Char} (hstart : startsWord c = false) (hdigit : isDigit c = false)
    (hc : c ∉ ['"', '\'', '(', ')', '[', ']', '\x7b', '\x7d']) {after : List Char}
    (h : nextToken (c :: cs) = some (t, after)) :
    c :: cs = t.chars ++ after ∧ ∀ r, Stops r → nextToken (c :: cs ++ r) = some (t, after ++ r) := by
  simp only [List.mem_cons, List.not_mem_nil, or_false, not_or] at hc
  have hjoined : ∀ r, Stops r → joinedMarks.find? (·.isPrefixOf (c :: (cs ++ r))) =
      joinedMarks.find? (·.isPrefixOf (c :: cs)) := fun r hr => @find?_joinedMarks_append (c :: cs) r hr
  have hnil : Stops [] := by decide
  cases hfind : joinedMarks.find? (·.isPrefixOf (c :: cs)) with
  | some m =>
    have hnext : ∀ r, Stops r → nextToken (c :: cs ++ r) = some (.mark m, (c :: cs ++ r).drop m.length) := by
      intro r hr
      rw [nextToken.eq_def]
      simp only [List.cons_append, hstart, hdigit, hc, Bool.false_eq_true, if_false, hjoined r hr, hfind]
    have halone := hnext [] hnil
    rw [List.append_nil, h] at halone
    cases halone
    have hm : m.isPrefixOf (c :: cs) :=
      List.find?_some (p := fun m : List Char => m.isPrefixOf (c :: cs)) hfind
    obtain ⟨rest, hrest⟩ := List.isPrefixOf_iff_prefix.1 hm
    rw [← hrest] at hnext ⊢
    refine ⟨by rw [List.drop_left]; rfl, fun r hr => ?_⟩
    rw [hnext r hr, List.append_assoc, List.drop_left, List.drop_left]
  | none =>
    have hnext : ∀ r, Stops r → nextToken (c :: cs ++ r) = if isMark c then some (.mark [c], cs ++ r) else none := by
      intro r hr
      rw [nextToken.eq_def]
      simp only [List.cons_append, hstart, hdigit, hc, Bool.false_eq_true, if_false, hjoined r hr, hfind]
    have halone := hnext [] hnil
    rw [List.append_nil, List.append_nil, h] at halone
    split at halone
    · next hmark =>
      cases halone
      exact ⟨rfl, fun r hr => by rw [hnext r hr, if_pos hmark]⟩
    · cases halone

/-- A token of a plain text is read in the same way in front of a text that stops it. -/
theorem nextToken_append (hplain : ∀ c ∈ cs, isPlain c) {after : List Char} (h : nextToken cs = some (t, after)) :
    cs = t.chars ++ after ∧ ∀ r, Stops r → nextToken (cs ++ r) = some (t, after ++ r) := by
  cases cs with
  | nil => cases h
  | cons c cs =>
    -- a word or a number goes on as far as it can
    have hspan : ∀ f : List Char → Token, (∀ w, (f w).chars = w) →
        (∀ r, Stops r → nextToken (c :: cs ++ r) =
          some (f ((c :: cs).takeWhile continuesWord), (c :: cs).dropWhile continuesWord ++ r)) →
        c :: cs = t.chars ++ after ∧ ∀ r, Stops r → nextToken (c :: cs ++ r) = some (t, after ++ r) := by
      intro f hf hnext
      have halone := hnext [] (by decide)
      rw [List.append_nil, List.append_nil, h] at halone
      obtain ⟨rfl, rfl⟩ := Prod.mk.inj (Option.some.inj halone)
      rw [hf, List.takeWhile_append_dropWhile]
      exact ⟨rfl, hnext⟩
    cases hstart : startsWord c with
    | true => exact hspan .word (fun _ => rfl) fun r => nextToken_word hstart hplain
    | false =>
      cases hdigit : isDigit c with
      | true => exact hspan .literal (fun _ => rfl) fun r => nextToken_number hstart hdigit
      | false =>
        by_cases hc : c ∈ ['(', ')', '[', ']', '\x7b', '\x7d']
        · exact nextToken_delimiter hc h
        · refine nextToken_mark hstart hdigit (fun hmem => ?_) h
          have hquotes : ∀ d ∈ ['"', '\''], (!isPlain d) = true := List.all_eq_true.1 (by decide)
          have hsplit : c ∈ ['"', '\''] ++ ['(', ')', '[', ']', '\x7b', '\x7d'] := hmem
          rcases List.mem_append.1 hsplit with hquote | hother
          · exact absurd (hplain c (List.mem_cons_self ..)) (by simpa using hquotes c hquote)
          · exact hc hother

/-! ### Whole texts -/

/-- The tokens of a text, found in any sufficient number of steps. -/
def Reads (cs : List Char) (ts : List Token) : Prop :=
  ∀ n, cs.length ≤ n → tokensWithin n cs = some ts

namespace Reads

variable {ts : List Token}

theorem nil : Reads [] [] := fun n _ => by cases n <;> rfl

theorem space {c : Char} (hc : isSpace c) (h : Reads cs ts) : Reads (c :: cs) ts := by
  intro n hn
  cases n with
  | zero => cases hn
  | succ n => rw [tokensWithin, if_pos hc, h n (Nat.le_of_succ_le_succ hn)]

theorem spaces {w : List Char} (hw : ∀ c ∈ w, isSpace c) (h : Reads cs ts) : Reads (w ++ cs) ts := by
  induction w with
  | nil => exact h
  | cons c w ih =>
    obtain ⟨hc, hrest⟩ := List.forall_mem_cons.1 hw
    exact .space hc (ih hrest)

/-- A line comment is passed over up to its line end. -/
theorem comment {text : List Char} (htext : '\n' ∉ text) (h : Reads ('\n' :: cs) ts) :
    Reads ('/' :: '/' :: ' ' :: text ++ '\n' :: cs) ts := by
  have hafter : afterLine (' ' :: text ++ '\n' :: cs) = '\n' :: cs := by
    have hline : ∀ c ∈ ' ' :: text, decide (c ≠ '\n') = true := by
      intro c hc
      rcases List.mem_cons.1 hc with rfl | hc
      · decide
      · exact decide_eq_true fun heq => htext (heq ▸ hc)
    rw [afterLine, List.dropWhile_append_of_pos hline]
    simp
  intro n hn
  cases n with
  | zero => cases hn
  | succ n =>
    have hstep : tokensWithin (n + 1) ('/' :: '/' :: ' ' :: text ++ '\n' :: cs) =
        tokensWithin n (afterLine (' ' :: text ++ '\n' :: cs)) := rfl
    rw [hstep, hafter]
    refine h n ?_
    simp only [List.length_cons, List.length_append] at hn ⊢
    omega

theorem token (ht : t.isSolid) (hnext : nextToken (t.chars ++ cs) = some (t, cs)) (h : Reads cs ts) :
    Reads (t.chars ++ cs) (t :: ts) := by
  obtain ⟨c, w, hchars⟩ := List.exists_cons_of_ne_nil (Token.chars_ne_nil ht)
  obtain ⟨hspace, hslash⟩ := Token.of_mem_chars ht (hchars ▸ List.mem_cons_self ..)
  rw [hchars] at hnext ⊢
  intro n hn
  cases n with
  | zero => cases hn
  | succ n =>
    have hrest := h n (by simp only [List.length_cons, List.length_append] at hn; omega)
    rw [List.cons_append] at hnext ⊢
    rw [tokensWithin, if_neg (by simp [hspace])]
    split
    iterate 5
      · next heq => exact absurd (List.cons.inj heq).1 hslash
    rw [hnext]
    simp only [hrest, Option.map_some]

theorem tokenize (h : Reads cs ts) (hts : balanced [] ts) : tokenize cs = some ts := by
  rw [Reflow.tokenize, h _ (Nat.le_succ _)]
  simp [hts]

end Reads

/-! ### Parts of lines -/

/-- The text `cs` is read as `ts` in front of whatever stops it. -/
inductive Lexes : List Char → List Token → Prop where
  | nil : Lexes [] []
  | space {c : Char} {cs : List Char} {ts : List Token} (hc : Text.whiteSpace.contains c) (h : Lexes cs ts) :
      Lexes (c :: cs) ts
  | token {t : Token} {cs : List Char} {ts : List Token} (ht : t.isSolid)
      (hnext : ∀ r, Stops r → nextToken (t.chars ++ cs ++ r) = some (t, cs ++ r)) (h : Lexes cs ts) :
      Lexes (t.chars ++ cs) (t :: ts)

namespace Lexes

variable {as bs : List Char} {ts us : List Token}

theorem reads (h : Lexes as ts) {r : List Char} (hr : Stops r) (hrest : Reads r us) : Reads (as ++ r) (ts ++ us) := by
  induction h with
  | nil => exact hrest
  | space hc _ ih => exact .space (isSpace_of_whiteSpace hc) ih
  | token ht hnext _ ih =>
    rw [List.append_assoc]
    exact .token ht (by rw [← List.append_assoc, hnext r hr]) ih

theorem append (ha : Lexes as ts) (hb : Lexes bs us) (hbs : Stops bs) : Lexes (as ++ bs) (ts ++ us) := by
  induction ha with
  | nil => exact hb
  | space hc _ ih => exact .space hc ih
  | @token t cs ts ht hnext _ ih =>
    rw [List.append_assoc]
    refine .token ht (fun r hr => ?_) ih
    have hstops : Stops (bs ++ r) := by
      cases bs with
      | nil => exact hr
      | cons b bs => exact stops_cons.2 (stops_cons.1 hbs)
    have hfront := hnext (bs ++ r) hstops
    simpa only [List.append_assoc] using hfront

/-- Reading loses white space only. -/
theorem inked_eq (h : Lexes as ts) : inked as = ts.flatMap Token.chars := by
  induction h with
  | nil => rfl
  | @space c cs ts hc _ ih =>
    rw [← ih, inked, List.filter_cons, if_neg (by simp only [hc]; decide)]
    rfl
  | token ht _ _ ih => rw [inked_append, Token.inked_chars ht, ih, List.flatMap_cons]

theorem ne_nil (h : Lexes as ts) (hts : ts ≠ []) : as ≠ [] := by
  cases h with
  | nil => exact absurd rfl hts
  | space => exact List.cons_ne_nil _ _
  | token ht => exact List.append_ne_nil_of_left_ne_nil (Token.chars_ne_nil ht) _

theorem isSolid (h : Lexes as ts) : ∀ t ∈ ts, t.isSolid := by
  induction h with
  | nil => exact fun _ => (nomatch ·)
  | space _ _ ih => exact ih
  | token ht _ _ ih => exact List.forall_mem_cons.2 ⟨ht, ih⟩

theorem slash_not_mem (h : Lexes as ts) : '/' ∉ as := by
  induction h with
  | nil => exact List.not_mem_nil
  | @space c cs ts hc _ ih =>
    rw [List.mem_cons, not_or]
    refine ⟨?_, ih⟩
    rintro rfl
    revert hc
    decide
  | token ht _ _ ih =>
    rw [List.mem_append, not_or]
    exact ⟨fun hmem => (Token.of_mem_chars ht hmem).2 rfl, ih⟩

/-- A plain text that is read alone. -/
theorem of_tokensWithin {n : Nat} (h : tokensWithin n as = some ts) (hplain : ∀ c ∈ as, isPlain c)
    (hts : ∀ t ∈ ts, t.isSolid) : Lexes as ts := by
  induction n generalizing as ts with
  | zero =>
    cases as with
    | nil =>
      cases h
      exact .nil
    | cons c as => cases h
  | succ n ih =>
    cases as with
    | nil =>
      cases h
      exact .nil
    | cons c as =>
      obtain ⟨hc, has⟩ := List.forall_mem_cons.1 hplain
      rw [tokensWithin] at h
      cases hspace : isSpace c with
      | true =>
        rw [hspace, if_pos rfl] at h
        exact .space (whiteSpace_of_isSpace hc hspace) (ih h has hts)
      | false =>
        have hslash : c ≠ '/' := by
          rintro rfl
          revert hc
          decide
        rw [hspace, if_neg Bool.false_ne_true] at h
        split at h
        iterate 5
          · next heq => exact absurd (List.cons.inj heq).1 hslash
        cases hnext : nextToken (c :: as) with
        | none =>
          rw [hnext] at h
          cases h
        | some found =>
          obtain ⟨t, after⟩ := found
          simp only [hnext] at h
          obtain ⟨us, hus, rfl⟩ := Option.map_eq_some_iff.1 h
          obtain ⟨hsplit, happend⟩ := nextToken_append hplain hnext
          obtain ⟨ht, hus'⟩ := List.forall_mem_cons.1 hts
          rw [hsplit] at hplain happend ⊢
          exact .token ht happend (ih hus (fun d hd => hplain d (List.mem_append_right _ hd)) hus')

theorem single {t : Token} (ht : t.isSolid) (hnext : ∀ r, Stops r → nextToken (t.chars ++ r) = some (t, r)) :
    Lexes t.chars [t] := by
  have h : Lexes (t.chars ++ []) [t] := .token ht (fun r hr => by rw [List.append_nil, hnext r hr]; rfl) .nil
  rwa [List.append_nil] at h

/-- What is read on and on inside a word or a number. -/
private theorem inner_char {d : Char} (hd : d = '_' ∨ Text.isAsciiAlphanum d) :
    isPlain d ∧ continuesWord d ∧ isSpace d = false ∧ d ≠ '/' ∧ (isDigit d = false → startsWord d) ∧
      (isDigit d → startsWord d = false) := by
  rcases hd with rfl | hd
  · decide
  · exact Name.forall_alphanum (p := fun d => Text.isAsciiAlphanum d → isPlain d ∧ continuesWord d ∧
      isSpace d = false ∧ d ≠ '/' ∧ (isDigit d = false → startsWord d) ∧ (isDigit d → startsWord d = false))
      (by decide) hd hd

private theorem inner_chars {c : Char} {w : List Char} (hw : ∀ d ∈ c :: w, d = '_' ∨ Text.isAsciiAlphanum d) :
    (∀ d ∈ c :: w, isPlain d) ∧ (c :: w).takeWhile continuesWord = c :: w ∧ (c :: w).dropWhile continuesWord = [] ∧
      (c :: w).all (fun d => !isSpace d && d ≠ '/') = true := by
  have hchar := fun d hd => inner_char (hw d hd)
  refine ⟨fun d hd => (hchar d hd).1, ?_, ?_, ?_⟩
  · exact List.takeWhile_eq_self_iff.2 fun d hd => (hchar d hd).2.1
  · exact List.dropWhile_eq_nil_iff.2 fun d hd => (hchar d hd).2.1
  · refine List.all_eq_true.2 fun d hd => ?_
    obtain ⟨-, -, hspace, hslash, -⟩ := hchar d hd
    simp [hspace, hslash]

/-- A name is one word. -/
theorem word {c : Char} {w : List Char} (hc : isDigit c = false)
    (hw : ∀ d ∈ c :: w, d = '_' ∨ Text.isAsciiAlphanum d) : Lexes (c :: w) [.word (c :: w)] := by
  obtain ⟨hplain, htake, hdrop, hsolid⟩ := inner_chars hw
  have hstart := (inner_char (hw c (List.mem_cons_self ..))).2.2.2.2.1 hc
  refine single (t := .word (c :: w)) (by simpa [Token.isSolid, Token.chars] using hsolid) fun r hr => ?_
  rw [Token.chars, nextToken_word hstart hplain hr, htake, hdrop, List.nil_append]

theorem number {c : Char} {w : List Char} (hc : isDigit c)
    (hw : ∀ d ∈ c :: w, d = '_' ∨ Text.isAsciiAlphanum d) : Lexes (c :: w) [.literal (c :: w)] := by
  obtain ⟨-, htake, hdrop, hsolid⟩ := inner_chars hw
  have hstart := (inner_char (hw c (List.mem_cons_self ..))).2.2.2.2.2 hc
  refine single (t := .literal (c :: w)) (by simpa [Token.isSolid, Token.chars] using hsolid) fun r hr => ?_
  rw [Token.chars, nextToken_number hstart hc hr, htake, hdrop, List.nil_append]

end Lexes

end

end TapeLang.Code.Reflow
