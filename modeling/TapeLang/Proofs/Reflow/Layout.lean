import Mathlib.Data.List.TakeDrop
import TapeLang.Code.Reflow.Layout
import TapeLang.Proofs.Reflow.Lexing

/-!
# What the layout adds

The rows of tokens hold them all in their order (`flatMap_rowsFrom`), and a row is written as its tokens with white
space between them, and with one comma if its parameters get a line of their own. So the layout adds to the tokens
nothing but white space and commas in front of closing parentheses (`inked_layout`), which `dropCommas` takes out
again if the tokens have none (`Adds.dropCommas_eq`).
-/

namespace TapeLang.Code.Reflow

/-! ### Commas in front of closing parentheses -/

/-- Deletes every comma directly in front of a closing parenthesis. -/
def dropCommas : List Char → List Char
  | [] => []
  | c :: cs => if c = ',' ∧ cs.head? = some ')' then dropCommas cs else c :: dropCommas cs

/-- A text that loses no comma, and does not end in one. -/
def Quiet (cs : List Char) : Prop := dropCommas cs = cs ∧ cs.getLast? ≠ some ','

instance (cs : List Char) : Decidable (Quiet cs) := inferInstanceAs (Decidable (_ ∧ _))

/-- The second text is the first one with commas added in front of closing parentheses. -/
inductive Adds : List Char → List Char → Prop where
  | nil : Adds [] []
  | same {as bs : List Char} (c : Char) (h : Adds as bs) : Adds (c :: as) (c :: bs)
  | comma {as bs : List Char} (h : Adds as bs) : Adds (')' :: as) (',' :: ')' :: bs)

section

variable {as bs cs ds : List Char}

theorem length_dropCommas_le (cs : List Char) : (dropCommas cs).length ≤ cs.length := by
  induction cs with
  | nil => exact Nat.le_refl _
  | cons c cs ih =>
    rw [dropCommas]
    split
    · exact Nat.le_succ_of_le ih
    · exact Nat.succ_le_succ ih

/-- A text that loses no comma has none to lose at its front. -/
theorem dropCommas_cons_eq {c : Char} (h : dropCommas (c :: cs) = c :: cs) :
    ¬ (c = ',' ∧ cs.head? = some ')') ∧ dropCommas cs = cs := by
  rw [dropCommas] at h
  split at h
  · have hlength := length_dropCommas_le cs
    rw [h, List.length_cons] at hlength
    omega
  · next hfront => exact ⟨hfront, (List.cons.inj h).2⟩

namespace Adds

theorem refl (cs : List Char) : Adds cs cs := by
  induction cs with
  | nil => exact .nil
  | cons c cs ih => exact .same c ih

theorem append (h : Adds as bs) (h' : Adds cs ds) : Adds (as ++ cs) (bs ++ ds) := by
  induction h with
  | nil => exact h'
  | same c _ ih => exact .same c ih
  | comma _ ih => exact .comma ih

theorem mem (h : Adds as bs) {c : Char} (hc : c ∈ bs) : c ∈ as ∨ c = ',' := by
  induction h with
  | nil => exact .inl hc
  | same d _ ih =>
    rcases List.mem_cons.1 hc with rfl | hc
    · exact .inl (List.mem_cons_self ..)
    · exact (ih hc).imp_left (List.mem_cons_of_mem _)
  | comma _ ih =>
    simp only [List.mem_cons] at hc ⊢
    rcases hc with rfl | rfl | hc
    · exact .inr rfl
    · exact .inl (.inl rfl)
    · exact (ih hc).imp_left .inr

theorem head?_eq (h : Adds as bs) (has : as.head? ≠ some ')') : bs.head? = as.head? := by
  cases h with
  | nil => rfl
  | same => rfl
  | comma => exact absurd rfl has

/-- Added commas are dropped again. -/
theorem dropCommas_eq (h : Adds as bs) (has : dropCommas as = as) : dropCommas bs = as := by
  induction h with
  | nil => rfl
  | @same as bs c h ih =>
    obtain ⟨hfront, has⟩ := dropCommas_cons_eq has
    have hfront' : ¬ (c = ',' ∧ bs.head? = some ')') := by
      rintro ⟨hc, hbs⟩
      -- the parenthesis at the front of `bs` stands at the front of `as` as well
      cases h with
      | nil => cases hbs
      | same d _ => exact hfront ⟨hc, hbs⟩
      | comma _ => cases hbs
    rw [dropCommas, if_neg hfront', ih has]
  | @comma as bs h ih =>
    obtain ⟨-, has⟩ := dropCommas_cons_eq has
    have hparenthesis : ¬ (')' = ',' ∧ bs.head? = some ')') := fun h => absurd h.1 (by decide)
    rw [dropCommas, if_pos ⟨rfl, rfl⟩, dropCommas, if_neg hparenthesis, ih has]

end Adds

theorem dropCommas_append (as : List Char) (hbs : bs.head? ≠ some ')') :
    dropCommas (as ++ bs) = dropCommas as ++ dropCommas bs := by
  induction as with
  | nil => rfl
  | cons c as ih =>
    have hhead : (as ++ bs).head? = some ')' ↔ as.head? = some ')' := by
      cases as with
      | nil => simpa using hbs
      | cons d as => simp
    simp only [List.cons_append, dropCommas, hhead, ih]
    split <;> rfl

theorem Quiet.dropCommas_append (h : Quiet as) (bs : List Char) : dropCommas (as ++ bs) = as ++ dropCommas bs := by
  induction as with
  | nil => rfl
  | cons c as ih =>
    obtain ⟨hfront, has⟩ := dropCommas_cons_eq h.1
    have hlast : as.getLast? ≠ some ',' := by
      intro hlast
      refine h.2 ?_
      rw [List.getLast?_cons, hlast]
      rfl
    have hfront' : ¬ (c = ',' ∧ (as ++ bs).head? = some ')') := by
      cases as with
      | nil =>
        rintro ⟨rfl, -⟩
        exact h.2 rfl
      | cons d as => exact hfront
    rw [List.cons_append, dropCommas, if_neg hfront', ih ⟨has, hlast⟩, List.cons_append]

theorem Quiet.append (ha : Quiet as) (hb : Quiet bs) : Quiet (as ++ bs) := by
  refine ⟨by rw [ha.dropCommas_append, hb.1], ?_⟩
  rw [List.getLast?_append]
  cases hlast : bs.getLast? with
  | none => simpa using ha.2
  | some c => simpa [hlast] using hb.2

theorem Quiet.nil : Quiet [] := by decide

theorem quiet_of_not_mem (h : ',' ∉ cs) : Quiet cs := by
  induction cs with
  | nil => exact .nil
  | cons c cs ih =>
    rw [List.mem_cons, not_or] at h
    have hc : Quiet [c] := ⟨by simp [dropCommas], by simpa using Ne.symm h.1⟩
    exact hc.append (ih h.2)

end

/-! ### Rows -/

section

variable {ts : List Token}

/-- No token is lost or moved. -/
theorem flatMap_rowsFrom (depth inside : Nat) (line ts : List Token) :
    (rowsFrom depth inside line ts).flatMap Row.tokens = line.reverse ++ ts := by
  fun_induction rowsFrom depth inside line ts <;> simp_all +zetaDelta

theorem inked_spaces (n : Nat) : inked (List.replicate n ' ') = [] :=
  List.filter_eq_nil_iff.2 fun c hc => by
    rw [List.eq_of_mem_replicate hc]
    decide

theorem inked_rowChars (h : ∀ t ∈ ts, t.isSolid) (prev : Option Token) :
    inked (rowChars prev ts) = ts.flatMap Token.chars := by
  induction ts generalizing prev with
  | nil => rfl
  | cons t ts ih =>
    obtain ⟨ht, hts⟩ := List.forall_mem_cons.1 h
    have hgap : inked (if prev.any (spaced · t) then [' '] else []) = [] := by
      split <;> rfl
    rw [rowChars, inked_append, inked_append, hgap, Token.inked_chars ht, ih hts, List.flatMap_cons, List.nil_append]

private theorem of_span_eq {p : Token → Bool} {row front back : List Token} {t : Token}
    (h : row.span p = (front, t :: back)) : row = front ++ t :: back ∧ p t = false := by
  rw [List.span_eq_takeWhile_dropWhile] at h
  obtain ⟨rfl, hback⟩ := Prod.mk.inj h
  refine ⟨by rw [← hback, List.takeWhile_append_dropWhile], ?_⟩
  have hhead := List.head?_dropWhile_not p row
  rw [hback] at hhead
  simpa using hhead

theorem splitParameters_eq {row front parameters back : List Token}
    (h : splitParameters row = some (front, parameters, back)) :
    row = front ++ parameters ++ back ∧ ∃ rest, back = .closing .parenthesis :: rest := by
  unfold splitParameters at h
  split at h
  · cases h
  · next hfront =>
    obtain ⟨rfl, -⟩ := of_span_eq hfront
    split at h
    · cases h
    · next hne hback =>
      cases h
      cases back with
      | nil => exact (hne rfl).elim
      | cons t rest =>
        obtain ⟨rfl, ht⟩ := of_span_eq hback
        have hclosing : t = .closing .parenthesis := by simpa using ht
        exact ⟨by simp, rest, by rw [hclosing]⟩

/-- A row is written as its tokens, with white space and at most one comma. -/
theorem inked_rowLines {r : Row} (h : ∀ t ∈ r.tokens, t.isSolid) :
    Adds (r.tokens.flatMap Token.chars) (inked (rowLines r)) := by
  have hfeed : inked ['\n'] = [] := by decide
  unfold rowLines
  extract_lets plain
  split
  · next front parameters back hsplit =>
    split at hsplit
    · obtain ⟨htokens, rest, rfl⟩ := splitParameters_eq hsplit
      rw [htokens] at h ⊢
      simp only [List.forall_mem_append] at h
      have hcomma : inked [',', '\n'] = [','] := by decide
      simp only [inked_append, spaces, inked_spaces, hfeed, hcomma, inked_rowChars h.1.1, inked_rowChars h.1.2,
        inked_rowChars h.2, List.nil_append, List.append_nil, List.flatMap_append, List.flatMap_cons]
      simp only [List.append_assoc]
      exact (Adds.refl _).append ((Adds.refl _).append (.comma (.refl (rest.flatMap Token.chars))))
    · cases hsplit
  · rw [inked_append, hfeed, List.append_nil]
    show Adds _ (inked (spaces r.depth ++ rowChars none r.tokens))
    rw [inked_append, spaces, inked_spaces, inked_rowChars h]
    exact .refl _

/-- What tokens are written as. -/
def layout (ts : List Token) : List Char := (rowsFrom 0 0 [] ts).flatMap rowLines

/-- The layout adds to tokens white space and commas in front of closing parentheses only. -/
theorem inked_layout (h : ∀ t ∈ ts, t.isSolid) : Adds (ts.flatMap Token.chars) (inked (layout ts)) := by
  have hrows : ∀ rows : List Row, (∀ t ∈ rows.flatMap Row.tokens, t.isSolid) →
      Adds ((rows.flatMap Row.tokens).flatMap Token.chars) (inked (rows.flatMap rowLines)) := by
    intro rows
    induction rows with
    | nil => exact fun _ => .nil
    | cons r rows ih =>
      intro h
      rw [List.flatMap_cons, List.forall_mem_append] at h
      rw [List.flatMap_cons, List.flatMap_cons, List.flatMap_append, inked_append]
      exact (inked_rowLines h.1).append (ih h.2)
  have htokens := flatMap_rowsFrom 0 0 [] ts
  rw [List.reverse_nil, List.nil_append] at htokens
  have hlayout := hrows (rowsFrom 0 0 [] ts) (htokens.symm ▸ h)
  rwa [htokens] at hlayout

/-- There is no comment in a layout. -/
theorem slash_not_mem_layout (h : ∀ t ∈ ts, t.isSolid) : '/' ∉ layout ts := by
  intro hmem
  have hinked : '/' ∈ inked (layout ts) := List.mem_filter.2 ⟨hmem, by decide⟩
  rcases (inked_layout h).mem hinked with hmem | hcomma
  · obtain ⟨t, ht, hchars⟩ := List.mem_flatMap.1 hmem
    exact (Token.of_mem_chars (h t ht) hchars).2 rfl
  · exact absurd hcomma (by decide)

theorem reflow_eq {code : String} (hcode : tokenize code.toList = some ts) :
    reflow code = (checkFile ts).map fun _ => String.ofList (layout ts) := by
  rw [reflow, hcode]
  rfl

end

end TapeLang.Code.Reflow
