import TapeLang.Code.Quote

/-!
# Quoted lines on a page

`Lays` says which lines tokens are written as wherever they begin a line, and `LaysRows` says this of the rows of a
quotation. Rows are written one below the other at their depths (`LaysRows.append`), a row without tokens changes
nothing (`LaysRows.skip`), and a row that is an empty line is one (`LaysRows.blank`).
-/

namespace TapeLang.Code.Quote

/-! ### Pages -/

namespace Page

variable {p : Page} {s : String} {tokens rest : List Token}

/-- Whether the next literal begins a line. -/
def Opens (p : Page) : Prop := ∀ last ∈ p.lines.head?, p.depth ≠ last.depth ∨ p.gap.breaks = true

theorem putAll_append (p : Page) (tokens rest : List Token) :
    p.putAll (tokens ++ rest) = (p.putAll tokens).putAll rest :=
  List.foldl_append

theorem putAll_cons (p : Page) (t : Token) (rest : List Token) : p.putAll (t :: rest) = (p.put t).putAll rest := rfl

@[simp] theorem putAll_nil (p : Page) : p.putAll [] = p := rfl

theorem put_text (hs : s ≠ "") : p.put (.text s) = p.write s := if_neg hs

theorem write_of_opens (h : p.Opens) : p.write s = ⟨⟨p.depth, s⟩ :: p.under, p.depth, .none⟩ := by
  unfold write
  cases hlines : p.lines with
  | nil => rfl
  | cons last rest =>
    have hopens := h last (by rw [hlines]; rfl)
    refine if_neg ?_
    rintro ⟨hdepth, hgap⟩
    rcases hopens with hne | hbreaks
    · exact hne hdepth
    · rw [hbreaks] at hgap
      cases hgap

theorem putAll_indent (p : Page) {n : Nat} (hn : 0 < n) :
    p.putAll (List.replicate n .indent) = ⟨p.lines, p.depth + n, .none⟩ := by
  induction n generalizing p with
  | zero => exact absurd hn (Nat.lt_irrefl 0)
  | succ n ih =>
    rw [List.replicate_succ, putAll_cons]
    cases n with
    | zero => rfl
    | succ n =>
      rw [ih _ (Nat.succ_pos n)]
      simp only [put, Page.mk.injEq, and_true, true_and]
      omega

theorem putAll_unindent (p : Page) {n : Nat} (hn : 0 < n) :
    p.putAll (List.replicate n .unindent) = ⟨p.lines, p.depth - n, .none⟩ := by
  induction n generalizing p with
  | zero => exact absurd hn (Nat.lt_irrefl 0)
  | succ n ih =>
    rw [List.replicate_succ, putAll_cons]
    cases n with
    | zero => rfl
    | succ n =>
      rw [ih _ (Nat.succ_pos n)]
      simp only [put, Page.mk.injEq, and_true, true_and]
      omega

theorem under_eq {l : Line} (h : p.lines.head? = some l) : p.under = p.gap.blanks ++ p.lines := by
  unfold under
  cases hlines : p.lines with
  | nil => rw [hlines] at h; cases h
  | cons l ls => rfl

theorem opens_empty : empty.Opens := fun _ h => nomatch h

end Page

theorem Gap.breaks_join_push (g : Gap) : (g.join .push).breaks = true := by
  cases g <;> rfl

theorem Gap.blanks_join_push (g : Gap) : (g.join .push).blanks = g.blanks := by
  cases g <;> rfl

/-! ### Tokens -/

theorem turn_self (k : Nat) : turn k k = [.push] := by
  rw [turn, if_neg (Nat.lt_irrefl k), if_neg (Nat.lt_irrefl k)]

/-- Wherever `tokens` begin a line at depth `first`, they write `lines`, the last of them at depth `last`, where they
stay, with no empty line pending. -/
structure Lays (first last : Nat) (tokens : List Token) (lines : List Line) : Prop where
  ends : ∃ front text, lines = front ++ [⟨last, text⟩]
  put : ∀ p : Page, p.Opens → p.depth = first →
    ∃ gap, gap ≠ .line ∧ p.putAll tokens = ⟨lines.reverse ++ p.under, last, gap⟩

namespace Lays

variable {first last mid next depth : Nat} {tokens rest : List Token} {lines behind : List Line}

theorem text {s : String} (hs : s ≠ "") (depth : Nat) : Lays depth depth [.text s] [⟨depth, s⟩] where
  ends := ⟨[], s, rfl⟩
  put p hp hdepth := ⟨.none, by decide, by
    rw [Page.putAll_cons, Page.put_text hs, Page.write_of_opens hp, hdepth]
    rfl⟩

/-- An end of a line more is one. -/
theorem push (h : Lays first last tokens lines) : Lays first last (tokens ++ [.push]) lines where
  ends := h.ends
  put p hp hdepth := by
    obtain ⟨gap, hgap, heq⟩ := h.put p hp hdepth
    refine ⟨gap.join .push, ?_, ?_⟩
    · cases gap <;> first | decide | exact absurd rfl hgap
    · rw [Page.putAll_append, heq]
      rfl

theorem push_cons (h : Lays first last tokens lines) : Lays first last (.push :: tokens) lines where
  ends := h.ends
  put p hp hdepth := by
    have hopens : (p.put .push).Opens := fun l hl => .inr p.gap.breaks_join_push
    have hunder : (p.put .push).under = p.under := by
      simp only [Page.under, Page.put, Gap.blanks_join_push]
    obtain ⟨gap, hgap, heq⟩ := h.put (p.put .push) hopens hdepth
    exact ⟨gap, hgap, by rw [Page.putAll_cons, heq, hunder]⟩

/-- Tokens that begin a line behind others, where `turned` stands between them. -/
private theorem append_behind (turned : List Token) (blanks : List Line) (h : Lays first last tokens lines)
    (hrest : Lays mid next rest behind)
    (hturned : ∀ (p : Page) (l : Line), p.lines.head? = some l → l.depth = last → p.depth = last → p.gap ≠ .line →
      (p.putAll turned).Opens ∧ (p.putAll turned).depth = mid ∧ (p.putAll turned).under = blanks.reverse ++ p.lines) :
    Lays first next (tokens ++ (turned ++ rest)) (lines ++ (blanks ++ behind)) where
  ends := by
    obtain ⟨front, text, rfl⟩ := hrest.ends
    exact ⟨lines ++ (blanks ++ front), text, by simp⟩
  put p hp hdepth := by
    obtain ⟨gap, hgap, heq⟩ := h.put p hp hdepth
    obtain ⟨front, text, hlines⟩ := h.ends
    have hhead : (lines.reverse ++ p.under).head? = some ⟨last, text⟩ := by simp [hlines]
    obtain ⟨hopens, hmid, hunder⟩ := hturned ⟨lines.reverse ++ p.under, last, gap⟩ _ hhead rfl rfl hgap
    obtain ⟨gap', hgap', heq'⟩ := hrest.put _ hopens hmid
    refine ⟨gap', hgap', ?_⟩
    rw [Page.putAll_append, Page.putAll_append, heq, heq', hunder]
    simp

/-- Lines behind others, perhaps at another depth. -/
theorem append {a b : Nat} (h : Lays first (depth + a) tokens lines) (hrest : Lays (depth + b) next rest behind) :
    Lays first next (tokens ++ (turn a b ++ rest)) (lines ++ behind) := by
  refine h.append_behind (turn a b) [] hrest fun p l hhead hl hdepth hgap => ?_
  -- a change of depth opens a line by itself
  have hturned : ∀ n, n ≠ depth + a →
      Page.Opens ⟨p.lines, n, .none⟩ ∧ (⟨p.lines, n, .none⟩ : Page).under = p.lines := by
    refine fun n hn => ⟨fun l' hl' => .inl ?_, Page.under_eq hhead⟩
    obtain rfl := Option.some.inj (hhead.symm.trans hl')
    show n ≠ l.depth
    rwa [hl]
  rcases Nat.lt_trichotomy a b with hab | rfl | hab
  · obtain ⟨hopens, hunder⟩ := hturned (p.depth + (b - a)) (by omega)
    rw [turn, if_pos hab, Page.putAll_indent p (by omega)]
    exact ⟨hopens, show p.depth + (b - a) = depth + b by omega, hunder⟩
  · have hblanks : (p.gap.join .push).blanks = [] := by
      rw [Gap.blanks_join_push]
      cases hcase : p.gap <;> first | rfl | exact absurd hcase hgap
    rw [turn_self]
    have hunder : (p.put .push).under = (p.gap.join .push).blanks ++ p.lines := Page.under_eq hhead
    rw [hblanks, List.nil_append] at hunder
    exact ⟨fun _ _ => .inr p.gap.breaks_join_push, hdepth, hunder⟩
  · obtain ⟨hopens, hunder⟩ := hturned (p.depth - (a - b)) (by omega)
    rw [turn, if_neg (by omega), if_pos hab, Page.putAll_unindent p (by omega)]
    exact ⟨hopens, show p.depth - (a - b) = depth + b by omega, hunder⟩

/-- Lines behind others at one depth. -/
theorem below (h : Lays first last tokens lines) (hrest : Lays last next rest behind) :
    Lays first next (tokens ++ .push :: rest) (lines ++ behind) := by
  have hturn : Lays first next (tokens ++ (turn 0 0 ++ rest)) (lines ++ behind) := append (a := 0) (b := 0) h hrest
  rwa [turn_self] at hturn

/-- Lines behind others with an empty line between them. -/
theorem line (h : Lays first last tokens lines) (hrest : Lays last next rest behind) :
    Lays first next (tokens ++ .line :: rest) (lines ++ .blank :: behind) := by
  refine h.append_behind [.line] [.blank] hrest fun p l hhead _ hdepth _ => ?_
  have hjoin : p.gap.join .line = .line := by cases p.gap <;> rfl
  have hbreaks : (p.gap.join .line).breaks = true := by rw [hjoin]; rfl
  have hunder : (p.put .line).under = (p.gap.join .line).blanks ++ p.lines := Page.under_eq hhead
  rw [hjoin] at hunder
  exact ⟨fun _ _ => .inr hbreaks, hdepth, hunder⟩

/-- A literal that follows nothing but changes of depth that undo each other stays on the line. -/
theorem hollow {front : List Line} {text back : String} (h : Lays first depth tokens (front ++ [⟨depth, text⟩]))
    (hback : back ≠ "") :
    Lays first depth (tokens ++ [.indent, .unindent, .text back]) (front ++ [⟨depth, text ++ back⟩]) where
  ends := ⟨front, _, rfl⟩
  put p hp hdepth := by
    obtain ⟨gap, hgap, heq⟩ := h.put p hp hdepth
    refine ⟨.none, by decide, ?_⟩
    rw [Page.putAll_append, heq]
    simp [Page.putAll, Page.put, Page.write, hback, Gap.breaks, Gap.between]

/-- The lines of a file. -/
theorem layout_eq (h : Lays 0 last tokens lines) : layout tokens = lines := by
  obtain ⟨gap, -, heq⟩ := h.put .empty Page.opens_empty rfl
  rw [layout, heq]
  simp [Page.under, Page.empty]

end Lays

/-! ### Rows -/

/-- The first row is at depth `k`. -/
def Begins (rows : List Row) (k : Nat) : Prop := ∃ r rest, rows = r :: rest ∧ r.depth = k

/-- The last row is at depth `k`. -/
def Stops (rows : List Row) (k : Nat) : Prop := ∃ front r, rows = front ++ [r] ∧ r.depth = k

theorem Begins.append {rows : List Row} {k : Nat} (h : Begins rows k) (rest : List Row) : Begins (rows ++ rest) k := by
  obtain ⟨r, as, rfl, hr⟩ := h
  exact ⟨r, as ++ rest, rfl, hr⟩

theorem Stops.append {rows : List Row} {k : Nat} (h : Stops rows k) (front : List Row) : Stops (front ++ rows) k := by
  obtain ⟨as, r, rfl, hr⟩ := h
  exact ⟨front ++ as, r, by rw [List.append_assoc], hr⟩

/-- What stands between two parts of a quotation is what stands between the rows that meet there. -/
theorem quote_append {as bs : List Row} {a b : Nat} (ha : Stops as a) (hb : Begins bs b) :
    quote (as ++ bs) = quote as ++ (turn a b ++ quote bs) := by
  obtain ⟨front, r, rfl, rfl⟩ := ha
  obtain ⟨s, rest, rfl, rfl⟩ := hb
  induction front with
  | nil => rfl
  | cons q front ih =>
    cases front with
    | nil => simp [quote]
    | cons q' front =>
      simp only [List.cons_append, List.append_assoc, quote] at ih ⊢
      rw [ih]

/-- Rows of a quotation that begin at depth `first` and stop at depth `last` in it, and the lines that they are written
as where the quotation stands at `depth`. -/
structure LaysRows (depth first last : Nat) (rows : List Row) (lines : List Line) : Prop where
  begins : Begins rows first
  stops : Stops rows last
  lays : Lays (depth + first) (depth + last) (quote rows) lines

namespace LaysRows

variable {depth first last mid next : Nat} {rows rest : List Row} {lines behind : List Line} {tokens : List Token}

theorem single {k : Nat} (h : Lays (depth + k) (depth + k) tokens lines) : LaysRows depth k k [⟨k, tokens⟩] lines :=
  ⟨⟨_, _, rfl, rfl⟩, ⟨[], _, rfl, rfl⟩, h⟩

/-- Rows are written one below the other. -/
theorem append (h : LaysRows depth first last rows lines) (hrest : LaysRows depth mid next rest behind) :
    LaysRows depth first next (rows ++ rest) (lines ++ behind) where
  begins := h.begins.append rest
  stops := hrest.stops.append rows
  lays := by
    rw [quote_append h.stops hrest.begins]
    exact h.lays.append hrest.lays

/-- A row at the depth of the row before it, by what is written up to it. -/
theorem concat (h : LaysRows depth first last rows lines)
    (htokens : Lays (depth + first) (depth + last) (quote rows ++ .push :: tokens) behind) :
    LaysRows depth first last (rows ++ [⟨last, tokens⟩]) behind where
  begins := h.begins.append _
  stops := ⟨rows, _, rfl, rfl⟩
  lays := by
    rw [quote_append h.stops ⟨_, _, rfl, rfl⟩, turn_self]
    exact htokens

/-- An empty line between rows at one depth. -/
theorem blank (h : LaysRows depth first mid rows lines) (hrest : LaysRows depth mid next rest behind) :
    LaysRows depth first next (rows ++ ⟨mid, [.line]⟩ :: rest) (lines ++ .blank :: behind) where
  begins := h.begins.append _
  stops := (hrest.stops.append [_]).append rows
  lays := by
    have hstops : Stops [⟨mid, [.line]⟩] mid := ⟨[], _, rfl, rfl⟩
    have hquote : quote (⟨mid, [.line]⟩ :: rest) = [.line] ++ (turn mid mid ++ quote rest) :=
      quote_append hstops hrest.begins
    rw [quote_append h.stops ⟨_, _, rfl, rfl⟩, hquote, turn_self, ← List.append_assoc]
    exact h.lays.push.line hrest.lays.push_cons

/-- Literals are written at their depths. -/
theorem literals {ls : List Line} (hnonempty : ∀ l ∈ ls, l.text ≠ "") (hfirst : ls.head?.map Line.depth = some first)
    (hlast : ls.getLast?.map Line.depth = some last) :
    LaysRows depth first last (literals ls) (ls.map (·.inward depth)) := by
  have hone : ∀ l : Line, l.text ≠ "" → LaysRows depth l.depth l.depth (Quote.literals [l]) [l.inward depth] := by
    intro l hl
    have hlays := single (Lays.text hl (depth + l.depth))
    rwa [Nat.add_comm depth] at hlays
  induction ls generalizing first with
  | nil => cases hfirst
  | cons l ls ih =>
    obtain rfl : l.depth = first := Option.some.inj hfirst
    have hl := hone l (hnonempty l (List.mem_cons_self ..))
    cases ls with
    | nil =>
      obtain rfl : l.depth = last := Option.some.inj hlast
      exact hl
    | cons m ls => exact hl.append (ih (fun l hl => hnonempty l (List.mem_cons_of_mem _ hl)) rfl hlast)

end LaysRows

end TapeLang.Code.Quote
