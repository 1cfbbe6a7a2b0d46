import TapeLang.Symbol

/-!
# Places of symbols

A symbol that `lexFrom` keeps stands in the text at its own offset (`getElem?_of_mem_lexFrom`), and the offsets
increase from symbol to symbol (`lexFrom_pairwise`), so that a place belongs to one symbol only.
-/

namespace TapeLang

theorem Symbol.ofChar?_eq_some {c : Char} {s : Symbol} : ofChar? c = some s ↔ c = s.toChar := by
  constructor
  · intro h
    unfold ofChar? at h
    split at h <;> simp_all [toChar] <;> subst_vars <;> rfl
  · rintro rfl
    exact ofChar?_toChar s

@[simp] theorem Position.offset_after (p : Position) (c : Char) : (p.after c).offset = p.offset + 1 := by
  unfold Position.after
  split <;> rfl

theorem offset_le_of_mem_lexFrom {p : Position} {cs : List Char} {o : Occurrence} (h : o ∈ lexFrom p cs) :
    p.offset ≤ o.position.offset := by
  induction cs generalizing p with
  | nil => simp [lexFrom] at h
  | cons c cs ih =>
    have hrest : o ∈ lexFrom (p.after c) cs → p.offset ≤ o.position.offset := by
      intro h
      have := ih h
      rw [Position.offset_after] at this
      omega
    unfold lexFrom at h
    split at h
    · rcases List.mem_cons.1 h with rfl | h
      · exact Nat.le_refl _
      · exact hrest h
    · exact hrest h

/-- A symbol stands in the text at its offset. -/
theorem getElem?_of_mem_lexFrom {p : Position} {cs : List Char} {o : Occurrence} (h : o ∈ lexFrom p cs) :
    cs[o.position.offset - p.offset]? = some o.symbol.toChar := by
  induction cs generalizing p with
  | nil => simp [lexFrom] at h
  | cons c cs ih =>
    have hrest : o ∈ lexFrom (p.after c) cs → (c :: cs)[o.position.offset - p.offset]? = some o.symbol.toChar := by
      intro h
      have hle := offset_le_of_mem_lexFrom h
      rw [Position.offset_after] at hle
      have hi : o.position.offset - p.offset = o.position.offset - (p.after c).offset + 1 := by
        rw [Position.offset_after]
        omega
      rw [hi, List.getElem?_cons_succ, ih h]
    unfold lexFrom at h
    split at h
    · next s hs =>
      rcases List.mem_cons.1 h with rfl | h
      · simp [Symbol.ofChar?_eq_some.1 hs]
      · exact hrest h
    · exact hrest h

/-- Offsets increase from symbol to symbol. -/
theorem lexFrom_pairwise (p : Position) (cs : List Char) :
    (lexFrom p cs).Pairwise fun a b => a.position.offset < b.position.offset := by
  induction cs generalizing p with
  | nil => simp [lexFrom]
  | cons c cs ih =>
    unfold lexFrom
    split
    · rw [List.pairwise_cons]
      refine ⟨fun b hb => ?_, ih _⟩
      have := offset_le_of_mem_lexFrom hb
      rw [Position.offset_after] at this
      exact this
    · exact ih _

/-- A place belongs to one symbol of a text. -/
theorem lex_position_inj {text : String} {i j : Nat} {a b : Occurrence} (ha : (lex text)[i]? = some a)
    (hb : (lex text)[j]? = some b) (h : a.position = b.position) : i = j := by
  obtain ⟨hi, rfl⟩ := List.getElem?_eq_some_iff.1 ha
  obtain ⟨hj, rfl⟩ := List.getElem?_eq_some_iff.1 hb
  have hlt := List.pairwise_iff_getElem.1 (lexFrom_pairwise .start text.toList)
  rcases Nat.lt_trichotomy i j with hij | hij | hij
  · have := hlt i j hi hj hij
    exact absurd (congrArg Position.offset h) (Nat.ne_of_lt this)
  · exact hij
  · have := hlt j i hj hi hij
    exact absurd (congrArg Position.offset h) (Nat.ne_of_gt this)

end TapeLang
