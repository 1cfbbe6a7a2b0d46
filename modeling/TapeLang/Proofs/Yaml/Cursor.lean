import Mathlib.Data.List.Basic
import TapeLang.Yaml.Cursor

/-!
# Moving a cursor

Passing the first part of a text leaves the second (`Cursor.skip_append`, `Cursor.skipWhile_append`), and the mark
moves on by the part that has been passed.
-/

namespace TapeLang

namespace Text

@[simp] theorem byteCount_nil : byteCount [] = 0 := rfl

@[simp] theorem byteCount_cons (c : Char) (cs : List Char) : byteCount (c :: cs) = c.utf8Size + byteCount cs := rfl

theorem byteCount_append (as bs : List Char) : byteCount (as ++ bs) = byteCount as + byteCount bs := by
  induction as with
  | nil => simp
  | cons a as ih => rw [List.cons_append, byteCount_cons, byteCount_cons, ih, Nat.add_assoc]

end Text

namespace Yaml

namespace Mark

@[simp] theorem right_nil (m : Mark) : m.right [] = m := rfl

theorem right_append (m : Mark) (as bs : List Char) : m.right (as ++ bs) = (m.right as).right bs := by
  simp [right, Text.byteCount_append, Nat.add_assoc]

@[simp] theorem right_offset (m : Mark) (cs : List Char) : (m.right cs).offset = m.offset + Text.byteCount cs := rfl

@[simp] theorem right_line (m : Mark) (cs : List Char) : (m.right cs).line = m.line := rfl

@[simp] theorem right_column (m : Mark) (cs : List Char) : (m.right cs).column = m.column + cs.length := rfl

@[simp] theorem down_offset (m : Mark) (cs : List Char) : (m.down cs).offset = m.offset + Text.byteCount cs := rfl

@[simp] theorem down_column (m : Mark) (cs : List Char) : (m.down cs).column = 0 := rfl

end Mark

namespace Cursor

theorem skip_append (as bs : List Char) (m : Mark) : (⟨as ++ bs, m⟩ : Cursor).skip as.length = ⟨bs, m.right as⟩ := by
  simp [skip]

theorem skip_cons (c : Char) (cs : List Char) (m : Mark) : (⟨c :: cs, m⟩ : Cursor).skip = ⟨cs, m.right [c]⟩ := rfl

theorem skipWhile_append {p : Char → Bool} {as bs : List Char} (has : ∀ c ∈ as, p c)
    (hbs : ∀ c, bs.head? = some c → p c = false) (m : Mark) :
    (⟨as ++ bs, m⟩ : Cursor).skipWhile p = ⟨bs, m.right as⟩ := by
  have hstop : bs.takeWhile p = [] := by
    cases bs with
    | nil => rfl
    | cons b bs => exact List.takeWhile_cons_of_neg (by simp [hbs b rfl])
  have htake : (as ++ bs).takeWhile p = as := by
    rw [List.takeWhile_append_of_pos has, hstop, List.append_nil]
  show (⟨as ++ bs, m⟩ : Cursor).skip ((as ++ bs).takeWhile p).length = _
  rw [htake, skip_append]

end Cursor

end Yaml

end TapeLang
