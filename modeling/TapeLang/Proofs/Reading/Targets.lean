import TapeLang.Code.Vocabulary
import TapeLang.Target
import TapeLang.Proofs.Reading.Legend
import TapeLang.Proofs.Ring

/-!
# Reading the six targets

The legend of each target says what its lines stand for. Each legend knows the layout that the target's dialect has
(`knows_lexemeLayout`), and the lines of all dialects are legible (`legible_forest`), so a body is read back from
its lines.
-/

namespace TapeLang

/-- A move by the forward distance that it amounts to on a tape asked for with `size` cells. -/
def Statement.stepped (size : Nat) : Statement → Statement
  | .move d => .move (.ofNat (pointerStep d.toInt size))
  | s => s

namespace Reading

open Code

/-- A line that stands for a statement. -/
def word (text : String) (s : Statement) : List Lexeme × List (Token Block) := ([.line text], [.item (.plain s)])

/-- Lines that together stand for a statement. -/
def phrase (texts : List String) (s : Statement) : List Lexeme × List (Token Block) :=
  (texts.map .line, [.item (.plain s)])

/-- The move by a step that is a signed 64-bit number. -/
def moveBlock? (n : Nat) : Option Block := if n < 2 ^ 63 then some (.plain (.move (.ofNat n))) else none

/-- What the lines of each target stand for. -/
def legend : Target → Legend Block
  | .rust => ⟨"ptr = (ptr + ", ") % TAPE_SIZE;", moveBlock?, [
      word "tape[ptr] = tape[ptr].wrapping_add(1);" .increment,
      word "tape[ptr] = tape[ptr].wrapping_sub(1);" .decrement,
      word "output.push(char::from(tape[ptr]));" .write,
      phrase ["tape[ptr] = input.get(input_pos).copied().unwrap_or(0);", "input_pos += 1;"] .read,
      ([.line "while tape[ptr] != 0 \x7b"], [.enter]),
      ([.line "\x7d"], [.leave])]⟩
  | .csharp => ⟨"ptr = (ptr + ", ") % TapeSize;", moveBlock?, [
      word "tape[ptr]++;" .increment,
      word "tape[ptr]--;" .decrement,
      word "output.Append((char)tape[ptr]);" .write,
      phrase ["tape[ptr] = inputPos < input.Length ? (byte)input[inputPos] : (byte)0;", "inputPos++;"] .read,
      ([.line "while (tape[ptr] != 0)", .line "\x7b"], [.enter]),
      ([.line "\x7d"], [.leave]),
      ([.line "while (tape[ptr] != 0)", .line "\x7b\x7d"], [.enter, .leave])]⟩
  | .python => ⟨"ptr = (ptr + ", ") % TAPE_SIZE", moveBlock?, [
      word "tape[ptr] = (tape[ptr] + 1) % 256" .increment,
      word "tape[ptr] = (tape[ptr] - 1) % 256" .decrement,
      word "output.append(chr(tape[ptr]))" .write,
      phrase ["tape[ptr] = ord(input[input_pos]) % 256 if input_pos < len(input) else 0", "input_pos += 1"] .read,
      ([.line "while tape[ptr] != 0:", .indent], [.enter]),
      ([.dedent], [.leave]),
      ([.line "pass"], [.idle])]⟩
  | .typescript => ⟨"ptr = (ptr + ", ") % TAPE_SIZE;", moveBlock?, [
      word "tape[ptr]++;" .increment,
      word "tape[ptr]--;" .decrement,
      word "output += String.fromCharCode(tape[ptr]);" .write,
      phrase ["tape[ptr] = inputPos < input.length ? input.charCodeAt(inputPos) & 0xff : 0;", "inputPos++;"] .read,
      ([.line "while (tape[ptr] !== 0) \x7b"], [.enter]),
      ([.line "\x7d"], [.leave])]⟩
  | .go => ⟨"ptr = (ptr + ", ") % TapeSize", moveBlock?, [
      word "tape[ptr]++" .increment,
      word "tape[ptr]--" .decrement,
      word "output.WriteRune(rune(tape[ptr]))" .write,
      phrase ["if inputPos < len(input) \x7b", "tape[ptr] = input[inputPos]", "\x7d else \x7b", "tape[ptr] = 0",
        "\x7d", "inputPos++"] .read,
      ([.line "for tape[ptr] != 0 \x7b"], [.enter]),
      ([.line "\x7d"], [.leave]),
      ([.line "for tape[ptr] != 0 \x7b\x7d"], [.enter, .leave])]⟩
  | .java => ⟨"ptr = (ptr + ", ") % TAPE_SIZE;", moveBlock?, [
      word "tape[ptr] = (tape[ptr] + 1) & 0xFF;" .increment,
      word "tape[ptr] = (tape[ptr] - 1) & 0xFF;" .decrement,
      word "output.append((char) tape[ptr]);" .write,
      phrase ["tape[ptr] = inputPos < input.length() ? input.charAt(inputPos) & 0xFF : 0;", "inputPos++;"] .read,
      ([.line "while (tape[ptr] != 0) \x7b"], [.enter]),
      ([.line "\x7d"], [.leave]),
      ([.line "while (tape[ptr] != 0) \x7b\x7d"], [.enter, .leave])]⟩

/-- The items of a statement. -/
def steppedLeaf (size : Nat) (s : Statement) : List Block := [.plain (s.stepped size)]

private theorem mem_all (t : Target) : t ∈ Target.all := by
  cases t <;> decide

theorem clear_legend (t : Target) : (legend t).Clear := by
  have hback : ∀ t ∈ Target.all, (legend t).back.toList.head?.any (·.isDigit) = false := by decide +kernel
  have hnonempty : ∀ t ∈ Target.all, ∀ g ∈ (legend t).groups, g.1 ≠ [] := by decide +kernel
  have hsteps : ∀ t ∈ Target.all, ∀ g ∈ (legend t).groups, g.1.head?.bind (legend t).step? = none := by
    decide +kernel
  have hapart : ∀ t ∈ Target.all, (legend t).groups.Pairwise fun g h => ¬ g.1 <+: h.1 ∧ ¬ h.1 <+: g.1 := by
    decide +kernel
  exact ⟨hback t (mem_all t), hnonempty t (mem_all t), hsteps t (mem_all t), hapart t (mem_all t)⟩

/-! ### The layouts of the targets -/

def dialect : Target → Dialect
  | .rust => rustDialect
  | .csharp => csharpDialect
  | .python => pythonDialect
  | .typescript => typescriptDialect
  | .go => goDialect
  | .java => javaDialect

/-- The lines in which a target lays out blocks. -/
def lineLayout (t : Target) (size : Nat) : Layout Line :=
  match t with
  | .rust => flatLayout rustDialect size
  | .csharp => nestedLayout csharpDialect size
  | .python => flatLayout pythonDialect size
  | .typescript => flatLayout typescriptDialect size
  | .go => nestedLayout goDialect size
  | .java => nestedLayout javaDialect size

/-- What a reader makes of these lines. -/
def lexemeLayout (t : Target) (size : Nat) : Layout Lexeme :=
  match t with
  | .python => offsideLayout pythonDialect size
  | t => bracedLayout (lineLayout t size)

theorem lexemeLayout_plain (t : Target) (size depth : Nat) (s : Statement) :
    (lexemeLayout t size).plain depth s = ((dialect t).statement size s).map fun l => .line l.text := by
  cases t with
  | python => rfl
  | _ =>
    simp only [lexemeLayout, bracedLayout, Layout.map, lineLayout, flatLayout, nestedLayout, linesOf, dialect,
      List.map_map]
    rfl

private theorem knows_statement (t : Target) (size : Nat) {s : Statement} (hs : s.isBracket = false) :
    (legend t).Spells (((dialect t).statement size s).map fun l => .line l.text)
      ((steppedLeaf size s).map .item) := by
  have hgroup := (clear_legend t).spells_at
  cases s with
  | increment => cases t <;> exact hgroup 0 _ rfl
  | decrement => cases t <;> exact hgroup 1 _ rfl
  | move d =>
    have hstep : moveBlock? (pointerStep d.toInt size) = some (.plain (Statement.stepped size (.move d))) :=
      if_pos (pointerStep_lt_bound d size)
    cases t <;> exact (clear_legend _).spells_move hstep
  | write => cases t <;> exact hgroup 2 _ rfl
  | read => cases t <;> exact hgroup 3 _ rfl
  | loopOpen => nomatch hs
  | loopClose => nomatch hs

/-- The legend of a target knows its layout. -/
theorem knows_lexemeLayout (t : Target) (size : Nat) :
    (legend t).Knows (steppedLeaf size) (lexemeLayout t size) := by
  have hgroup := (clear_legend t).spells_at
  have henter : ∀ depth, (legend t).Spells ((lexemeLayout t size).enter depth) [.enter] := fun depth => by
    cases t <;> exact hgroup 4 _ rfl
  have hleave : ∀ depth, (legend t).Spells ((lexemeLayout t size).leave depth) [.leave] := fun depth => by
    cases t <;> exact hgroup 5 _ rfl
  refine ⟨fun depth s hs => ?_, henter, hleave, fun depth => ?_⟩
  · rw [lexemeLayout_plain]
    exact knows_statement t size hs
  · cases t with
    | rust => exact .inl ((henter depth).append (hleave depth))
    | typescript => exact .inl ((henter depth).append (hleave depth))
    | python => exact .inr (((henter depth).append (hgroup 6 _ rfl)).append (hleave depth))
    | csharp => exact .inl (hgroup 6 _ rfl)
    | go => exact .inl (hgroup 6 _ rfl)
    | java => exact .inl (hgroup 6 _ rfl)

/-! ### Legible lines -/

private theorem legible_numeral {front back : String} (hfront : Legible front) (hback : '\n' ∉ back.toList)
    (n : Nat) : Legible (front ++ toString n ++ back) := by
  obtain ⟨hnonempty, hhead, hfeed⟩ := hfront
  have hchars : (front ++ toString n ++ back).toList = front.toList ++ (Nat.toDigits 10 n ++ back.toList) := by
    simp [toString, Nat.repr]
  obtain ⟨c, cs, hc⟩ := List.exists_cons_of_ne_nil (by simpa using hnonempty : front.toList ≠ [])
  refine ⟨fun h => ?_, ?_, ?_⟩
  · rw [h, hc] at hchars
    cases hchars
  · rw [hchars, hc]
    rwa [hc] at hhead
  · rw [hchars, List.mem_append, List.mem_append]
    rintro (h | h | h)
    · exact hfeed h
    · exact absurd (Nat.isDigit_of_mem_toDigits (by decide) (by decide) h) (by decide)
    · exact hback h

private theorem legible_statement (t : Target) (size : Nat) {s : Statement} (hs : s.isBracket = false) :
    ∀ l ∈ (dialect t).statement size s, Legible l.text := by
  have hall : ∀ t ∈ Target.all,
      ∀ l ∈ (dialect t).increment ++ (dialect t).decrement ++ (dialect t).write ++ (dialect t).read,
        Legible l.text := by
    decide +kernel
  have hfixed := hall t (mem_all t)
  simp only [List.mem_append] at hfixed
  intro l hl
  cases s with
  | increment => exact hfixed l (.inl (.inl (.inl hl)))
  | decrement => exact hfixed l (.inl (.inl (.inr hl)))
  | move d =>
    have hmove : Legible ((legend t).front ++ toString (pointerStep d.toInt size) ++ (legend t).back) := by
      cases t <;> exact legible_numeral (by decide) (by decide) _
    obtain rfl : l = ⟨0, (legend t).front ++ toString (pointerStep d.toInt size) ++ (legend t).back⟩ := by
      cases t <;> exact List.mem_singleton.1 hl
    exact hmove
  | write => exact hfixed l (.inl (.inr hl))
  | read => exact hfixed l (.inr hl)
  | loopOpen => nomatch hs
  | loopClose => nomatch hs

private theorem legible_linesAt {texts : List String} (h : ∀ text ∈ texts, Legible text) (depth : Nat) :
    ∀ l ∈ linesAt depth texts, Legible l.text := by
  intro l hl
  obtain ⟨text, htext, rfl⟩ := List.mem_map.1 hl
  exact h text htext

/-- Every line of a layout is legible. -/
theorem legible_forest (t : Target) (size depth : Nat) {bs : List Block} (h : Leaves (·.isBracket = false) bs) :
    ∀ l ∈ (lineLayout t size).forest depth bs, Legible l.text := by
  have hall : ∀ t ∈ Target.all,
      ∀ texts ∈ [(dialect t).enter, (dialect t).leave, (dialect t).idle, spin (dialect t)],
        ∀ text ∈ texts, Legible text := by
    decide +kernel
  have hwords := hall t (mem_all t)
  simp only [List.forall_mem_cons, List.not_mem_nil, false_implies, implies_true, and_true] at hwords
  obtain ⟨henter, hleave, hidle, hspin⟩ := hwords
  have hplain : ∀ depth s, s.isBracket = false →
      ∀ l ∈ ((dialect t).statement size s).map (·.inward depth), Legible l.text := by
    intro depth s hs l hl
    obtain ⟨l', hl', rfl⟩ := List.mem_map.1 hl
    exact legible_statement t size hs l' hl'
  have hhollow : ∀ depth, ∀ l ∈ linesAt depth (dialect t).enter ++ linesAt (depth + 1) (dialect t).idle ++
      linesAt depth (dialect t).leave, Legible l.text := by
    intro depth l hl
    rw [List.mem_append, List.mem_append] at hl
    rcases hl with (hl | hl) | hl
    · exact legible_linesAt henter _ l hl
    · exact legible_linesAt hidle _ l hl
    · exact legible_linesAt hleave _ l hl
  have hflat : ∀ l ∈ (flatLayout (dialect t) size).forest depth bs, Legible l.text :=
    Layout.forall_mem_forest hplain (legible_linesAt henter) (legible_linesAt hleave) hhollow h
  have hnested : ∀ l ∈ (nestedLayout (dialect t) size).forest depth bs, Legible l.text :=
    Layout.forall_mem_forest hplain (legible_linesAt henter) (legible_linesAt hleave) (legible_linesAt hspin) h
  cases t with
  | rust => exact hflat
  | csharp => exact hnested
  | python => exact hflat
  | typescript => exact hflat
  | go => exact hnested
  | java => exact hnested

end Reading

end TapeLang
