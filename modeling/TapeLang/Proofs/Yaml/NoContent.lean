import Mathlib.Data.List.TakeWhile
import TapeLang.Proofs.Yaml.Cursor
import TapeLang.Settings.Reading

/-!
# Documents without content

A text is hollow if each of its lines holds, behind spaces, nothing or a comment. The gap before the first token of
such a text reaches to its end (`Reading.skipGap_of_hollow`), so the parser presents it as an empty document, unless it
holds a character that no document may hold (`Document.ofText_eq_empty_iff`).
-/

namespace TapeLang

namespace Yaml

/-- Whether a line holds nothing but spaces and a comment. -/
def isHollowLine (line : List Char) : Bool :=
  (line.dropWhile (· = ' ')).head?.all (· = '#')

/-- Every line holds nothing but spaces and a comment. -/
def Hollow (cs : List Char) : Prop :=
  ∀ line ∈ cs.splitOnP isBreak, isHollowLine line

/-! ### The first line -/

theorem Hollow.of_line {line rest : List Char} {b : Char} (hb : isBreak b) (hline : ∀ c ∈ line, isBreak c = false)
    (h : Hollow (line ++ b :: rest)) : isHollowLine line ∧ Hollow rest := by
  have hsplit := List.splitOnP_append_cons_of_forall_mem hline b hb rest
  constructor
  · exact h line (by simp [hsplit])
  · intro l hl
    exact h l (by simp [hsplit, hl])

/-- A hollow line has spaces and then nothing or a comment. -/
theorem split_of_isHollowLine {line : List Char} (h : isHollowLine line) :
    ∃ spaces comment, line = spaces ++ comment ∧ (∀ c ∈ spaces, c = ' ') ∧ ∀ c, comment.head? = some c → c = '#' := by
  refine ⟨line.takeWhile (· = ' '), line.dropWhile (· = ' '), List.takeWhile_append_dropWhile.symm, ?_, ?_⟩
  · intro c hc
    simpa using List.mem_takeWhile_imp hc
  · intro c hc
    rw [isHollowLine, hc] at h
    simpa using h

/-- The first line of a hollow text in its parts, and what is behind it. -/
theorem Hollow.split {cs : List Char} (h : Hollow cs) :
    ∃ spaces comment tail, cs = spaces ++ (comment ++ tail) ∧ (∀ c ∈ spaces, c = ' ') ∧
      (∀ c, comment.head? = some c → c = '#') ∧ (∀ c ∈ comment, isBreak c = false) ∧
      (tail = [] ∨ ∃ b rest, tail = b :: rest ∧ isBreak b ∧ Hollow rest) := by
  have hcs : cs = cs.takeWhile (!isBreak ·) ++ cs.dropWhile (!isBreak ·) := List.takeWhile_append_dropWhile.symm
  have hline : ∀ c ∈ cs.takeWhile (!isBreak ·), isBreak c = false := by
    intro c hc
    simpa using List.mem_takeWhile_imp hc
  have hhead := List.head?_dropWhile_not (!isBreak ·) cs
  have hparts : isHollowLine (cs.takeWhile (!isBreak ·)) ∧ (cs.dropWhile (!isBreak ·) = [] ∨
      ∃ b rest, cs.dropWhile (!isBreak ·) = b :: rest ∧ isBreak b ∧ Hollow rest) := by
    cases htail : cs.dropWhile (!isBreak ·) with
    | nil =>
      rw [htail, List.append_nil] at hcs
      refine ⟨?_, .inl rfl⟩
      rw [← hcs]
      exact h cs (by rw [List.splitOnP_eq_singleton (by rwa [← hcs] at hline)]; simp)
    | cons b rest =>
      rw [htail] at hcs hhead
      have hb : isBreak b := by simpa using hhead
      rw [hcs] at h
      obtain ⟨hfirst, hrest⟩ := h.of_line hb hline
      exact ⟨hfirst, .inr ⟨b, rest, rfl, hb, hrest⟩⟩
  obtain ⟨spaces, comment, hsplit, hspaces, hcomment⟩ := split_of_isHollowLine hparts.1
  refine ⟨spaces, comment, cs.dropWhile (!isBreak ·), ?_, hspaces, hcomment, ?_, hparts.2⟩
  · rw [← List.append_assoc, ← hsplit]
    exact hcs
  · intro c hc
    exact hline c (by simp [hsplit, hc])

/-- What a line end passes. -/
theorem Cursor.skipBreak_cons {b : Char} {rest : List Char} (hb : isBreak b) (h : Hollow rest) (m : Mark) :
    ∃ passed left, b :: rest = passed ++ left ∧ (⟨b :: rest, m⟩ : Cursor).skipBreak = ⟨left, m.down passed⟩ ∧
      left.length ≤ rest.length ∧ Hollow left := by
  by_cases hpair : b = '\r' ∧ ∃ left, rest = '\n' :: left
  · obtain ⟨rfl, left, rfl⟩ := hpair
    refine ⟨['\r', '\n'], left, rfl, rfl, by simp, ?_⟩
    have hhead : Hollow ([] ++ '\n' :: left) := h
    exact (hhead.of_line (by decide) (by simp)).2
  · refine ⟨[b], rest, rfl, ?_, le_refl _, h⟩
    unfold skipBreak
    split
    · rename_i left heq
      injection heq with heq hrest
      exact absurd ⟨heq, _, hrest⟩ hpair
    · rename_i heq
      injection heq with heq hrest
      subst heq hrest
      exact if_pos hb
    · rename_i heq
      cases heq

/-! ### The gap before the first token -/

namespace Reading

/-- A gap passes spaces first. -/
theorem skipGap_spaces {r : Reading} {spaces rest : List Char} {m : Mark} (hr : r.cursor = ⟨spaces ++ rest, m⟩)
    (hspaces : ∀ c ∈ spaces, c = ' ') (hrest : ∀ c ∈ rest.head?, isBlank c = false)
    (hmark : (spaces ++ rest).head? ≠ some '\ufeff') (n : Nat) :
    skipGap (n + 1) r =
      let c : Cursor := ⟨rest, m.right spaces⟩
      let c := if c.at? '#' then c.skipWhile (!isBreak ·) else c
      if c.rest.head?.any isBreak then
        skipGap n { r with cursor := c.skipBreak, keyAllowed := r.keyAllowed || !r.inFlow }
      else { r with cursor := c } := by
  have hstart : (if m.column = 0 && (⟨spaces ++ rest, m⟩ : Cursor).at? '\ufeff' then
      (⟨spaces ++ rest, m⟩ : Cursor).skip else ⟨spaces ++ rest, m⟩) = ⟨spaces ++ rest, m⟩ := by
    have hat : (⟨spaces ++ rest, m⟩ : Cursor).at? '\ufeff' = false := by
      simpa only [Cursor.at?, decide_eq_false_iff_not] using hmark
    rw [hat, Bool.and_false, if_neg Bool.false_ne_true]
  have hblanks : (⟨spaces ++ rest, m⟩ : Cursor).skipWhile
      (fun ch => ch = ' ' || (ch = '\t' && (r.inFlow || !r.keyAllowed))) = ⟨rest, m.right spaces⟩ := by
    refine Cursor.skipWhile_append (by simpa using fun c hc => Or.inl (hspaces c hc)) ?_ m
    intro c hc
    have hblank := hrest c hc
    simp only [isBlank, Bool.or_eq_false_iff, decide_eq_false_iff_not] at hblank
    simp [hblank]
  rw [skipGap]
  simp only [hr, hstart, hblanks]

private theorem head?_ne_mark {spaces comment tail : List Char} (hspaces : ∀ c ∈ spaces, c = ' ')
    (hcomment : ∀ c, comment.head? = some c → c = '#') (htail : ∀ c, tail.head? = some c → isBreak c) :
    (spaces ++ (comment ++ tail)).head? ≠ some '\ufeff' := by
  intro h
  cases spaces with
  | cons s spaces => exact absurd ((Option.some.inj h).symm.trans (hspaces s (by simp))) (by decide)
  | nil =>
    cases comment with
    | cons c comment => exact absurd (hcomment _ h) (by decide)
    | nil => exact absurd (htail _ h) (by decide)

theorem isBlank_of_isBreak {c : Char} (h : isBreak c) : isBlank c = false := by
  by_contra hblank
  simp only [isBlank, Bool.not_eq_false, Bool.or_eq_true, decide_eq_true_eq] at hblank
  rcases hblank with rfl | rfl <;> exact absurd h (by decide)

/-- The gap where a key may begin reaches over the first line of a hollow text. -/
theorem skipGap_line {spaces comment tail : List Char} (hspaces : ∀ c ∈ spaces, c = ' ')
    (hcomment : ∀ c, comment.head? = some c → c = '#') (hbreak : ∀ c ∈ comment, isBreak c = false)
    (htail : ∀ c, tail.head? = some c → isBreak c) {r : Reading} {m : Mark}
    (hr : r.cursor = ⟨spaces ++ (comment ++ tail), m⟩) (hflow : r.inFlow = false) (hkey : r.keyAllowed) (n : Nat) :
    skipGap (n + 1) r =
      let behind : Cursor := ⟨tail, m.right (spaces ++ comment)⟩
      if tail = [] then { r with cursor := behind } else skipGap n { r with cursor := behind.skipBreak } := by
  have hnonblank : ∀ c ∈ (comment ++ tail).head?, isBlank c = false := by
    intro c hc
    cases comment with
    | nil => exact isBlank_of_isBreak (htail c hc)
    | cons d comment =>
      obtain rfl := hcomment c hc
      decide
  have hpassed : (if (⟨comment ++ tail, m.right spaces⟩ : Cursor).at? '#' then
      (⟨comment ++ tail, m.right spaces⟩ : Cursor).skipWhile (!isBreak ·) else ⟨comment ++ tail, m.right spaces⟩) =
        ⟨tail, m.right (spaces ++ comment)⟩ := by
    rw [Mark.right_append]
    cases comment with
    | nil =>
      have hat : (⟨[] ++ tail, m.right spaces⟩ : Cursor).at? '#' = false := by
        simp only [Cursor.at?, List.nil_append, decide_eq_false_iff_not]
        intro h
        exact absurd (htail _ h) (by decide)
      rw [hat, if_neg Bool.false_ne_true, Mark.right_nil, List.nil_append]
    | cons d comment =>
      have hd := hcomment d rfl
      subst hd
      rw [if_pos (by simp [Cursor.at?])]
      exact Cursor.skipWhile_append (by simpa using hbreak) (by simpa using htail) _
  rw [skipGap_spaces hr hspaces hnonblank (head?_ne_mark hspaces hcomment htail)]
  simp only [hpassed]
  cases tail with
  | nil => simp
  | cons b rest => simp [htail b rfl, hkey, hflow]

/-- The gap before the first token of a hollow text reaches to its end. -/
theorem skipGap_of_hollow {n : Nat} {r : Reading} (h : Hollow r.cursor.rest) (hn : r.cursor.rest.length < n)
    (hflow : r.inFlow = false) (hkey : r.keyAllowed) :
    ∃ m : Mark, m.offset = r.mark.offset + Text.byteCount r.cursor.rest ∧
      skipGap n r = { r with cursor := ⟨[], m⟩ } := by
  induction n generalizing r with
  | zero => omega
  | succ n ih =>
    obtain ⟨spaces, comment, tail, hcs, hspaces, hcomment, hbreak, htail⟩ := h.split
    have hr : r.cursor = ⟨spaces ++ (comment ++ tail), r.mark⟩ := by rw [← hcs]; rfl
    rw [hcs] at hn ⊢
    rcases htail with rfl | ⟨b, rest, rfl, hb, hrest⟩
    · refine ⟨r.mark.right (spaces ++ comment), by simp, ?_⟩
      rw [skipGap_line hspaces hcomment hbreak (by simp) hr hflow hkey]
      simp
    · obtain ⟨passed, left, hpassed, hskip, hlength, hleft⟩ := Cursor.skipBreak_cons hb hrest
        (r.mark.right (spaces ++ comment))
      obtain ⟨m, hm, hgap⟩ := ih (r := { r with cursor := ⟨left, (r.mark.right (spaces ++ comment)).down passed⟩ })
        hleft (by simp at hn ⊢; omega) hflow hkey
      refine ⟨m, ?_, ?_⟩
      · rw [hm, hpassed]
        simp [mark, Text.byteCount_append]
        omega
      · rw [skipGap_line hspaces hcomment hbreak (by simp [hb]) hr hflow hkey, if_neg (by simp), hskip, hgap]

/-- The end of the text is the only token of a hollow text. -/
theorem next_of_hollow {cs : List Char} (h : Hollow cs) :
    ∃ m : Mark, m.offset = Text.byteCount cs ∧
      (ofText cs).next = .ok ⟨⟨[], m⟩, [.empty .streamEnd m], 0, -1, [], false, none, []⟩ := by
  obtain ⟨m, hm, hgap⟩ := skipGap_of_hollow (r := ofText cs) h (Nat.lt_succ_self _) rfl rfl
  have hnext : (ofText cs).next = (⟨⟨[], m⟩, [], 0, -1, [], true, none, []⟩ : Reading).readStreamEnd := by
    rw [next, hgap]
    rfl
  refine ⟨if m.column = 0 then m else { m with line := m.line + 1, column := 0 }, ?_, hnext⟩
  rw [apply_ite Mark.offset, ite_self, hm]
  simp [ofText, mark, Cursor.ofText, Mark.start]

end Reading

theorem Token.ofText_of_hollow {cs : List Char} (h : Hollow cs) {barrier : Option Barrier}
    (hb : ∀ b ∈ barrier, b.offset ≤ Text.byteCount cs) :
    ∃ m, Token.ofText barrier cs = barrier.elim ([.empty .streamEnd m], none) fun b => ([], some b.fault) := by
  obtain ⟨m, hm, hnext⟩ := Reading.next_of_hollow h
  refine ⟨m, ?_⟩
  have hstale : (Reading.ofText cs).next >>= Reading.dropStaleKeys =
      .ok ⟨⟨[], m⟩, [.empty .streamEnd m], 0, -1, [], false, none, []⟩ := by
    rw [hnext]
    rfl
  rw [Token.ofText, Reading.tokens]
  unfold Reading.step
  rw [hstale]
  cases barrier with
  | none => rfl
  | some b =>
    have hoffset : b.offset ≤ m.offset := hm ▸ hb b rfl
    simp [Reading.mark, hoffset]

/-! ### The empty document -/

namespace Document

theorem barrierFrom_eq_none_iff {block room offset : Nat} {cs : List Char} :
    barrierFrom block room offset cs = none ↔ ∀ c ∈ cs, isAllowed c := by
  induction cs generalizing block room offset with
  | nil => simp [barrierFrom]
  | cons c cs ih =>
    rw [barrierFrom, List.forall_mem_cons]
    split
    rename_i block' room' heq
    by_cases hc : isAllowed c
    · rw [if_pos hc, ih]
      simp [hc]
    · simp [hc]

/-- A barrier stands before the end of the text. -/
theorem offset_le_of_barrierFrom {block room offset : Nat} {cs : List Char} {b : Barrier} (hblock : block ≤ offset)
    (h : barrierFrom block room offset cs = some b) : b.offset ≤ offset + Text.byteCount cs := by
  induction cs generalizing block room offset with
  | nil => cases h
  | cons c cs ih =>
    have hblock' : (if room < c.utf8Size then (offset, blockSize) else (block, room)).1 ≤ offset := by
      split
      · exact le_refl _
      · exact hblock
    rw [barrierFrom] at h
    rw [Text.byteCount_cons]
    generalize (if room < c.utf8Size then (offset, blockSize) else (block, room)) = p at h hblock'
    dsimp only at h
    by_cases hc : isAllowed c
    · rw [if_pos hc] at h
      have := ih (by omega) h
      omega
    · rw [if_neg hc] at h
      cases h
      simp
      omega

/-- A hollow text is presented as empty exactly if a document may hold its characters. -/
theorem ofText_eq_empty_iff {text : String} (h : Hollow text.toList) :
    ofText text = ⟨[], none, false⟩ ↔ ∀ c ∈ text.toList, isAllowed c := by
  have hallowed : barrierFrom 0 blockSize 0 text.toList = none ↔ ∀ c ∈ text.toList, isAllowed c :=
    barrierFrom_eq_none_iff
  have hbarrier : ∀ b ∈ barrierFrom 0 blockSize 0 text.toList, b.offset ≤ Text.byteCount text.toList := by
    intro b hb
    simpa using offset_le_of_barrierFrom (le_refl 0) hb
  obtain ⟨m, hm⟩ := Token.ofText_of_hollow h hbarrier
  rw [← hallowed, ofText, hm]
  cases barrierFrom 0 blockSize 0 text.toList with
  | none => exact ⟨fun _ => rfl, fun _ => rfl⟩
  | some b =>
    constructor
    · intro h
      cases h
    · intro h
      cases h

end Document

end Yaml

namespace Settings

/-- The parser presents a text of empty lines and comments as an empty document, exactly if a document may hold its
characters, and then the settings are the defaults, as they are for the empty text. -/
theorem default_of_hollow (text : String) (h : Yaml.Hollow text.toList) :
    (Yaml.Document.ofText text = ⟨[], none, false⟩ ↔ ∀ c ∈ text.toList, Yaml.Document.isAllowed c) ∧
      (Yaml.Document.ofText text = ⟨[], none, false⟩ → ofText text = .ok .default) := by
  refine ⟨Yaml.Document.ofText_eq_empty_iff h, ?_⟩
  intro hempty
  have hparse : parse text = .ok .default := by
    rw [parse, hempty]
    exact ite_self _
  rw [ofText, hparse]
  rfl

/-- A file in which all fields are commented out. -/
theorem default_of_commented_out :
    let text := "# tapegen.yaml\n\n#target: python\r\n   \n  # tape_size: 30000 # 0x7530\n#"
    Yaml.Hollow text.toList ∧ Yaml.Document.ofText text = ⟨[], none, false⟩ ∧ ofText text = .ok .default := by
  intro text
  have hhollow : Yaml.Hollow text.toList := by
    unfold Yaml.Hollow
    decide
  have hallowed : ∀ c ∈ text.toList, Yaml.Document.isAllowed c := List.all_eq_true.mp (by decide)
  obtain ⟨hempty, hdefault⟩ := default_of_hollow text hhollow
  exact ⟨hhollow, hempty.mpr hallowed, hdefault (hempty.mpr hallowed)⟩

end Settings

end TapeLang
