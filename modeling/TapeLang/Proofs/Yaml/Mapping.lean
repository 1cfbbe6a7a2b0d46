import TapeLang.Proofs.Yaml.Lines

/-!
# Documents of lines

A text of lines, each a plain key, a colon and a plain value, is a mapping of the keys to the values in the order of
the text (`Document.ofText_lines`). If a key is too long the document ends with a fault
(`Document.ofText_longKey`).
-/

namespace TapeLang.Yaml

/-- A scalar without quotes and tag. -/
def Content.plain (cs : List Char) : Content := .scalar ⟨String.ofList cs, .plain, none⟩

/-- The keys and values of lines in turn. -/
def linesContents : List Line → List Content
  | [] => []
  | l :: lines => .plain l.1 :: .plain l.2 :: linesContents lines

variable {table : TagTable} {site : Site} {since : Mark} {t u : Token} {ts : List Token} {fault : Option Fault}

/-! ### Steps of a mapping -/

theorem readHead_scalar {cs : List Char} (hu : u.lexeme = .scalar cs .plain) :
    readHead table site ⟨u :: ts, fault⟩ = .ok ⟨.content none (.plain cs), u.start, u, ⟨ts, fault⟩⟩ := by
  simp [readHead, readProperties, Stream.peek, Stream.skip, hu, resolveTag, bind, Except.bind, Content.plain]

theorem Step.inBlock_key {cs : List Char} {turn : Turn} (hturn : turn ≠ .value) (ht : t.lexeme = .key)
    (hu : u.lexeme = .scalar cs .plain) :
    Step.inBlock table since turn ⟨t :: u :: ts, fault⟩ =
      .ok (.item (.content none (.plain cs)) u.start .value ⟨ts, fault⟩) := by
  have hhead : readHead table ⟨true, true⟩ ⟨u :: ts, fault⟩ =
      .ok ⟨.content none (.plain cs), u.start, u, ⟨ts, fault⟩⟩ := readHead_scalar hu
  simp [inBlock, Step.node, Stream.peek, Stream.skip, hturn, ht, hu, hhead, bind, Except.bind, Except.map]

theorem Step.inBlock_value {cs : List Char} (ht : t.lexeme = .value) (hu : u.lexeme = .scalar cs .plain) :
    Step.inBlock table since .value ⟨t :: u :: ts, fault⟩ =
      .ok (.item (.content none (.plain cs)) u.start .key ⟨ts, fault⟩) := by
  have hhead : readHead table ⟨true, true⟩ ⟨u :: ts, fault⟩ =
      .ok ⟨.content none (.plain cs), u.start, u, ⟨ts, fault⟩⟩ := readHead_scalar hu
  simp [inBlock, Step.node, Stream.peek, Stream.skip, ht, hu, hhead, bind, Except.bind, Except.map]

theorem Step.inBlock_end {turn : Turn} (hturn : turn ≠ .value) (ht : t.lexeme = .blockEnd) :
    Step.inBlock table since turn ⟨t :: ts, fault⟩ = .ok (.close ⟨ts, fault⟩) := by
  simp [inBlock, Stream.peek, Stream.skip, hturn, ht, bind, Except.bind]

theorem Step.inBlock_fault {turn : Turn} {f : Fault} :
    Step.inBlock table since turn ⟨[], some f⟩ = .error f := by
  simp [inBlock, Stream.peek, bind, Except.bind]

/-- The tokens of lines give the keys and values in turn, and the items of what is behind them follow. -/
theorem itemsFrom_lines {lines : List Line} (hts : ts.map Token.lexeme = linesLexemes lines) (table : TagTable)
    (since : Mark) (rest : List Token) (fault : Option Fault) (turn : Turn) (hturn : turn ≠ .value) (n : Nat) :
    ∃ items turn', turn' ≠ .value ∧ items.map Prod.fst = (linesContents lines).map (Item.content none) ∧
      itemsFrom (Step.inBlock table since) (n + 2 * lines.length) turn ⟨ts ++ rest, fault⟩ =
        (items ++ (itemsFrom (Step.inBlock table since) n turn' ⟨rest, fault⟩).1,
          (itemsFrom (Step.inBlock table since) n turn' ⟨rest, fault⟩).2) := by
  induction lines generalizing ts turn with
  | nil =>
    obtain rfl : ts = [] := by simpa [linesLexemes] using hts
    exact ⟨[], turn, hturn, rfl, rfl⟩
  | cons l lines ih =>
    simp only [linesLexemes, lineLexemes, List.cons_append, List.nil_append, List.map_eq_cons_iff] at hts
    obtain ⟨k, _, rfl, hk, kt, _, rfl, hkt, v, _, rfl, hv, vt, ts, rfl, hvt, hts⟩ := hts
    obtain ⟨items, turn', hturn', hitems, hrest⟩ := ih hts .key (by decide)
    refine ⟨(.content none (.plain l.1), kt.start) :: (.content none (.plain l.2), vt.start) :: items, turn', hturn',
      ?_, ?_⟩
    · simp [linesContents, hitems]
    · rw [List.length_cons, show n + 2 * (lines.length + 1) = n + 2 * lines.length + 1 + 1 by omega]
      simp only [List.cons_append]
      rw [itemsFrom, Step.inBlock_key hturn hk hkt]
      simp only [Item.isFlat, Content.plain, Content.isScalar]
      rw [itemsFrom, Step.inBlock_value hv hvt]
      simp only [Item.isFlat, Content.plain, Content.isScalar, hrest]
      rfl

theorem length_linesLexemes (lines : List Line) : (linesLexemes lines).length = 4 * lines.length := by
  induction lines with
  | nil => rfl
  | cons l lines ih =>
    simp [linesLexemes, lineLexemes, ih]
    omega

/-! ### Roots -/

theorem readRoot_blockMapping (ht : t.lexeme = .blockMappingStart) {items : List (Item × Mark)} {ending : Ending}
    (hitems : itemsFrom (Step.inBlock table t.start) (2 * ts.length + 2) .firstKey ⟨ts, fault⟩ = (items, ending)) :
    readRoot table ⟨t :: ts, fault⟩ = ((.content none (.mapping none), t.start) :: items, ending) := by
  have hhead : readHead table ⟨true, false⟩ ⟨t :: ts, fault⟩ =
      .ok ⟨.content none (.mapping none), t.start, t, ⟨ts, fault⟩⟩ := by
    simp [readHead, readProperties, Stream.peek, Stream.skip, ht, resolveTag, bind, Except.bind]
  simp [readRoot, hhead, ht, hitems]

theorem readRoot_scalar {cs : List Char} (ht : t.lexeme = .scalar cs .plain) :
    readRoot table ⟨t :: ts, fault⟩ = ([(.content none (.plain cs), t.start)], .complete ⟨ts, fault⟩) := by
  simp [readRoot, readHead_scalar ht, ht, Item.isFlat, Content.plain, Content.isScalar]

namespace Outline

theorem ofStream_cons (ht : t.lexeme.endsContent = false) :
    ofStream ⟨t :: ts, fault⟩ = ofItems (readRoot .default ⟨t :: ts, fault⟩) := by
  cases hl : t.lexeme <;> simp [hl, Lexeme.endsContent] at ht <;> simp [ofStream, Stream.peek, hl]

/-- The root of a mapping of lines, where `last` is what stands behind them. -/
theorem readRoot_lines {lines : List Line} {last : List Token} (ht : t.lexeme = .blockMappingStart)
    (hts : ts.map Token.lexeme = linesLexemes lines) {ending : Ending}
    (hlast : ∀ turn n, turn ≠ .value →
      itemsFrom (Step.inBlock .default t.start) (n + 1) turn ⟨last, fault⟩ = ([], ending)) :
    ∃ items, readRoot .default ⟨t :: (ts ++ last), fault⟩ = (items, ending) ∧
      items.map Prod.fst = (Content.mapping none :: linesContents lines).map (Item.content none) := by
  have hlength : ts.length = 4 * lines.length := by
    rw [← length_linesLexemes, ← hts, List.length_map]
  obtain ⟨n, hn⟩ : ∃ n, 2 * (ts ++ last).length + 2 = n + 1 + 2 * lines.length :=
    ⟨2 * (ts ++ last).length + 1 - 2 * lines.length, by simp; omega⟩
  obtain ⟨items, turn, hturn, hitems, hrun⟩ := itemsFrom_lines hts .default t.start last fault .firstKey (by decide)
    (n + 1)
  rw [hlast turn n hturn, List.append_nil, ← hn] at hrun
  exact ⟨_, readRoot_blockMapping ht hrun, by simp [hitems]⟩

/-- The outline of lines behind which the text ends. -/
theorem ofStream_lines {lines : List Line}
    (hts : ts.map Token.lexeme = .blockMappingStart :: (linesLexemes lines ++ [.blockEnd, .streamEnd])) :
    ∃ items, ofStream ⟨ts, none⟩ = ⟨items, none, false⟩ ∧
      items.map Prod.fst = (Content.mapping none :: linesContents lines).map (Item.content none) := by
  obtain ⟨t, ts, rfl, ht, hts⟩ := List.map_eq_cons_iff.mp hts
  obtain ⟨ts, last, rfl, hlines, hlast⟩ := List.map_eq_append_iff.mp hts
  simp only [List.map_eq_cons_iff, List.map_eq_nil_iff] at hlast
  obtain ⟨e, _, rfl, he, z, _, rfl, hz, rfl⟩ := hlast
  have hend : ∀ turn n, turn ≠ .value → itemsFrom (Step.inBlock .default t.start) (n + 1) turn ⟨[e, z], none⟩ =
      ([], .complete ⟨[z], none⟩) := by
    intro turn n hturn
    rw [itemsFrom, Step.inBlock_end hturn he]
  obtain ⟨items, hroot, hitems⟩ := readRoot_lines ht hlines hend
  refine ⟨items, ?_, hitems⟩
  rw [ofStream_cons (by simp [ht, Lexeme.endsContent]), hroot]
  simp [ofItems, Stream.peek, hasMore, hz]

/-- The outline of lines behind which the text cannot be read. -/
theorem ofStream_lines_fault {lines : List Line} {f : Fault}
    (hts : ts.map Token.lexeme = .blockMappingStart :: linesLexemes lines) :
    ∃ items, ofStream ⟨ts, some f⟩ = ⟨items, some f, false⟩ ∧
      items.map Prod.fst = (Content.mapping none :: linesContents lines).map (Item.content none) := by
  obtain ⟨t, ts, rfl, ht, hts⟩ := List.map_eq_cons_iff.mp hts
  have hend : ∀ turn n, turn ≠ .value → itemsFrom (Step.inBlock .default t.start) (n + 1) turn ⟨[], some f⟩ =
      ([], .fault f) := by
    intro turn n _
    rw [itemsFrom, Step.inBlock_fault]
  obtain ⟨items, hroot, hitems⟩ := readRoot_lines ht hts hend
  refine ⟨items, ?_, hitems⟩
  rw [List.append_nil] at hroot
  rw [ofStream_cons (by simp [ht, Lexeme.endsContent]), hroot, ofItems]

/-- The outline of a scalar behind which the text cannot be read. -/
theorem ofStream_scalar_fault {cs : List Char} {f : Fault} (hts : ts.map Token.lexeme = [.scalar cs .plain]) :
    ∃ items, ofStream ⟨ts, some f⟩ = ⟨items, some f, false⟩ ∧
      items.map Prod.fst = [Content.plain cs].map (Item.content none) := by
  obtain ⟨t, ts, rfl, ht, hts⟩ := List.map_eq_cons_iff.mp hts
  obtain rfl := List.map_eq_nil_iff.mp hts
  refine ⟨[(.content none (.plain cs), t.start)], ?_, rfl⟩
  rw [ofStream_cons (by simp [ht, Lexeme.endsContent]), readRoot_scalar ht]
  rfl

end Outline

/-! ### Documents -/

namespace Document

theorem number_of_unnamed {contents : List Content} {items : List (Item × Mark)}
    (hitems : items.map Prod.fst = contents.map (Item.content none)) (names : List (List Char × Nat)) :
    number names items = (items.map fun i => (i.1, i.2, none), none) := by
  induction items generalizing contents with
  | nil => rfl
  | cons i items ih =>
    obtain ⟨i, place⟩ := i
    obtain ⟨c, contents, rfl, rfl, hrest⟩ := List.map_eq_cons_iff.mp hitems.symm
    simp [number, ih hrest.symm]

theorem nodesOf_of_unnamed {contents : List Content} {items : List (Item × Mark)}
    (hitems : items.map Prod.fst = contents.map (Item.content none)) :
    (nodesOf (items.map fun i => (i.1, i.2, none))).map Node.content = contents := by
  rw [nodesOf]
  -- only aliases look up the whole list
  generalize contentOf? (items.map fun i => (i.1, i.2, none)) = lookup
  induction items generalizing contents with
  | nil => simpa using hitems
  | cons i items ih =>
    obtain ⟨i, place⟩ := i
    obtain ⟨c, contents, rfl, rfl, hrest⟩ := List.map_eq_cons_iff.mp hitems.symm
    simp [← ih hrest.symm]

/-- Items without names are the nodes of the document. -/
theorem ofOutline_of_unnamed {contents : List Content} {items : List (Item × Mark)}
    (hitems : items.map Prod.fst = contents.map (Item.content none)) (more : Bool) :
    (ofOutline ⟨items, fault, more⟩).nodes.map Node.content = contents ∧
      (ofOutline ⟨items, fault, more⟩).fault = fault ∧ (ofOutline ⟨items, fault, more⟩).more = more := by
  rw [ofOutline, number_of_unnamed hitems]
  exact ⟨nodesOf_of_unnamed hitems, rfl, rfl⟩

theorem isAllowed_linesText {ending : List Char} (hending : ending = [] ∨ ending = ['\n']) {lines : List Line}
    (hplain : ∀ l ∈ lines, IsPlainLine l) : ∀ c ∈ linesText ending lines, isAllowed c := by
  induction lines with
  | nil => simp [linesText]
  | cons l lines ih =>
    have hl := hplain l (by simp)
    have hrest := ih fun l hl => hplain l (by simp [hl])
    have hlineFeed : isAllowed '\n' := rfl
    have hbehind : ∀ c ∈ behindLine ending lines, isAllowed c := by
      rw [behindLine]
      split
      · rcases hending with rfl | rfl
        · simp
        · simp [hlineFeed]
      · simpa using ⟨hlineFeed, hrest⟩
    intro c hc
    rw [linesText_cons] at hc
    simp only [List.mem_append, List.mem_cons] at hc
    rcases hc with hc | rfl | rfl | hc | hc
    · exact hl.key.allowed c hc
    · rfl
    · rfl
    · exact hl.value.allowed c hc
    · exact hbehind c hc

/-- A text of lines without quotes is a mapping of its keys to its values. -/
theorem ofText_lines {text : String} {ending : List Char} (hending : ending = [] ∨ ending = ['\n']) {lines : List Line}
    (htext : text.toList = linesText ending lines) (hne : lines ≠ []) (hplain : ∀ l ∈ lines, IsPlainLine l)
    (hshort : ∀ l ∈ lines, IsShort l.1) :
    (ofText text).nodes.map Node.content = .mapping none :: linesContents lines ∧
      (ofText text).fault = none ∧ (ofText text).more = false := by
  obtain ⟨ts, htokens, hts⟩ := Token.ofText_lines hending hne hplain hshort
  obtain ⟨items, houtline, hitems⟩ := Outline.ofStream_lines hts
  have hbarrier : barrierFrom 0 blockSize 0 (linesText ending lines) = none :=
    barrierFrom_eq_none_iff.mpr (isAllowed_linesText hending hplain)
  rw [ofText, htext, hbarrier, htokens]
  simp only [houtline]
  exact ofOutline_of_unnamed hitems false

private theorem exists_first_long {lines : List Line} (h : ∃ l ∈ lines, ¬ IsShort l.1) :
    ∃ before line after, lines = before ++ line :: after ∧ (∀ l ∈ before, IsShort l.1) ∧ ¬ IsShort line.1 := by
  induction lines with
  | nil => simp at h
  | cons l lines ih =>
    by_cases hl : IsShort l.1
    · obtain ⟨before, line, after, rfl, hshort, hline⟩ := ih (by simpa [hl] using h)
      exact ⟨l :: before, line, after, rfl, by simpa [hl] using hshort, hline⟩
    · exact ⟨[], l, lines, rfl, by simp, hl⟩

/-- A text of lines ends with a fault if a key is too long. -/
theorem ofText_longKey {text : String} {ending : List Char} (hending : ending = [] ∨ ending = ['\n'])
    {lines : List Line} (htext : text.toList = linesText ending lines) (hplain : ∀ l ∈ lines, IsPlainLine l)
    (hlong : ∃ l ∈ lines, ¬ IsShort l.1) : ∃ f, (ofText text).fault = some f := by
  obtain ⟨before, line, after, rfl, hshort, hline⟩ := exists_first_long hlong
  obtain ⟨ts, f, htokens, hts⟩ := Token.ofText_longKey hending hplain hshort hline
  obtain ⟨contents, items, houtline, hitems⟩ : ∃ (contents : List Content) (items : List (Item × Mark)),
      Outline.ofStream ⟨ts, some f⟩ = ⟨items, some f, false⟩ ∧
        items.map Prod.fst = contents.map (Item.content none) := by
    by_cases hbefore : before = []
    · rw [if_pos hbefore] at hts
      exact ⟨_, Outline.ofStream_scalar_fault hts⟩
    · rw [if_neg hbefore] at hts
      exact ⟨_, Outline.ofStream_lines_fault hts⟩
  rw [ofText, htext, barrierFrom_eq_none_iff.mpr (isAllowed_linesText hending hplain), htokens]
  simp only [houtline]
  exact ⟨f, (ofOutline_of_unnamed hitems false).2.1⟩

end Document

end TapeLang.Yaml
