import TapeLang.Proofs.Reflow.RustModule

/-!
# Reflowing keeps the code

The standard layout of a Rust file differs from the code as it is built only in its white space, its line comments
and commas in front of closing parentheses. What is left of a text without these is its `skeleton`. The code of a
batch can always be laid out if its container is an identifier other than `_`, the result does not depend on the
indent, and its skeleton is that of the code as it is built (`reflow_keeps_skeleton`).
-/

namespace TapeLang.Code

open Reflow (inked dropCommas Spells Reads)

/-! ### Skeletons -/

/-- Whether a line holds a line comment and nothing else. -/
def isCommentLine (line : List Char) : Bool :=
  ['/', '/'].isPrefixOf (line.dropWhile Text.whiteSpace.contains)

/-- The characters of a text that are neither white space nor in comment lines. -/
def codeChars (cs : List Char) : List Char :=
  inked ((cs.splitOn '\n').filter fun line => !isCommentLine line).flatten

/-- The code of a text without white space, comment lines and commas in front of closing parentheses. -/
def skeleton (text : String) : List Char := dropCommas (codeChars text.toList)

section

variable {as bs cs : List Char}

/-- Lines count one by one. -/
theorem codeChars_append (as bs : List Char) : codeChars (as ++ '\n' :: bs) = codeChars as ++ codeChars bs := by
  rw [codeChars, List.splitOn_append_cons_self, List.filter_append, List.flatten_append, Reflow.inked_append]
  rfl

theorem isCommentLine_eq_false (h : '/' ∉ cs) : isCommentLine cs = false := by
  cases hcomment : isCommentLine cs with
  | false => rfl
  | true =>
    have hmem : '/' ∈ cs.dropWhile Text.whiteSpace.contains :=
      (List.isPrefixOf_iff_prefix.1 hcomment).subset (by simp)
    exact absurd ((List.dropWhile_suffix _).subset hmem) h

theorem inked_flatten_splitOn (cs : List Char) : inked (cs.splitOn '\n').flatten = inked cs := by
  have hfeed : inked ['\n'] = [] := by decide
  have hintercalate : ∀ lines : List (List Char), inked (['\n'].intercalate lines) = inked lines.flatten := by
    intro lines
    induction lines with
    | nil => rfl
    | cons l lines ih =>
      cases lines with
      | nil => simp
      | cons m lines =>
        rw [List.intercalate_cons_cons, List.flatten_cons, Reflow.inked_append, Reflow.inked_append,
          Reflow.inked_append, hfeed, ih, List.append_nil]
  rw [← hintercalate, List.intercalate_splitOn]

/-- A text without slashes has no comment lines. -/
theorem codeChars_of_slash_not_mem (h : '/' ∉ cs) : codeChars cs = inked cs := by
  have hlines : ((cs.splitOn '\n').filter fun line => !isCommentLine line) = cs.splitOn '\n' := by
    refine List.filter_eq_self.2 fun line hline => ?_
    have hslash : '/' ∉ line := by
      intro hmem
      -- no white space, so it is kept in every form of the text
      have hinked : '/' ∈ inked (cs.splitOn '\n').flatten :=
        List.mem_filter.2 ⟨List.mem_flatten.2 ⟨line, hline, hmem⟩, by decide⟩
      rw [inked_flatten_splitOn] at hinked
      exact h (List.mem_of_mem_filter hinked)
    rw [isCommentLine_eq_false hslash, Bool.not_false]
  rw [codeChars, hlines, inked_flatten_splitOn]

theorem codeChars_comment {indent text : List Char} (hindent : ∀ c ∈ indent, c = ' ') (htext : '\n' ∉ text) :
    codeChars (indent ++ '/' :: '/' :: ' ' :: text) = [] := by
  have hline : '\n' ∉ indent ++ '/' :: '/' :: ' ' :: text := by
    intro hmem
    rcases List.mem_append.1 hmem with hmem | hmem
    · exact absurd (hindent _ hmem) (by decide)
    · simp [htext] at hmem
  have hcomment : isCommentLine (indent ++ '/' :: '/' :: ' ' :: text) = true := by
    have hwhite : ∀ c ∈ indent, Text.whiteSpace.contains c = true := fun c hc => by
      rw [hindent c hc]
      decide
    rw [isCommentLine, List.dropWhile_append_of_pos hwhite]
    rfl
  rw [codeChars, List.splitOn_eq_singleton hline]
  simp [hcomment]

end

/-! ### Lines -/

/-- The code of lines is that of their tokens. -/
theorem codeChars_lines {lines : List Line} {ts : List Reflow.Token} (h : Spells lines ts) {unit : String}
    (hunit : ∀ c ∈ unit.toList, c = ' ') :
    codeChars (lines.flatMap (·.chars unit)) = ts.flatMap Reflow.Token.chars := by
  have hnil : codeChars [] = [] := rfl
  -- a line with text, behind its indent
  have hline : ∀ {l : Line} (rest : List Line), l.text.toList ≠ [] →
      ∃ indent, (∀ c ∈ indent, c = ' ') ∧ codeChars ((l :: rest).flatMap (·.chars unit)) =
        codeChars (indent ++ l.text.toList) ++ codeChars (rest.flatMap (·.chars unit)) := by
    intro l rest hl
    obtain ⟨indent, hindent, hchars⟩ := Reflow.exists_chars_eq hunit hl
    refine ⟨indent, hindent, ?_⟩
    rw [List.flatMap_cons, hchars, List.append_assoc _ ['\n'], List.singleton_append, codeChars_append]
  induction h with
  | nil => exact hnil
  | @blank lines ts _ ih =>
    have hfeed : (Line.blank :: lines).flatMap (·.chars unit) = [] ++ '\n' :: lines.flatMap (·.chars unit) := rfl
    rw [hfeed, codeChars_append, hnil, ih, List.nil_append]
  | @comment lines ts text depth source htext hsource _ ih =>
    obtain ⟨indent, hindent, heq⟩ := hline (l := ⟨depth, text⟩) lines (by simp [htext])
    rw [heq, htext, codeChars_comment hindent hsource, ih, List.nil_append]
  | @code lines us ts text depth hus htext _ ih =>
    obtain ⟨indent, hindent, heq⟩ := hline (l := ⟨depth, text⟩) lines (htext.ne_nil hus)
    have hslash : '/' ∉ indent ++ text.toList := by
      rw [List.mem_append, not_or]
      exact ⟨fun hmem => absurd (hindent _ hmem) (by decide), htext.slash_not_mem⟩
    have hspaces : inked indent = [] := List.filter_eq_nil_iff.2 fun c hc => by
      rw [hindent c hc]
      decide
    rw [heq, codeChars_of_slash_not_mem hslash, Reflow.inked_append, hspaces, htext.inked_eq, ih,
      List.flatMap_append, List.nil_append]

/-- A line is written as a text and a line feed. -/
theorem exists_chars_eq_concat (unit : String) (l : Line) : ∃ line, l.chars unit = line ++ ['\n'] := by
  unfold Line.chars
  split
  · exact ⟨[], rfl⟩
  · exact ⟨_, rfl⟩

/-- Lines count before what follows them. -/
theorem exists_codeChars_lines (unit : String) (lines : List Line) :
    ∃ front, ∀ cs, codeChars (lines.flatMap (·.chars unit) ++ cs) = front ++ codeChars cs := by
  induction lines with
  | nil => exact ⟨[], fun _ => rfl⟩
  | cons l lines ih =>
    obtain ⟨front, hfront⟩ := ih
    obtain ⟨line, hline⟩ := exists_chars_eq_concat unit l
    refine ⟨codeChars line ++ front, fun cs => ?_⟩
    rw [List.flatMap_cons, hline, List.append_assoc, List.append_assoc, List.singleton_append, codeChars_append,
      hfront, List.append_assoc]

/-- A header counts before the text behind it. -/
theorem exists_codeChars_withHeader (o : Options) (marker : String) (functions : List Function) :
    ∃ front, ∀ text, codeChars (withHeader o marker functions text).toList = front ++ codeChars text.toList := by
  obtain ⟨front, hfront⟩ := exists_codeChars_lines "" (headerLines o marker functions)
  refine ⟨front, fun text => ?_⟩
  simp [withHeader, writeLines, hfront]

/-! ### Names -/

/-- An escaped word is no keyword. -/
theorem isKeyword_escapeWord {name : String} (hne : name ≠ "_") (hself : name ≠ "Self") :
    Reflow.isKeyword (escapeWord rustKeywords name).toList = false := by
  have hkeywords : ∀ w ∈ Reflow.keywords, w = "_" ∨ w = "Self" ∨ w ∈ rustKeywords := by decide +kernel
  have hescaped : ∀ w ∈ rustKeywords, Reflow.isKeyword (w ++ "_").toList = false := by decide +kernel
  rcases escapeWord_cases rustKeywords name with ⟨heq, hmem⟩ | ⟨heq, hmem⟩ <;> rw [heq]
  · rw [Reflow.isKeyword, List.any_eq_false]
    intro w hw h
    have hname : w = name := String.toList_inj.1 (by simpa using h)
    rcases hkeywords w hw with rfl | rfl | hw
    · exact hne hname.symm
    · exact hself hname.symm
    · exact hmem (hname ▸ hw)
  · exact hescaped name hmem

/-- A name of letters, digits and underscores that does not begin with a digit is one word. -/
theorem varies_escapeWord {name : String} {c : Char} {rest : List Char} (hname : name.toList = c :: rest)
    (hdigit : Reflow.isDigit c = false) (hchars : ∀ d ∈ c :: rest, d = '_' ∨ Text.isAsciiAlphanum d) :
    Reflow.Varies (Reflow.nameToken (escapeWord rustKeywords name)) := by
  obtain ⟨more, hmore, heq⟩ : ∃ more, (∀ d ∈ c :: more, d = '_' ∨ Text.isAsciiAlphanum d) ∧
      (escapeWord rustKeywords name).toList = c :: more := by
    rcases escapeWord_cases rustKeywords name with ⟨heq, -⟩ | ⟨heq, -⟩ <;> rw [heq]
    · exact ⟨rest, hchars, hname⟩
    · refine ⟨rest ++ ['_'], fun d hd => ?_, by simp [hname]⟩
      rw [← List.cons_append, List.mem_append, List.mem_singleton] at hd
      exact hd.elim (hchars d) .inl
  rw [Reflow.nameToken, heq]
  exact ⟨.word hdigit hmore, hmore⟩

/-- A word that does not begin with a capital can be declared. -/
theorem declarable_escapeWord {name : String} {c : Char} {rest : List Char} (hname : name.toList = c :: rest)
    (hvaries : Reflow.Varies (Reflow.nameToken (escapeWord rustKeywords name))) (hupper : Text.isAsciiUpper c = false)
    (hne : name ≠ "_") : Reflow.Declarable (escapeWord rustKeywords name) := by
  have hself : name ≠ "Self" := by
    rintro rfl
    obtain rfl : 'S' = c := (List.cons.inj hname).1
    revert hupper
    decide
  exact ⟨hvaries, isKeyword_escapeWord hne hself⟩

theorem declarable_function {sources : List Source} {f : Function} (hf : f ∈ (compileAll sources).functions) :
    Reflow.Declarable (escapeWord rustKeywords f.name) := by
  obtain ⟨hwords, c, rest, hname, hc⟩ := canonical_of_mem hf
  have hlower : Reflow.isDigit c = false ∧ Text.isAsciiUpper c = false ∧ c ≠ '_' :=
    Name.forall_alphanum (p := fun c => Text.isAsciiLower c → Reflow.isDigit c = false ∧
      Text.isAsciiUpper c = false ∧ c ≠ '_') (by decide) (Name.isAlphanum_of_lower hc) hc
  have hvaries := varies_escapeWord hname hlower.1 fun d hd =>
    (hwords.mem (hname ▸ hd)).imp_right Name.isAlphanum_of_wordChar
  refine declarable_escapeWord hname hvaries hlower.2.1 fun h => ?_
  rw [h] at hname
  exact hlower.2.2 (List.cons.inj hname).1.symm

/-- An identifier is one word in a module, and can be declared if it is not the underscore. -/
theorem varies_container {container : String} (h : Name.isIdentifier container = true) :
    Reflow.Varies (Reflow.nameToken (escapeWord rustKeywords (Name.snake container))) ∧
      (container ≠ "_" → Reflow.Declarable (escapeWord rustKeywords (Name.snake container))) := by
  unfold Name.isIdentifier at h
  split at h
  · cases h
  · next c cs hname =>
    simp only [Bool.and_eq_true, Bool.or_eq_true, decide_eq_true_eq, Bool.not_eq_true', List.all_eq_true] at h
    obtain ⟨hc, hcs⟩ := h
    have hchars : ∀ d ∈ c :: cs, d = '_' ∨ Text.isAsciiAlphanum d :=
      List.forall_mem_cons.2 ⟨hc.imp_right (·.1), hcs⟩
    have hsnake : (Name.snake container).toList = Text.toAsciiLower c :: Name.snakeFrom (some c) cs := by
      rw [Name.snake, hname, Name.snakeFrom_none_cons, String.toList_ofList]
    have hlower : Reflow.isDigit (Text.toAsciiLower c) = false ∧ Text.isAsciiUpper (Text.toAsciiLower c) = false ∧
        (Text.toAsciiLower c = '_' → c = '_') := by
      rcases hc with rfl | ⟨hc, hdigit⟩
      · decide
      · exact Name.forall_alphanum (p := fun c => Text.isAsciiDigit c = false → Text.isAsciiAlphanum c →
          Reflow.isDigit (Text.toAsciiLower c) = false ∧ Text.isAsciiUpper (Text.toAsciiLower c) = false ∧
          (Text.toAsciiLower c = '_' → c = '_')) (by decide) hc hdigit hc
    have hvaries := varies_escapeWord hsnake hlower.1 (Name.snakeFrom_none_cons c cs ▸ Name.mem_snakeFrom hchars none)
    refine ⟨hvaries, fun hne => declarable_escapeWord hsnake hvaries hlower.2.1 fun hunderscore => ?_⟩
    · rw [hunderscore] at hsnake
      obtain ⟨hfirst, hrest⟩ := List.cons.inj hsnake
      obtain rfl := hlower.2.2 hfirst.symm
      -- nothing follows the underscore
      cases cs with
      | nil => exact hne (String.toList_inj.1 hname)
      | cons d cs =>
        unfold Name.snakeFrom at hrest
        split at hrest
        · split at hrest <;> cases hrest
        · cases hrest

/-! ### Batches -/

theorem render_rust_plain {o : Options} (h : o.reflow = false) (functions : List Function) :
    render .rust o functions = .ok (withHeader o "//" functions (writeLines o.indent (rustModule o functions))) := by
  rw [render_rust, h]
  rfl

theorem render_rust_reflow {o : Options} (h : o.reflow = true) {functions : List Function} {text : String}
    (htext : Reflow.reflow (writeLines o.indent (rustModule o functions)) = .ok text) :
    render .rust o functions = .ok (withHeader o "//" functions text) := by
  rw [render_rust, if_pos h, htext]
  rfl

/-- The code of a batch is read as tokens that do not depend on the names of its sources. -/
theorem exists_batchTokens {sources : List Source} {o : Options} (hcontainer : Name.isIdentifier o.container = true) :
    ∃ ts, (∃ rest, ts = Reflow.headTokens (escapeWord rustKeywords (Name.snake o.container)) ++
        (Reflow.attributeTokens ++ rest)) ∧ Reflow.balanced [] ts ∧
      (o.container ≠ "_" → Reflow.checkFile ts = .ok ()) ∧ Reflow.Quiet (ts.flatMap Reflow.Token.chars) ∧
      ∀ functions, List.Forall₂ Reflow.SameCode (compileAll sources).functions functions →
        (∀ f ∈ functions, '\n' ∉ f.source.toList) → Spells (rustModule o functions) ts := by
  have hfunctions : ∀ f ∈ (compileAll sources).functions, flattenAll (nest f.body) = f.body ∧
      Reflow.Declarable (escapeWord rustKeywords f.name) := fun f hf => by
    obtain ⟨s, -, hs⟩ := exists_source_of_mem hf
    exact ⟨flattenAll_nest_body hs, declarable_function hf⟩
  obtain ⟨hvaries, hdeclarable⟩ := varies_container hcontainer
  obtain ⟨ts, hbegin, hbalanced, hcheck, hquiet, hspells⟩ := Reflow.exists_moduleTokens (o := o) hvaries hfunctions
  exact ⟨ts, hbegin, hbalanced, fun hne => hcheck (hdeclarable hne), hquiet, hspells⟩

/-- The code of a batch can be laid out, in one way for all indents, and keeps its skeleton. -/
theorem reflow_keeps_skeleton {sources : List Source}
    (hsources : ∀ f ∈ (compileAll sources).functions, '\n' ∉ f.source.toList) {o : Options}
    (hcontainer : Name.isIdentifier o.container = true) (hne : o.container ≠ "_") :
    ∃ text, ∀ indent : String, (∀ c ∈ indent.toList, c = ' ') →
      render .rust { o with reflow := true, indent := indent } (compileAll sources).functions = .ok text ∧
      ∃ plain, render .rust { o with reflow := false, indent := indent } (compileAll sources).functions = .ok plain ∧
        skeleton text = skeleton plain := by
  obtain ⟨ts, ⟨rest, hts⟩, hbalanced, hcheck, hquiet, hspells⟩ := @exists_batchTokens sources o hcontainer
  have hlines := hspells _ (List.forall₂_same.2 fun f _ => ⟨rfl, rfl⟩) hsources
  obtain ⟨front, hfront⟩ := exists_codeChars_withHeader o "//" (compileAll sources).functions
  refine ⟨withHeader o "//" (compileAll sources).functions (String.ofList (Reflow.layout ts)), fun indent hindent => ?_⟩
  have hcode : (writeLines indent (rustModule o (compileAll sources).functions)).toList =
      (rustModule o (compileAll sources).functions).flatMap (·.chars indent) := String.toList_ofList
  refine ⟨?_, _, render_rust_plain rfl _, ?_⟩
  · have hspace : ∀ c ∈ indent.toList, Reflow.isSpace c := fun c hc => hindent c hc ▸ (by decide)
    have hreflow := hlines.reflow_eq hbalanced hspace
    rw [hcheck hne] at hreflow
    exact render_rust_reflow rfl hreflow
  · have hhead : (ts.flatMap Reflow.Token.chars).head? ≠ some ')' := by
      rw [hts]
      exact fun h => absurd (Option.some.inj h) (by decide)
    have hadds := Reflow.inked_layout hlines.isSolid
    have hlayout : codeChars (String.ofList (Reflow.layout ts)).toList = inked (Reflow.layout ts) := by
      rw [String.toList_ofList, codeChars_of_slash_not_mem (Reflow.slash_not_mem_layout hlines.isSolid)]
    calc skeleton (withHeader o "//" (compileAll sources).functions (String.ofList (Reflow.layout ts)))
        = dropCommas (front ++ inked (Reflow.layout ts)) := by rw [skeleton, hfront, hlayout]
      _ = dropCommas front ++ ts.flatMap Reflow.Token.chars := by
        rw [Reflow.dropCommas_append _ (by rwa [hadds.head?_eq hhead]), hadds.dropCommas_eq hquiet.1]
      _ = dropCommas (front ++ ts.flatMap Reflow.Token.chars) := by
        rw [Reflow.dropCommas_append _ hhead, hquiet.1]
      _ = skeleton (withHeader o "//" (compileAll sources).functions
            (writeLines indent (rustModule o (compileAll sources).functions))) := by
        rw [skeleton, hfront, hcode, codeChars_lines hlines hindent]

/-- A batch with a loop without statements, under an indent of one space and the standard one. -/
theorem reflow_keeps_skeleton_of_loop :
    let functions := (compileAll [.ofText "a.bf" "[]>."]).functions
    ∃ text, render .rust ⟨"BF", 256, true, true, " "⟩ functions = .ok text ∧
      render .rust ⟨"BF", 256, true, true, "    "⟩ functions = .ok text ∧
      ∃ plain, render .rust ⟨"BF", 256, true, false, " "⟩ functions = .ok plain ∧ skeleton text = skeleton plain := by
  have hkeeps := @reflow_keeps_skeleton [.ofText "a.bf" "[]>."] (by decide) .standard (by decide) (by decide)
  obtain ⟨text, htext⟩ := hkeeps
  obtain ⟨hnarrow, plain, hplain, hskeleton⟩ := htext " " (by simp)
  exact ⟨text, hnarrow, (htext "    " (by simp)).1, plain, hplain, hskeleton⟩

end TapeLang.Code
