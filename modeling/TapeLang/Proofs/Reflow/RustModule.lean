import TapeLang.Code.Render
import TapeLang.Proofs.Name.Declared
import TapeLang.Proofs.Reading.Layout
import TapeLang.Proofs.Reflow.Layout

/-!
# The tokens of a Rust module

A Rust module is read as tokens that depend neither on its indent nor on the names of its sources, which stand in
comments (`Spells`). Its delimiters match, and it is made of an attribute, a constant and functions
(`exists_moduleTokens`), so it has a standard layout.
-/

namespace TapeLang.Code.Reflow

/-! ### Lines and tokens -/

/-- A line with text is written behind characters of the indent and in front of a line feed. -/
theorem exists_chars_eq {unit : String} {p : Char → Prop} (hunit : ∀ c ∈ unit.toList, p c) {l : Line}
    (hl : l.text.toList ≠ []) :
    ∃ indent, (∀ c ∈ indent, p c) ∧ l.chars unit = indent ++ l.text.toList ++ ['\n'] := by
  refine ⟨(List.replicate l.depth unit.toList).flatten, fun c hc => ?_, ?_⟩
  · obtain ⟨w, hw, hcw⟩ := List.mem_flatten.1 hc
    rw [List.eq_of_mem_replicate hw] at hcw
    exact hunit c hcw
  · rw [Line.chars, if_neg (by simpa using hl)]

/-- The lines are read as `ts`: each is empty, a comment or a text of its own tokens. -/
inductive Spells : List Line → List Token → Prop where
  | nil : Spells [] []
  | blank {lines : List Line} {ts : List Token} (h : Spells lines ts) : Spells (.blank :: lines) ts
  | comment {lines : List Line} {ts : List Token} {text : String} (depth : Nat) {source : List Char}
      (htext : text.toList = '/' :: '/' :: ' ' :: source) (hsource : '\n' ∉ source) (h : Spells lines ts) :
      Spells (⟨depth, text⟩ :: lines) ts
  | code {lines : List Line} {us ts : List Token} {text : String} (depth : Nat) (hus : us ≠ [])
      (htext : Lexes text.toList us) (h : Spells lines ts) : Spells (⟨depth, text⟩ :: lines) (us ++ ts)

namespace Spells

variable {as bs : List Line} {ts us : List Token}

theorem append (ha : Spells as ts) (hb : Spells bs us) : Spells (as ++ bs) (ts ++ us) := by
  induction ha with
  | nil => exact hb
  | blank _ ih => exact .blank ih
  | comment depth htext hsource _ ih => exact .comment depth htext hsource ih
  | code depth hus htext _ ih =>
    rw [List.append_assoc]
    exact .code depth hus htext ih

theorem isSolid (h : Spells as ts) : ∀ t ∈ ts, t.isSolid := by
  induction h with
  | nil => exact fun _ => (nomatch ·)
  | blank _ ih => exact ih
  | comment _ _ _ _ ih => exact ih
  | code _ _ htext _ ih => exact List.forall_mem_append.2 ⟨htext.isSolid, ih⟩

/-- Lines are read in front of any text, whatever spaces the indent is made of. -/
theorem reads (h : Spells as ts) {unit : String} (hunit : ∀ c ∈ unit.toList, isSpace c) {cs : List Char}
    (hcs : Reads cs us) : Reads (as.flatMap (·.chars unit) ++ cs) (ts ++ us) := by
  have hfeed : isSpace '\n' := by decide
  -- a line with text, behind its indent and in front of its line feed
  have hline : ∀ {l : Line} {rest : List Line} {vs : List Token}, l.text.toList ≠ [] →
      Reads (l.text.toList ++ '\n' :: (rest.flatMap (·.chars unit) ++ cs)) vs →
      Reads ((l :: rest).flatMap (·.chars unit) ++ cs) vs := by
    intro l rest vs hl htext
    obtain ⟨indent, hindent, hchars⟩ := exists_chars_eq hunit hl
    rw [List.flatMap_cons, hchars]
    simpa only [List.append_assoc, List.cons_append, List.nil_append] using htext.spaces hindent
  induction h with
  | nil => exact hcs
  | blank _ ih => exact .space hfeed ih
  | comment depth htext hsource _ ih =>
    refine hline ?_ ?_ <;> rw [htext]
    · exact List.cons_ne_nil _ _
    · exact .comment hsource (.space hfeed ih)
  | code depth hus htext _ ih =>
    refine hline (htext.ne_nil hus) ?_
    rw [List.append_assoc]
    exact htext.reads (stops_cons.2 (by decide)) (.space hfeed ih)

/-- Lines are laid out by their tokens, if the delimiters of these match. -/
theorem reflow_eq (h : Spells as ts) (hbalanced : balanced [] ts) {unit : String}
    (hunit : ∀ c ∈ unit.toList, isSpace c) :
    reflow (writeLines unit as) = (checkFile ts).map fun _ => String.ofList (layout ts) := by
  have hreads := h.reads hunit .nil
  rw [List.append_nil, List.append_nil, ← String.toList_ofList (l := as.flatMap (·.chars unit))] at hreads
  exact Reflow.reflow_eq (hreads.tokenize hbalanced)

end Spells

/-! ### Groups -/

section

variable {ts us rest : List Token} {pending stack : List Delimiter}

/-- Behind tokens that close what they and `stack` have opened, delimiters match as they do without them. -/
theorem balanced_append (h : balanced stack ts) (pending : List Delimiter) (rest : List Token) :
    balanced (stack ++ pending) (ts ++ rest) = balanced pending rest := by
  induction ts generalizing stack with
  | nil =>
    obtain rfl := List.isEmpty_iff.1 h
    rfl
  | cons t ts ih =>
    cases t with
    | opening d =>
      have hopened : balanced (d :: stack) ts = true := h
      exact ih hopened
    | closing d =>
      cases stack with
      | nil => cases h
      | cons p outer =>
        simp only [balanced, Bool.and_eq_true, decide_eq_true_eq] at h
        simp only [List.cons_append, balanced, h.1, decide_true, Bool.true_and]
        exact ih h.2
    | _ => exact ih h

/-- A group goes on behind tokens that close what they have opened. -/
theorem afterGroup_append (h : balanced stack ts) (depth : Nat) (rest : List Token) :
    afterGroup (stack.length + depth) (ts ++ rest) = afterGroup depth rest := by
  induction ts generalizing stack with
  | nil =>
    obtain rfl := List.isEmpty_iff.1 h
    rw [List.length_nil, Nat.zero_add, List.nil_append]
  | cons t ts ih =>
    cases t with
    | opening d =>
      have hopened : balanced (d :: stack) ts = true := h
      rw [← ih hopened, List.length_cons, Nat.add_right_comm]
      rfl
    | closing d =>
      cases stack with
      | nil => cases h
      | cons p outer =>
        simp only [balanced, Bool.and_eq_true] at h
        rw [← ih h.2, List.length_cons, Nat.add_right_comm]
        rfl
    | _ => exact ih h

end

/-! ### Lines of a body -/

/-- Lines that are read as tokens with matching delimiters and without superfluous commas. -/
def Whole (lines : List Line) : Prop :=
  ∃ ts, Spells lines ts ∧ balanced [] ts ∧ Quiet (ts.flatMap Token.chars)

def word (s : String) : Token := .word s.toList

/-- Whether a text is read as `us` if it stands alone. -/
def readsAlone (cs : List Char) (us : List Token) : Bool :=
  tokensWithin cs.length cs = some us && cs.all isPlain && us.all Token.isSolid

theorem lexes_of_readsAlone {cs : List Char} {us : List Token} (h : readsAlone cs us) : Lexes cs us := by
  simp only [readsAlone, Bool.and_eq_true, decide_eq_true_eq, List.all_eq_true] at h
  exact .of_tokensWithin h.1.1 h.1.2 h.2

/-- A part of a line that varies: a token of letters, digits and underscores. -/
structure Varies (t : Token) : Prop where
  lexes : Lexes t.chars [t]
  mem : ∀ c ∈ t.chars, c = '_' ∨ Text.isAsciiAlphanum c

theorem Varies.quiet {t : Token} (h : Varies t) : Quiet t.chars :=
  quiet_of_not_mem fun hmem => absurd (h.mem _ hmem) (by decide)

/-- The literal of a number. -/
def numeral (n : Nat) : Token := .literal (toString n).toList

theorem varies_numeral (n : Nat) : Varies (numeral n) := by
  have hchars : (toString n).toList = Nat.toDigits 10 n := by simp [toString, Nat.repr]
  have hdigits : ∀ c ∈ (toString n).toList, isDigit c ∧ Text.isAsciiAlphanum c := fun c hc => by
    have hdigit := Nat.isDigit_of_mem_toDigits (by decide) (by decide) (hchars ▸ hc)
    have hascii : Text.isAsciiDigit c := by simpa [Char.isDigit, Text.isAsciiDigit, Char.le_def] using hdigit
    exact ⟨hascii, by simp [Text.isAsciiAlphanum, hascii]⟩
  refine ⟨?_, fun c hc => .inr (hdigits c hc).2⟩
  obtain ⟨c, w, hcw⟩ := List.exists_cons_of_ne_nil (hchars ▸ Nat.toDigits_ne_nil : (toString n).toList ≠ [])
  rw [numeral, hcw]
  rw [hcw] at hdigits
  exact .number (hdigits c (List.mem_cons_self ..)).1 fun d hd => .inr (hdigits d hd).2

/-- A part that varies, between a space and a text that stops tokens. -/
theorem Varies.lexes_around {t : Token} (h : Varies t) {front x back : String} {us vs : List Token}
    (hx : x.toList = t.chars) (hspace : front.toList.getLast? = some ' ')
    (hfront : readsAlone front.toList.dropLast us) (hback : readsAlone back.toList vs) (hstop : Stops back.toList) :
    Lexes (front ++ x ++ back).toList (us ++ [t] ++ vs) := by
  have hpart : Lexes (' ' :: t.chars) [t] := .space (by decide) h.lexes
  have hbegin := (lexes_of_readsAlone hfront).append hpart (stops_cons.2 (by decide))
  have hwhole := hbegin.append (lexes_of_readsAlone hback) hstop
  have hsplit : front.toList.dropLast ++ [' '] = front.toList := List.dropLast_append_getLast? _ hspace
  rw [String.toList_append, String.toList_append, hx, ← hsplit, List.append_assoc _ [' '], List.singleton_append]
  exact hwhole

theorem Varies.quiet_around {t : Token} (h : Varies t) {us vs : List Token} (hus : Quiet (us.flatMap Token.chars))
    (hvs : Quiet (vs.flatMap Token.chars)) : Quiet ((us ++ [t] ++ vs).flatMap Token.chars) := by
  rw [List.flatMap_append, List.flatMap_append, List.flatMap_singleton]
  exact (hus.append h.quiet).append hvs

/-- The tokens that begin a loop. -/
def enterTokens : List Token := [
  word "while", word "tape", .opening .bracket, word "ptr", .closing .bracket, .mark ['!', '='], .literal ['0'],
  .opening .brace]

namespace Whole

variable {as bs : List Line}

theorem nil : Whole [] := ⟨[], .nil, rfl, .nil⟩

theorem append (ha : Whole as) (hb : Whole bs) : Whole (as ++ bs) := by
  obtain ⟨ts, has, hts, hquiet⟩ := ha
  obtain ⟨us, hbs, hus, hquiet'⟩ := hb
  refine ⟨ts ++ us, has.append hbs, ?_, ?_⟩
  · rw [← hus]
    exact balanced_append hts [] us
  · rw [List.flatMap_append]
    exact hquiet.append hquiet'

/-- A line of its own tokens. -/
theorem line (depth : Nat) {text : String} {us : List Token} (hne : us ≠ []) (h : Lexes text.toList us)
    (hus : balanced [] us) (hquiet : Quiet (us.flatMap Token.chars)) : Whole [⟨depth, text⟩] := by
  refine ⟨us ++ [], .code depth hne h .nil, ?_, ?_⟩ <;> rwa [List.append_nil]

/-- Whether a text is of its own tokens, with matching delimiters and without superfluous commas. -/
def isWhole (text : String) : Bool :=
  text.toList.all isPlain && (tokensWithin text.toList.length text.toList).any fun us =>
    us ≠ [] && us.all Token.isSolid && balanced [] us && Quiet (us.flatMap Token.chars)

theorem of_isWhole (depth : Nat) {text : String} (h : isWhole text) : Whole [⟨depth, text⟩] := by
  obtain ⟨hplain, h⟩ := Bool.and_eq_true_iff.1 h
  obtain ⟨us, hus, h⟩ := (Option.any_eq_true ..).1 h
  simp only [Bool.and_eq_true, decide_eq_true_eq] at h
  obtain ⟨⟨⟨hne, hsolid⟩, hbalanced⟩, hquiet⟩ := h
  refine line depth hne (lexes_of_readsAlone ?_) hbalanced hquiet
  simp only [readsAlone, hus, hplain, hsolid, decide_true, Bool.and_self]

theorem inward (depth : Nat) {lines : List Line} (h : ∀ l ∈ lines, isWhole l.text) :
    Whole (lines.map (·.inward depth)) := by
  induction lines with
  | nil => exact nil
  | cons l lines ih =>
    obtain ⟨hl, hlines⟩ := List.forall_mem_cons.1 h
    exact (of_isWhole _ hl).append (ih hlines)

/-- A step of the pointer, which has a number in it. -/
theorem step (depth n : Nat) : Whole ((rustDialect.move n).map (·.inward depth)) := by
  have hlexes : Lexes s!"ptr = (ptr + {n}) % TAPE_SIZE;".toList
      ([word "ptr", .mark ['='], .opening .parenthesis, word "ptr", .mark ['+']] ++ [numeral n] ++
        [.closing .parenthesis, .mark ['%'], word "TAPE_SIZE", .mark [';']]) :=
    (varies_numeral n).lexes_around rfl (by decide) (by decide +kernel) (by decide +kernel) (by decide)
  refine line _ ?_ hlexes rfl ?_
  · exact List.cons_ne_nil _ _
  · exact (varies_numeral n).quiet_around (by decide) (by decide)

theorem statement (size depth : Nat) (s : Statement) :
    Whole ((rustDialect.statement size s).map (·.inward depth)) := by
  have hfixed : ∀ lines ∈ [rustDialect.increment, rustDialect.decrement, rustDialect.write, rustDialect.read],
      ∀ l ∈ lines, isWhole l.text := by decide +kernel
  simp only [List.forall_mem_cons] at hfixed
  obtain ⟨hincrement, hdecrement, hwrite, hread, -⟩ := hfixed
  cases s with
  | increment => exact inward depth hincrement
  | decrement => exact inward depth hdecrement
  | move delta => exact step depth _
  | write => exact inward depth hwrite
  | read => exact inward depth hread
  | loopOpen => exact nil
  | loopClose => exact nil

/-- Whole lines between the two ends of a loop. -/
theorem loop {inner : List Line} (depth : Nat) (h : Whole inner) :
    Whole (linesAt depth rustDialect.enter ++ inner ++ linesAt depth rustDialect.leave) := by
  obtain ⟨ts, hinner, hts, hquiet⟩ := h
  have henter : Spells (linesAt depth rustDialect.enter) (enterTokens ++ []) :=
    .code depth (by decide) (lexes_of_readsAlone (by decide)) .nil
  have hleave : Spells (linesAt depth rustDialect.leave) ([.closing .brace] ++ []) :=
    .code depth (by decide) (lexes_of_readsAlone (by decide)) .nil
  refine ⟨_, (henter.append hinner).append hleave, ?_, ?_⟩
  · have hgroup : balanced [.brace] (ts ++ [.closing .brace]) = true := balanced_append hts [.brace] [.closing .brace]
    simpa [enterTokens, word, balanced] using hgroup
  · rw [List.flatMap_append, List.flatMap_append]
    exact (Quiet.append (by decide) hquiet).append (by decide)

/-- The statements of a function. -/
theorem forest (size depth : Nat) {bs : List Block} (h : Leaves (·.isBracket = false) bs) :
    Whole ((Reading.flatLayout rustDialect size).forest depth bs) := by
  induction h generalizing depth with
  | nil =>
    rw [Reading.Layout.forest_nil]
    exact nil
  | plain hs _ ih =>
    rw [Reading.Layout.forest_plain]
    exact (statement size depth _).append (ih depth)
  | @loop inner rest _ _ ihInner ihRest =>
    cases inner with
    | nil =>
      rw [Reading.Layout.forest_hollow]
      exact (loop depth nil).append (ihRest depth)
    | cons b inner =>
      rw [Reading.Layout.forest_loop]
      exact (loop depth (ihInner (depth + 1))).append (ihRest depth)

end Whole

/-! ### The module -/

/-- The word of a name. -/
def nameToken (name : String) : Token := .word name.toList

/-- A name that may be declared. -/
structure Declarable (name : String) : Prop where
  varies : Varies (nameToken name)
  notKeyword : isKeyword name.toList = false

def headTokens (name : String) : List Token :=
  [word "pub", word "mod"] ++ [nameToken name] ++ [.opening .brace]

def attributeTokens : List Token := [
  .mark ['#'], .mark ['!'], .opening .bracket, word "allow", .opening .parenthesis, word "unused_mut", .mark [','],
  word "unused_variables", .mark [','], word "unused_assignments", .closing .parenthesis, .closing .bracket]

def sizeTokens (size : Nat) : List Token :=
  [word "pub", word "const", word "TAPE_SIZE", .mark [':'], word "usize", .mark ['=']] ++ [numeral size] ++
    [.mark [';']]

/-- What stands between the name and the body of a function. -/
def signatureTokens : List Token := [
  .opening .parenthesis, word "input", .mark [':'], .mark ['&'], word "str", .closing .parenthesis, .mark ['-', '>'],
  word "String", .opening .brace]

/-- The tokens of a function, by its name and the tokens of its body. -/
def functionTokens (f : String × List Token) : List Token :=
  [word "pub", word "fn"] ++ [nameToken f.1] ++ signatureTokens ++ f.2 ++ [.closing .brace]

def moduleTokens (name : String) (size : Nat) (functions : List (String × List Token)) : List Token :=
  headTokens name ++ attributeTokens ++ sizeTokens size ++ functions.flatMap functionTokens ++ [.closing .brace]

section

variable {functions : List (String × List Token)}

/-- A function that may stand in a module. -/
def Admissible (f : String × List Token) : Prop :=
  Declarable f.1 ∧ balanced [] f.2

theorem identifier_nameToken {name : String} (h : Declarable name) (rest : List Token) :
    identifier (nameToken name :: rest) = .ok rest := by
  simp only [nameToken, identifier, h.notKeyword, Bool.false_eq_true, if_false]

theorem afterGroup_closing {ts : List Token} (h : balanced [] ts) (d : Delimiter) (rest : List Token) :
    afterGroup 0 (ts ++ .closing d :: rest) = rest :=
  afterGroup_append h 0 (.closing d :: rest)

theorem functionItem_eq_ok {f : String × List Token} (hf : Admissible f) (rest : List Token) :
    functionItem (nameToken f.1 :: (signatureTokens ++ (f.2 ++ .closing .brace :: rest))) = .ok rest := by
  unfold functionItem
  rw [identifier_nameToken hf.1]
  show Except.ok (afterGroup 0 (f.2 ++ .closing .brace :: rest)) = Except.ok rest
  rw [afterGroup_closing hf.2]

theorem itemsWithin_function {f : String × List Token} (hf : Admissible f) (n : Nat) (rest : List Token) :
    itemsWithin (n + 1) (functionTokens f ++ rest) = itemsWithin n rest := by
  have hitem := functionItem_eq_ok hf rest
  have htokens : functionTokens f ++ rest =
      word "pub" :: word "fn" :: nameToken f.1 :: (signatureTokens ++ (f.2 ++ .closing .brace :: rest)) := by
    simp [functionTokens]
  have hstep : itemsWithin (n + 1)
      (word "pub" :: word "fn" :: nameToken f.1 :: (signatureTokens ++ (f.2 ++ .closing .brace :: rest))) =
      (functionItem (nameToken f.1 :: (signatureTokens ++ (f.2 ++ .closing .brace :: rest)))).bind
        (itemsWithin n) := rfl
  rw [htokens, hstep, hitem]
  rfl

theorem itemsWithin_functions (h : ∀ f ∈ functions, Admissible f) (d : Delimiter) (rest : List Token) {n : Nat}
    (hn : functions.length < n) :
    itemsWithin n (functions.flatMap functionTokens ++ .closing d :: rest) = .ok (.closing d :: rest) := by
  induction functions generalizing n with
  | nil =>
    cases n with
    | zero => cases hn
    | succ n => rfl
  | cons f functions ih =>
    obtain ⟨hf, hfunctions⟩ := List.forall_mem_cons.1 h
    cases n with
    | zero => cases hn
    | succ n =>
      rw [List.flatMap_cons, List.append_assoc, itemsWithin_function hf]
      exact ih hfunctions (Nat.lt_of_succ_lt_succ hn)

theorem itemsWithin_size (size n : Nat) (rest : List Token) :
    itemsWithin (n + 1) (sizeTokens size ++ rest) = itemsWithin n rest := rfl

theorem length_le_length_functions (functions : List (String × List Token)) :
    functions.length ≤ (functions.flatMap functionTokens).length := by
  induction functions with
  | nil => exact Nat.le_refl _
  | cons f functions ih =>
    have hpositive : 0 < (functionTokens f).length := by simp [functionTokens]
    rw [List.flatMap_cons, List.length_append, List.length_cons]
    omega

theorem itemsWithin_module {name : String} (hname : Declarable name) (size : Nat)
    (h : ∀ f ∈ functions, Admissible f) {n : Nat} (hn : functions.length < n) :
    itemsWithin (n + 2) (moduleTokens name size functions) = .ok [] := by
  let inside := sizeTokens size ++ (functions.flatMap functionTokens ++ [.closing .brace])
  have hinside : itemsWithin (n + 1) inside = .ok [.closing .brace] := by
    rw [itemsWithin_size]
    exact itemsWithin_functions h .brace [] hn
  have htokens : moduleTokens name size functions =
      word "pub" :: word "mod" :: nameToken name :: .opening .brace :: (attributeTokens ++ inside) := by
    simp [moduleTokens, headTokens, inside]
  -- the attribute of the module is passed over
  have hbody : itemsWithin (n + 1) (afterInner (attributeTokens ++ inside)) = .ok [.closing .brace] := hinside
  rw [htokens, itemsWithin.eq_def]
  show (identifier (nameToken name :: .opening .brace :: (attributeTokens ++ inside)) >>= _) = _
  rw [identifier_nameToken hname]
  show (itemsWithin (n + 1) (afterInner (attributeTokens ++ inside)) >>= _) = _
  rw [hbody]
  rfl

/-- A module is well formed: it has more tokens than functions, so the steps of the check suffice. -/
theorem checkFile_moduleTokens {name : String} (hname : Declarable name) (size : Nat)
    (h : ∀ f ∈ functions, Admissible f) : checkFile (moduleTokens name size functions) = .ok () := by
  have hlength : functions.length + 3 ≤ (moduleTokens name size functions).length := by
    have hle := length_le_length_functions functions
    simp only [moduleTokens, headTokens, List.length_append, List.length_cons, List.length_nil]
    omega
  obtain ⟨n, hn⟩ := Nat.exists_eq_add_of_le hlength
  have hafter : afterInner (moduleTokens name size functions) = moduleTokens name size functions := rfl
  have hfuel : (moduleTokens name size functions).length + 1 = functions.length + n + 2 + 2 := by omega
  rw [checkFile, hafter, hfuel, itemsWithin_module hname size h (by omega)]
  rfl

/-- A module whose name may not be declared is rejected at its name. -/
theorem checkFile_of_isKeyword {name : String} (h : isKeyword name.toList = true) (rest : List Token) :
    checkFile (headTokens name ++ (attributeTokens ++ rest)) =
      .error (.expected (.identifierNot name.toList) false) := by
  have hafter : afterInner (headTokens name ++ (attributeTokens ++ rest)) =
      headTokens name ++ (attributeTokens ++ rest) := rfl
  have hname : identifier (nameToken name :: .opening .brace :: (attributeTokens ++ rest)) =
      .error (.expected (.identifierNot name.toList) false) := by
    simp only [nameToken, identifier, h, if_true]
  have htokens : headTokens name ++ (attributeTokens ++ rest) =
      word "pub" :: word "mod" :: nameToken name :: .opening .brace :: (attributeTokens ++ rest) := by
    simp [headTokens]
  rw [checkFile, hafter, htokens, itemsWithin.eq_def]
  show Except.map _ (identifier (nameToken name :: .opening .brace :: (attributeTokens ++ rest)) >>= _) = _
  rw [hname]
  rfl

theorem balanced_functionTokens {f : String × List Token} (h : balanced [] f.2) : balanced [] (functionTokens f) := by
  have hbody := balanced_append h [.brace] [.closing .brace]
  simpa [functionTokens, signatureTokens, nameToken, word, balanced] using hbody

theorem balanced_functions (h : ∀ f ∈ functions, Admissible f) : balanced [] (functions.flatMap functionTokens) := by
  induction functions with
  | nil => rfl
  | cons f functions ih =>
    obtain ⟨hf, hfunctions⟩ := List.forall_mem_cons.1 h
    rw [List.flatMap_cons, ← ih hfunctions]
    exact balanced_append (balanced_functionTokens hf.2) [] _

theorem balanced_moduleTokens (name : String) (size : Nat) (h : ∀ f ∈ functions, Admissible f) :
    balanced [] (moduleTokens name size functions) := by
  have hinside := balanced_append (balanced_functions h) [.brace] [.closing .brace]
  simpa [moduleTokens, headTokens, attributeTokens, sizeTokens, numeral, nameToken, word, balanced] using hinside

theorem quiet_functionTokens {f : String × List Token} (hname : Declarable f.1)
    (hbody : Quiet (f.2.flatMap Token.chars)) : Quiet ((functionTokens f).flatMap Token.chars) := by
  have hbegin : Quiet (([word "pub", word "fn"] ++ [nameToken f.1] ++ signatureTokens).flatMap Token.chars) :=
    hname.varies.quiet_around (by decide) (by decide)
  rw [functionTokens, List.flatMap_append, List.flatMap_append]
  exact (hbegin.append hbody).append (by decide)

theorem quiet_functions (h : ∀ f ∈ functions, Declarable f.1 ∧ Quiet (f.2.flatMap Token.chars)) :
    Quiet ((functions.flatMap functionTokens).flatMap Token.chars) := by
  induction functions with
  | nil => exact .nil
  | cons f functions ih =>
    obtain ⟨hf, hfunctions⟩ := List.forall_mem_cons.1 h
    rw [List.flatMap_cons, List.flatMap_append]
    exact (quiet_functionTokens hf.1 hf.2).append (ih hfunctions)

theorem quiet_moduleTokens {name : String} (hname : Varies (nameToken name)) (size : Nat)
    (h : ∀ f ∈ functions, Declarable f.1 ∧ Quiet (f.2.flatMap Token.chars)) :
    Quiet ((moduleTokens name size functions).flatMap Token.chars) := by
  have hhead : Quiet ((headTokens name).flatMap Token.chars) := hname.quiet_around (by decide) (by decide)
  have hsize : Quiet ((sizeTokens size).flatMap Token.chars) :=
    (varies_numeral size).quiet_around (by decide) (by decide)
  have hattribute : Quiet (attributeTokens.flatMap Token.chars) := by decide
  simp only [moduleTokens, List.flatMap_append]
  exact (((hhead.append hattribute).append hsize).append (quiet_functions h)).append (by decide)

end

/-! ### The lines of a module -/

section

variable {o : Options} {functions : List Function}

theorem whole_body {f : Function} (h : flattenAll (nest f.body) = f.body) (o : Options) :
    Whole (linesAt 2 ["let input = input.as_bytes();", "let mut tape = [0u8; TAPE_SIZE];",
        "let mut ptr: usize = 0;", "let mut input_pos: usize = 0;", "let mut output = String::new();"] ++
      rustDialect.flatLines o.tapeSize 2 false f.body ++ [⟨2, "output"⟩]) := by
  have hlets : ∀ l ∈ linesAt 0 ["let input = input.as_bytes();", "let mut tape = [0u8; TAPE_SIZE];",
      "let mut ptr: usize = 0;", "let mut input_pos: usize = 0;", "let mut output = String::new();"],
      Whole.isWhole l.text := by decide +kernel
  have hbody := Whole.forest o.tapeSize 2 (plain_leaves_nest f.body)
  rw [← Reading.flatLines_eq (plain_leaves_nest f.body), h] at hbody
  exact ((Whole.inward 2 hlets).append hbody).append (.of_isWhole 2 (by decide))

/-- Two functions with the same code, of sources that may have different names. -/
def SameCode (f g : Function) : Prop := f.name = g.name ∧ f.body = g.body

/-- A function is read as tokens that do not depend on the name of its source. -/
theorem exists_functionTokens {f : Function} (h : flattenAll (nest f.body) = f.body)
    (hname : Declarable (escapeWord rustKeywords f.name)) (o : Options) :
    ∃ body, balanced [] body ∧ Quiet (body.flatMap Token.chars) ∧
      ∀ g, SameCode f g → '\n' ∉ g.source.toList →
        Spells (rustFunction o g) (functionTokens (escapeWord rustKeywords f.name, body)) := by
  obtain ⟨body, hbody, hbalanced, hquiet⟩ := whole_body h o
  refine ⟨body, hbalanced, hquiet, ?_⟩
  rintro g ⟨hgname, hgbody⟩ hsource
  have hcomment : s!"// {g.source}".toList = '/' :: '/' :: ' ' :: g.source.toList := by
    rw [String.toList_append]
    rfl
  have hsignature : Lexes s!"pub fn {escapeWord rustKeywords g.name}(input: &str) -> String \x7b".toList
      ([word "pub", word "fn"] ++ [nameToken (escapeWord rustKeywords f.name)] ++ signatureTokens) := by
    rw [← hgname]
    exact hname.varies.lexes_around rfl (by decide) (by decide +kernel) (by decide +kernel) (by decide)
  have hclosing : Spells [⟨1, "\x7d"⟩] ([.closing .brace] ++ []) :=
    .code 1 (List.cons_ne_nil _ _) (lexes_of_readsAlone (by decide)) .nil
  have hlines := Spells.comment 1 hcomment hsource (.code 1 (by simp) hsignature (hbody.append hclosing))
  simpa only [rustFunction, functionTokens, hgbody, linesAt, List.map_cons, List.map_nil, List.append_assoc,
    List.cons_append, List.nil_append, List.append_nil] using hlines

/-- The functions of a module are read as tokens that do not depend on the names of the sources. -/
theorem exists_functionsTokens (h : ∀ f ∈ functions, flattenAll (nest f.body) = f.body ∧
      Declarable (escapeWord rustKeywords f.name)) (o : Options) :
    ∃ fs : List (String × List Token),
      (∀ f ∈ fs, Admissible f ∧ Quiet (f.2.flatMap Token.chars)) ∧
      ∀ functions', List.Forall₂ SameCode functions functions' → (∀ g ∈ functions', '\n' ∉ g.source.toList) →
        Spells (separated (rustFunction o) functions') (fs.flatMap functionTokens) := by
  induction functions with
  | nil =>
    refine ⟨[], fun _ => (nomatch ·), ?_⟩
    rintro _ ⟨⟩ -
    exact .nil
  | cons f functions ih =>
    obtain ⟨⟨hbody, hname⟩, hfunctions⟩ := List.forall_mem_cons.1 h
    obtain ⟨body, hbalanced, hquiet, hspells⟩ := exists_functionTokens hbody hname o
    obtain ⟨fs, hfs, hrest⟩ := ih hfunctions
    refine ⟨(escapeWord rustKeywords f.name, body) :: fs,
      List.forall_mem_cons.2 ⟨⟨⟨hname, hbalanced⟩, hquiet⟩, hfs⟩, ?_⟩
    rintro _ (_ | ⟨hsame, hsames⟩) hsources
    rw [List.forall_mem_cons] at hsources
    have hlines := (hspells _ hsame hsources.1).append (hrest _ hsames hsources.2)
    exact .blank hlines

/-- The attribute of a module, whose number sign is a token of its own whatever follows. -/
theorem lexes_attribute :
    Lexes "#![allow(unused_mut, unused_variables, unused_assignments)]".toList attributeTokens := by
  have hrest : Lexes "![allow(unused_mut, unused_variables, unused_assignments)]".toList attributeTokens.tail :=
    lexes_of_readsAlone (by decide +kernel)
  exact .token (t := .mark ['#']) (by decide) (fun _ _ => rfl) hrest

/-- A module is read as tokens that do not depend on the names of the sources, and is well formed if its own name may
be declared. -/
theorem exists_moduleTokens (hcontainer : Varies (nameToken (escapeWord rustKeywords (Name.snake o.container))))
    (h : ∀ f ∈ functions, flattenAll (nest f.body) = f.body ∧ Declarable (escapeWord rustKeywords f.name)) :
    ∃ ts, (∃ rest, ts = headTokens (escapeWord rustKeywords (Name.snake o.container)) ++ (attributeTokens ++ rest)) ∧
      balanced [] ts ∧
      (Declarable (escapeWord rustKeywords (Name.snake o.container)) → checkFile ts = .ok ()) ∧
      Quiet (ts.flatMap Token.chars) ∧ ∀ functions', List.Forall₂ SameCode functions functions' →
        (∀ g ∈ functions', '\n' ∉ g.source.toList) → Spells (rustModule o functions') ts := by
  obtain ⟨fs, hfs, hspells⟩ := exists_functionsTokens h o
  have hadmissible : ∀ f ∈ fs, Admissible f := fun f hf => (hfs f hf).1
  have hbegin : ∃ rest, moduleTokens (escapeWord rustKeywords (Name.snake o.container)) o.tapeSize fs =
      headTokens (escapeWord rustKeywords (Name.snake o.container)) ++ (attributeTokens ++ rest) := by
    simp only [moduleTokens, List.append_assoc]
    exact ⟨_, rfl⟩
  refine ⟨moduleTokens (escapeWord rustKeywords (Name.snake o.container)) o.tapeSize fs, hbegin,
    balanced_moduleTokens _ _ hadmissible, fun hname => checkFile_moduleTokens hname _ hadmissible,
    quiet_moduleTokens hcontainer _ fun f hf => ⟨(hfs f hf).1.1, (hfs f hf).2⟩, ?_⟩
  intro functions' hsame hsources
  have hhead : Lexes s!"pub mod {escapeWord rustKeywords (Name.snake o.container)} \x7b".toList
      (headTokens (escapeWord rustKeywords (Name.snake o.container))) :=
    hcontainer.lexes_around rfl (by decide) (by decide +kernel) (by decide +kernel) (by decide)
  have hsize : Lexes s!"pub const TAPE_SIZE: usize = {o.tapeSize};".toList (sizeTokens o.tapeSize) :=
    (varies_numeral o.tapeSize).lexes_around rfl (by decide) (by decide +kernel) (by decide +kernel) (by decide)
  have hclosing : Spells [⟨0, "\x7d"⟩] ([.closing .brace] ++ []) :=
    .code 0 (List.cons_ne_nil _ _) (lexes_of_readsAlone (by decide)) .nil
  have hlines := Spells.code 0 (by simp [headTokens]) hhead <| .code 1 (List.cons_ne_nil _ _) lexes_attribute <|
    .blank <| .code 1 (by simp [sizeTokens]) hsize <| (hspells functions' hsame hsources).append hclosing
  simpa only [rustModule, moduleTokens, attributeTokens, List.append_assoc, List.cons_append, List.nil_append,
    List.append_nil] using hlines

end

end TapeLang.Code.Reflow
