import TapeLang.Proofs.Reflow.Skeleton

/-!
# Names of sources stay in comments

The name of a source is written twice for its function, in the header of the file and in the comment at the function
(`surroundings`). Functions that differ only in the names of their sources are rendered to files with the same lines
but for these comments, which begin as comments do in both, if no name has a line feed (`sources_stay_in_comments`).
With a line feed in it a name is not kept in its comment: what follows is a line of its own (`source_leaves_comment`).
-/

namespace TapeLang.Code

open Reading (indentOf)

/-! ### Comments -/

/-- A text without line feeds. -/
def Unbroken (s : String) : Prop := '\n' ∉ s.toList

instance (s : String) : Decidable (Unbroken s) := inferInstanceAs (Decidable (¬ _))

theorem Unbroken.append {a b : String} (ha : Unbroken a) (hb : Unbroken b) : Unbroken (a ++ b) := by
  rw [Unbroken, String.toList_append, List.mem_append, not_or]
  exact ⟨ha, hb⟩

/-- What begins a line comment. -/
def marker : Target → String
  | .python => "#"
  | _ => "//"

/-- What begins a comment or a text that documents a function. -/
def openers : Target → List String
  | .python => ["#", "\"\"\""]
  | .java => ["//", "/**"]
  | .typescript => ["//", "/**"]
  | _ => ["//"]

/-- What stands around the name of a source in the header. -/
def headerComment (t : Target) (f : Function) : String × String :=
  (marker t ++ "   ", s!" ({f.digest})")

/-- What stands around the name of a source in the comment at its function. -/
def functionComment (t : Target) (f : Function) : String × String :=
  match t with
  | .rust => ("// ", "")
  | .python => ("\"\"\"Compiled from ", "\"\"\"")
  | .csharp => ("/// <summary>Compiled from ", "</summary>")
  | .go => (s!"// {goName f.name} is compiled from ", "")
  | .java => ("/** Compiled from ", " */")
  | .typescript => ("/** Compiled from ", " */")

/-- What stands around the name of a source, wherever it is written. -/
def surroundings (t : Target) (f : Function) : List (String × String) :=
  [headerComment t f, functionComment t f]

/-- The same function, up to the name of its source. -/
def Renamed (f g : Function) : Prop := ∃ source, g = { f with source := source }

/-- Two lines of files that are the same, or are the same comment on a function in one of the files and on its partner
in the other, behind characters of the indent `unit`. -/
inductive SameLine (t : Target) (unit : String) (pairs : List (Function × Function)) :
    List Char → List Char → Prop where
  | same (line : List Char) : SameLine t unit pairs line line
  | comment {margin : List Char} (hmargin : ∀ c ∈ margin, c ∈ unit.toList) {f g : Function} (h : (f, g) ∈ pairs)
      {front back opener : String} (hcomment : (front, back) ∈ surroundings t f) (hopener : opener ∈ openers t)
      (hfront : opener.toList <+: front.toList) :
      SameLine t unit pairs (margin ++ (front ++ f.source ++ back).toList)
        (margin ++ (front ++ g.source ++ back).toList)

/-- Two texts with the same lines, up to comments on the functions of `pairs`. -/
def SameLines (t : Target) (unit : String) (pairs : List (Function × Function)) (as bs : List Char) : Prop :=
  List.Forall₂ (SameLine t unit pairs) (as.splitOn '\n') (bs.splitOn '\n')

theorem exists_opener (t : Target) (f : Function) :
    ∀ p ∈ surroundings t f, ∃ opener ∈ openers t, opener.toList <+: p.1.toList := by
  have hmarker : marker t ∈ openers t := by cases t <;> decide
  have hheader : (marker t).toList <+: (marker t ++ "   ").toList := by
    rw [String.toList_append]
    exact List.prefix_append _ _
  refine List.forall_mem_cons.2 ⟨⟨_, hmarker, hheader⟩, List.forall_mem_singleton.2 ?_⟩
  cases t <;> dsimp only [functionComment]
  case rust => exact ⟨"//", by decide, by decide⟩
  case python => exact ⟨"\"\"\"", by decide, by decide⟩
  case csharp => exact ⟨"//", by decide, by decide⟩
  case java => exact ⟨"/**", by decide, by decide⟩
  case typescript => exact ⟨"/**", by decide, by decide⟩
  case go =>
    refine ⟨"//", by decide, ?_⟩
    have hopener : "//".toList <+: "// ".toList := by decide
    rw [String.toList_append, String.toList_append, List.append_assoc]
    exact hopener.trans (List.prefix_append _ _)

/-! ### Blocks of lines -/

section

variable {t : Target} {unit : String} {pairs : List (Function × Function)} {as bs cs ds : List Char}

theorem SameLines.refl (as : List Char) : SameLines t unit pairs as as :=
  List.forall₂_same.2 fun _ _ => .same _

/-- Lines are compared one by one. -/
theorem SameLines.append_feed (h : SameLines t unit pairs as bs) (hrest : SameLines t unit pairs cs ds) :
    SameLines t unit pairs (as ++ '\n' :: cs) (bs ++ '\n' :: ds) := by
  unfold SameLines
  rw [List.splitOn_append_cons_self, List.splitOn_append_cons_self]
  exact List.rel_append h hrest

/-- Texts of whole lines, which are the same in front of any lines that are. -/
def SameBlock (t : Target) (unit : String) (pairs : List (Function × Function)) (a b : String) : Prop :=
  ∀ cs ds, SameLines t unit pairs cs ds → SameLines t unit pairs (a.toList ++ cs) (b.toList ++ ds)

namespace SameBlock

variable {a b c d : String}

theorem empty : SameBlock t unit pairs "" "" := fun _ _ h => h

theorem append (h : SameBlock t unit pairs a b) (h' : SameBlock t unit pairs c d) :
    SameBlock t unit pairs (a ++ c) (b ++ d) := by
  intro cs ds hrest
  rw [String.toList_append, String.toList_append, List.append_assoc, List.append_assoc]
  exact h _ _ (h' _ _ hrest)

theorem feed (h : SameLines t unit pairs a.toList b.toList) : SameBlock t unit pairs (a ++ "\n") (b ++ "\n") := by
  intro cs ds hrest
  rw [String.toList_append, String.toList_append, List.append_assoc, List.append_assoc]
  exact h.append_feed hrest

theorem refl (h : a.toList.getLast? = some '\n') : SameBlock t unit pairs a a := by
  obtain ⟨front, hfront⟩ := List.getLast?_eq_some_iff.1 h
  intro cs ds hrest
  rw [hfront, List.append_assoc, List.append_assoc]
  exact (SameLines.refl _).append_feed hrest

theorem refl_append (a : String) (h : b.toList.getLast? = some '\n') : SameBlock t unit pairs (a ++ b) (a ++ b) := by
  refine refl ?_
  rw [String.toList_append, List.getLast?_append, h]
  rfl

theorem sameLines (h : SameBlock t unit pairs a b) : SameLines t unit pairs a.toList b.toList := by
  simpa using h [] [] (.refl [])

end SameBlock

/-! ### Lines of code -/

/-- Partners that differ in the name of the source, and are commented on in one line. -/
structure Twins (pairs : List (Function × Function)) (f g : Function) : Prop where
  mem : (f, g) ∈ pairs
  renamed : Renamed f g
  source : Unbroken f.source
  source' : Unbroken g.source
  digest : Unbroken f.digest
  name : Unbroken (goName f.name)

variable {f g : Function} {fs gs : List Function}

theorem Twins.unbroken (h : Twins pairs f g) (t : Target) :
    ∀ p ∈ surroundings t f, Unbroken (p.1 ++ f.source ++ p.2) ∧ Unbroken (p.1 ++ g.source ++ p.2) := by
  have hboth : ∀ {front back : String}, Unbroken front → Unbroken back →
      Unbroken (front ++ f.source ++ back) ∧ Unbroken (front ++ g.source ++ back) := fun hfront hback =>
    ⟨(hfront.append h.source).append hback, (hfront.append h.source').append hback⟩
  have hmarker : Unbroken (marker t ++ "   ") := by cases t <;> decide
  have hdigest : Unbroken s!" ({f.digest})" := .append (.append (by decide) h.digest) (by decide)
  refine List.forall_mem_cons.2 ⟨hboth hmarker hdigest, List.forall_mem_singleton.2 ?_⟩
  cases t <;> dsimp only [functionComment]
  case go => exact hboth (.append (.append (by decide) h.name) (by decide)) (by decide)
  all_goals exact hboth (by decide) (by decide)

/-- A comment on twins is one line, whatever the indent before it is made of. -/
theorem Twins.sameLines (h : Twins pairs f g) {front back : String} (hcomment : (front, back) ∈ surroundings t f)
    {margin : List Char} (hmargin : ∀ c ∈ margin, c ∈ unit.toList) :
    SameLines t unit pairs (margin ++ (front ++ f.source ++ back).toList)
      (margin ++ (front ++ g.source ++ back).toList) := by
  obtain ⟨hf, hg⟩ := h.unbroken t _ hcomment
  obtain ⟨opener, hopener, hfront⟩ := exists_opener t f _ hcomment
  -- a margin on one line with the comment
  have hline : ∀ margin : List Char, (∀ c ∈ margin, c ∈ unit.toList) → '\n' ∉ margin →
      SameLines t unit pairs (margin ++ (front ++ f.source ++ back).toList)
        (margin ++ (front ++ g.source ++ back).toList) := by
    intro margin hmargin hfeed
    unfold SameLines
    rw [List.splitOn_eq_singleton (by rw [List.mem_append, not_or]; exact ⟨hfeed, hf⟩),
      List.splitOn_eq_singleton (by rw [List.mem_append, not_or]; exact ⟨hfeed, hg⟩)]
    exact .cons (.comment hmargin h.mem hcomment hopener hfront) .nil
  by_cases hfeed : '\n' ∈ margin
  · -- the comment is on the last line of the margin
    obtain ⟨after, before, heq, hafter⟩ := List.eq_append_cons_of_mem (List.mem_reverse.2 hfeed)
    obtain rfl : margin = before.reverse ++ '\n' :: after.reverse := by
      rw [← List.reverse_reverse margin, heq]
      simp
    rw [List.append_assoc, List.append_assoc, List.cons_append, List.cons_append]
    exact (SameLines.refl _).append_feed (hline _ (fun c hc => hmargin c (by simp_all)) (by simpa using hafter))
  · exact hline margin hmargin hfeed

/-- Two lines of code that are the same, or are one comment on twins. -/
inductive SameCodeLine (t : Target) (pairs : List (Function × Function)) : Line → Line → Prop where
  | same (l : Line) : SameCodeLine t pairs l l
  | comment (depth : Nat) {f g : Function} (h : Twins pairs f g) {front back : String}
      (hcomment : (front, back) ∈ surroundings t f) :
      SameCodeLine t pairs ⟨depth, front ++ f.source ++ back⟩ ⟨depth, front ++ g.source ++ back⟩

theorem comment_ne_empty {front back : String} (hcomment : (front, back) ∈ surroundings t f) (source : String) :
    front ++ source ++ back ≠ "" := by
  obtain ⟨opener, hopener, hfront⟩ := exists_opener t f _ hcomment
  have hne : ∀ opener ∈ openers t, opener.toList ≠ [] := by cases t <;> decide
  intro h
  have hempty : front = "" := by simp_all
  rw [hempty] at hfront
  exact hne _ hopener (List.prefix_nil.1 hfront)

theorem SameCodeLine.sameBlock {l l' : Line} (h : SameCodeLine t pairs l l') {u : String}
    (hu : ∀ c ∈ u.toList, c ∈ unit.toList) : SameBlock t unit pairs (writeLines u [l]) (writeLines u [l']) := by
  have hchars : ∀ l : Line, (writeLines u [l]).toList = l.chars u := fun l => by simp [writeLines]
  intro cs ds hrest
  rw [hchars, hchars]
  cases h with
  | same =>
    obtain ⟨line, hline⟩ := exists_chars_eq_concat u l
    rw [hline, List.append_assoc, List.append_assoc]
    exact (SameLines.refl line).append_feed hrest
  | comment depth h hcomment =>
    have hmargin : ∀ c ∈ (List.replicate depth u.toList).flatten, c ∈ unit.toList := by
      intro c hc
      obtain ⟨w, hw, hcw⟩ := List.mem_flatten.1 hc
      exact hu c (List.eq_of_mem_replicate hw ▸ hcw)
    rw [Line.chars, Line.chars, if_neg (comment_ne_empty hcomment _), if_neg (comment_ne_empty hcomment _),
      List.append_assoc _ ['\n'], List.append_assoc _ ['\n']]
    exact (h.sameLines hcomment hmargin).append_feed hrest

theorem sameBlock_writeLines {lines lines' : List Line} (h : List.Forall₂ (SameCodeLine t pairs) lines lines')
    {u : String} (hu : ∀ c ∈ u.toList, c ∈ unit.toList) :
    SameBlock t unit pairs (writeLines u lines) (writeLines u lines') := by
  induction h with
  | nil => exact .empty
  | @cons l l' lines lines' hline _ ih =>
    rw [writeLines_cons u l, writeLines_cons u l']
    exact (hline.sameBlock hu).append ih

/-! ### Functions and headers -/

theorem SameCodeLine.of_eq (h : Twins pairs f g) {p : String × String} (hp : p ∈ surroundings t f) (depth : Nat)
    {a b : String} (ha : a = p.1 ++ f.source ++ p.2) (hb : b = p.1 ++ g.source ++ p.2) :
    SameCodeLine t pairs ⟨depth, a⟩ ⟨depth, b⟩ := by
  rw [ha, hb]
  exact .comment depth h hp

theorem functionComment_mem (t : Target) (f : Function) : functionComment t f ∈ surroundings t f :=
  List.mem_cons_of_mem _ (List.mem_singleton_self _)

theorem sameCode_refl (lines : List Line) : List.Forall₂ (SameCodeLine t pairs) lines lines :=
  List.forall₂_same.2 fun _ _ => .same _

theorem sameCode_separated {lines : Function → List Line} (h : List.Forall₂ (Twins pairs) fs gs)
    (hlines : ∀ {f g}, Twins pairs f g → List.Forall₂ (SameCodeLine t pairs) (lines f) (lines g)) :
    List.Forall₂ (SameCodeLine t pairs) (separated lines fs) (separated lines gs) := by
  induction h with
  | nil => exact .nil
  | cons htwins _ ih => exact List.rel_append (.cons (.same _) (hlines htwins)) ih

/-- The lines of a function with the comment at it, for the targets that have no template. -/
def commentedLines (t : Target) (o : Options) (f : Function) : List Line :=
  match t with
  | .rust => rustFunction o f
  | .python => pythonFunction o f
  | .csharp => csharpFunction o f
  | .go => goFunction o f
  | .java => javaFunction o f
  | .typescript => []

/-- The lines of a file behind its header, for the targets that have no template. -/
def fileLines (t : Target) (o : Options) (fs : List Function) : List Line :=
  match t with
  | .rust => rustModule o fs
  | .python => pythonModule o fs
  | .csharp => csharpClass o fs
  | .go => goPackage o fs
  | .java => javaClass o fs
  | .typescript => []

theorem sameCode_commentedLines (t : Target) (o : Options) (h : Twins pairs f g) :
    List.Forall₂ (SameCodeLine t pairs) (commentedLines t o f) (commentedLines t o g) := by
  have hcomment (depth : Nat) {a b : String} := SameCodeLine.of_eq (a := a) (b := b) h (functionComment_mem t f) depth
  have hempty (a : String) : a = a ++ "" := String.append_empty.symm
  obtain ⟨source, rfl⟩ := h.renamed
  cases t with
  | rust => exact .cons (hcomment 1 (hempty _) (hempty _)) (sameCode_refl _)
  | python => exact .cons (.same _) (.cons (.same _) (.cons (hcomment 2 rfl rfl) (sameCode_refl _)))
  | csharp => exact .cons (hcomment 1 rfl rfl) (sameCode_refl _)
  | go => exact .cons (hcomment 0 (hempty _) (hempty _)) (sameCode_refl _)
  | java =>
    -- the comment stands at both overloads
    exact .cons (hcomment 1 rfl rfl) <| .cons (.same _) <| .cons (.same _) <| .cons (.same _) <| .cons (.same _) <|
      .cons (hcomment 1 rfl rfl) (sameCode_refl _)
  | typescript => exact .nil

theorem sameCode_fileLines (t : Target) (o : Options) (h : List.Forall₂ (Twins pairs) fs gs) :
    List.Forall₂ (SameCodeLine t pairs) (fileLines t o fs) (fileLines t o gs) := by
  have hseparated {fs gs} (h : List.Forall₂ (Twins pairs) fs gs) := sameCode_separated h (sameCode_commentedLines t o)
  cases t with
  | rust => exact List.rel_append (List.rel_append (sameCode_refl _) (hseparated h)) (sameCode_refl _)
  | python =>
    refine List.rel_append (sameCode_refl _) ?_
    cases h with
    | nil => exact sameCode_refl _
    | cons htwins hrest => exact List.rel_append (sameCode_commentedLines .python o htwins) (hseparated hrest)
  | csharp => exact List.rel_append (List.rel_append (sameCode_refl _) (hseparated h)) (sameCode_refl _)
  | go => exact List.rel_append (sameCode_refl _) (hseparated h)
  | java => exact List.rel_append (List.rel_append (sameCode_refl _) (hseparated h)) (sameCode_refl _)
  | typescript => exact .nil

theorem sameCode_provenanceHeader (t : Target) (h : List.Forall₂ (Twins pairs) fs gs) :
    List.Forall₂ (SameCodeLine t pairs) (provenanceHeader (marker t) fs) (provenanceHeader (marker t) gs) := by
  have htext : ∀ f : Function, ∀ source : String, marker t ++ " " ++ s!"  {source} ({f.digest})" =
      (headerComment t f).1 ++ source ++ (headerComment t f).2 := by
    intro f source
    have hspaces : "   " = " " ++ "  " := rfl
    rw [headerComment, hspaces]
    simp only [String.append_assoc]
    rfl
  simp only [provenanceHeader, provenanceLines, linesAt, List.map_append, List.map_cons, List.map_map]
  refine List.rel_append (List.rel_append (.cons (.same _) ?_) (sameCode_refl _)) (sameCode_refl _)
  refine List.forall₂_map_left_iff.2 (List.forall₂_map_right_iff.2 (h.imp fun f g htwins => ?_))
  obtain ⟨source, rfl⟩ := htwins.renamed
  exact .of_eq htwins (List.mem_cons_self ..) 0 (htext f f.source) (htext f source)

/-- The header of a file, if there is to be one. -/
theorem sameBlock_header (t : Target) (o : Options) (h : List.Forall₂ (Twins pairs) fs gs) :
    SameBlock t unit pairs (writeLines "" (headerLines o (marker t) fs))
      (writeLines "" (headerLines o (marker t) gs)) := by
  unfold headerLines
  split
  · exact sameBlock_writeLines (sameCode_provenanceHeader t h) fun _ => (nomatch ·)
  · exact .empty

theorem sameLines_withHeader (o : Options) (h : List.Forall₂ (Twins pairs) fs gs) {text text' : String}
    (htext : SameLines t unit pairs text.toList text'.toList) :
    SameLines t unit pairs (withHeader o (marker t) fs text).toList (withHeader o (marker t) gs text').toList := by
  rw [withHeader, withHeader, String.toList_append, String.toList_append]
  exact sameBlock_header t o h _ _ htext

/-! ### The class template -/

/-- Results that fail alike, or are both there and related. -/
inductive Alike {ε α : Type} (R : α → α → Prop) : Except ε α → Except ε α → Prop where
  | error (e : ε) : Alike R (.error e) (.error e)
  | ok {a b : α} (h : R a b) : Alike R (.ok a) (.ok b)

namespace Alike

variable {ε α β : Type} {R : α → α → Prop} {S : β → β → Prop} {x y : Except ε α}

theorem refl (x : Except ε α) : Alike (· = ·) x x := by
  cases x with
  | error e => exact .error e
  | ok a => exact .ok rfl

theorem bind (h : Alike R x y) {p q : α → Except ε β} (hpq : ∀ a b, R a b → Alike S (p a) (q b)) :
    Alike S (x >>= p) (y >>= q) := by
  cases h with
  | error e => exact .error e
  | ok h => exact hpq _ _ h

end Alike

theorem alike_concat {F : Value → Except TemplateError String} {vs ws : List Value}
    (h : List.Forall₂ (fun v w => Alike (SameBlock t unit pairs) (F v) (F w)) vs ws) :
    Alike (SameBlock t unit pairs) (Template.concat F vs) (Template.concat F ws) := by
  induction h with
  | nil => exact .ok .empty
  | cons hfirst _ ih => exact hfirst.bind fun a b hab => ih.bind fun c d hcd => .ok (hab.append hcd)

/-- A comment on twins behind two spaces, as the template writes it. -/
theorem sameBlock_comment (h : Twins pairs f g) :
    SameBlock .typescript "  " pairs ("  /** Compiled from " ++ f.source ++ " */\n")
      ("  /** Compiled from " ++ g.source ++ " */\n") := by
  have htext : ∀ source : String, "  /** Compiled from " ++ source ++ " */\n" =
      "  " ++ ((functionComment .typescript f).1 ++ source ++ (functionComment .typescript f).2) ++ "\n" := by
    intro source
    have hfront : "  /** Compiled from " = "  " ++ "/** Compiled from " := by decide
    have hback : " */\n" = " */" ++ "\n" := by decide
    rw [hfront, hback]
    simp only [functionComment, String.append_assoc]
  have hline := h.sameLines (functionComment_mem .typescript f) fun _ (hc : _ ∈ "  ".toList) => hc
  rw [← String.toList_append, ← String.toList_append] at hline
  rw [htext, htext]
  exact .feed hline

theorem alike_method (o : Options) (h : Twins pairs f g) :
    Alike (SameBlock .typescript "  " pairs) (Template.method (typescriptFunction o f))
      (Template.method (typescriptFunction o g)) := by
  have hcomment := sameBlock_comment h
  obtain ⟨source, rfl⟩ := h.renamed
  -- the lines of the body are the same, and so is the error at one that cannot be written
  refine (Alike.refl (Template.itemsAt 20 _)).bind fun items _ hitems => ?_
  subst hitems
  refine (Alike.refl (Template.concat Template.bodyLine items)).bind fun body _ hbody => .ok ?_
  subst hbody
  have hmethod := hcomment.append <| SameBlock.refl_append
    ("  static " ++ Value.written ((typescriptFunction o f).field? "name") ++ "(input: string = \"\"): string \x7b\n" ++
      "    const tape = new Uint8Array(TAPE_SIZE);\n" ++ "    let ptr = 0;\n" ++ "    let inputPos = 0;\n" ++
      "    let output = \"\";\n" ++ body ++ "    return output;\n") (b := "  \x7d\n") (by decide)
  simp only [← String.append_assoc] at hmethod
  exact hmethod

/-- The methods of a class, and the empty lines between them. -/
theorem alike_methods (o : Options) (h : List.Forall₂ (Twins pairs) fs gs) :
    Alike (SameBlock .typescript "  " pairs) (Template.methods (fs.map (typescriptFunction o)))
      (Template.methods (gs.map (typescriptFunction o))) := by
  cases h with
  | nil => exact .ok .empty
  | cons htwins hrest =>
    refine (alike_method o htwins).bind fun a b hab => ?_
    refine Alike.bind (alike_concat ?_) fun c d hcd => .ok (hab.append hcd)
    refine List.forall₂_map_left_iff.2 (List.forall₂_map_right_iff.2 (hrest.imp fun f g htwins => ?_))
    exact (alike_method o htwins).bind fun c d hcd => .ok (.append (SameBlock.refl (by decide)) hcd)

/-- The template writes the same header as the other targets have. -/
theorem header_eq (o : Options) (fs : List Function) :
    Template.header (typescriptContext o fs) = .ok (writeLines "" (headerLines o "//" fs)) := by
  have hline : ∀ l : String, "// " ++ l ++ "\n" = writeLines "" [⟨0, "//" ++ " " ++ l⟩] := by
    intro l
    apply String.toList_injective
    simp [writeLines, Line.chars]
  have hconcat : ∀ lines : List String,
      Template.concat (fun v => .ok ("// " ++ Value.written (some v) ++ "\n")) (lines.map .text) =
        .ok (writeLines "" (linesAt 0 (lines.map fun l => "//" ++ " " ++ l))) := by
    intro lines
    induction lines with
    | nil => rfl
    | cons l lines ih =>
      rw [List.map_cons, Template.concat, ih]
      show Except.ok ("// " ++ l ++ "\n" ++ _) = _
      rw [hline, ← writeLines_append]
      rfl
  cases hprovenance : o.provenance with
  | false =>
    simp [Template.header, typescriptContext, Value.field?, Value.isTrue, headerLines, hprovenance]
    rfl
  | true =>
    have hfield : (typescriptContext o fs).field? "provenance" = some (.list ((provenanceLines fs).map .text)) := by
      simp [typescriptContext, Value.field?, hprovenance]
    have htrue : Value.isTrue (some (.list ((provenanceLines fs).map .text))) = true := rfl
    have hblank : writeLines "" [.blank] = "\n" := by decide
    rw [Template.header, hfield, if_pos htrue]
    show (Template.concat _ ((provenanceLines fs).map .text) >>= _) = _
    rw [hconcat, headerLines, if_pos hprovenance, provenanceHeader, writeLines_append, hblank]
    rfl

theorem alike_typescript (o : Options) (h : List.Forall₂ (Twins pairs) fs gs) :
    Alike (fun a b => SameLines .typescript "  " pairs a.toList b.toList) (Template.render (typescriptContext o fs))
      (Template.render (typescriptContext o gs)) := by
  have hheader := @sameBlock_header "  " pairs fs gs .typescript o h
  rw [Template.render_eq, Template.render_eq, header_eq, header_eq, Reading.itemsAt_functions,
    Reading.itemsAt_functions]
  refine (alike_methods o h).bind fun a b hab => .ok ?_
  have htop := hheader.append <| SameBlock.refl_append
    ("export const TAPE_SIZE = " ++ Value.written (some (.int o.tapeSize)) ++ ";\n" ++ "\n" ++ "export class " ++
      o.container) (b := " \x7b\n") (by decide)
  have hmodule := (htop.append hab).append (SameBlock.refl (a := "\x7d\n") (by decide))
  simp only [← String.append_assoc] at hmodule
  exact hmodule.sameLines

/-! ### Files -/

theorem unbroken_digest (text : String) : Unbroken (Digest.ofText text) := by
  have hdigit : ∀ n < 16, Digest.hexDigit n ≠ '\n' := by decide
  have hhex : ∀ bytes, Unbroken (Digest.hex bytes) := by
    intro bytes hfeed
    rw [Digest.hex, String.toList_ofList] at hfeed
    obtain ⟨b, -, hb⟩ := List.mem_flatMap.1 hfeed
    have hbound : b.toNat < 256 := b.toNat_lt
    rcases List.mem_pair.1 hb with h | h
    · exact hdigit _ (by omega) h.symm
    · exact hdigit _ (by omega) h.symm
  exact .append (by decide) (hhex _)

variable {units : List (String × String)}

/-- What is written in comments besides the names of sources is on one line. -/
theorem unbroken_of_mem (hf : f ∈ (compileAll (units.map fun u => .ofText u.1 u.2)).functions) :
    Unbroken f.digest ∧ Unbroken (goName f.name) := by
  obtain ⟨c, rest, hname, hc, hrest⟩ := startsWithLetter_declaredName .go .standard hf
  refine ⟨?_, ?_⟩
  · obtain ⟨s, hs, hcompile⟩ := exists_source_of_mem hf
    obtain ⟨u, -, rfl⟩ := List.mem_map.1 hs
    obtain ⟨-, name, -, rfl⟩ := compile_eq_ok.1 hcompile
    exact unbroken_digest u.2
  · intro hfeed
    have hmem : '\n' ∈ c :: rest := hname ▸ hfeed
    rcases List.mem_cons.1 hmem with rfl | hmem
    · exact absurd hc (by decide)
    · exact absurd (hrest _ hmem) (by decide)

theorem forall₂_twins {base : List Function} (hbase : ∀ f ∈ base, Unbroken f.digest ∧ Unbroken (goName f.name))
    (hf : List.Forall₂ Renamed base fs) (hg : List.Forall₂ Renamed base gs) (hfs : ∀ f ∈ fs, Unbroken f.source)
    (hgs : ∀ g ∈ gs, Unbroken g.source) (hpairs : ∀ p ∈ fs.zip gs, p ∈ pairs) :
    List.Forall₂ (Twins pairs) fs gs := by
  induction hf generalizing gs with
  | nil =>
    cases hg
    exact .nil
  | cons hfirst _ ih =>
    obtain ⟨source, rfl⟩ := hfirst
    obtain ⟨hdigest, hname⟩ := hbase _ (List.mem_cons_self ..)
    cases hg with
    | cons hsecond hg =>
      obtain ⟨source', rfl⟩ := hsecond
      rw [List.zip_cons_cons] at hpairs
      rw [List.forall_mem_cons] at hbase hfs hgs hpairs
      exact .cons ⟨hpairs.1, ⟨source', rfl⟩, hfs.1, hgs.1, hdigest, hname⟩ (ih hbase.2 hg hfs.2 hgs.2 hpairs.2)

/-- A file without a template and a layout of its own is its header and its lines. -/
theorem render_eq {o : Options} (ht : t ≠ .typescript) (hreflow : t = .rust → o.reflow = false) (fs : List Function) :
    render t o fs = .ok (withHeader o (marker t) fs (writeLines (indentOf t o) (fileLines t o fs))) := by
  cases t with
  | rust => exact render_rust_plain (hreflow rfl) fs
  | python => exact render_python o fs
  | csharp => exact render_csharp o fs
  | typescript => exact absurd rfl ht
  | go => exact render_go o fs
  | java => exact render_java o fs

/-- Every line of such a file stands in its rendering. -/
theorem infix_of_mem_fileLines {o : Options} {text : String} (ht : t ≠ .typescript)
    (hreflow : t = .rust → o.reflow = false) {fs : List Function} (h : render t o fs = .ok text) {l : Line}
    (hl : l ∈ fileLines t o fs) :
    (writeLines (indentOf t o) [l]).toList <:+: text.toList := by
  obtain rfl := Except.ok.inj ((render_eq ht hreflow fs).symm.trans h)
  exact (Reading.infix_writeLines_singleton hl).trans (Reading.infix_withHeader ..)

/-- The layout of Rust code does not depend on the names of the sources. -/
theorem exists_reflow_eq {o : Options} (hcontainer : Name.isIdentifier o.container = true)
    (hindent : ∀ c ∈ o.indent.toList, Reflow.isSpace c) :
    ∃ result, ∀ fs, List.Forall₂ Renamed (compileAll (units.map fun u => .ofText u.1 u.2)).functions fs →
      (∀ f ∈ fs, Unbroken f.source) → Reflow.reflow (writeLines o.indent (rustModule o fs)) = result := by
  obtain ⟨ts, -, hbalanced, -, -, hspells⟩ := @exists_batchTokens (units.map fun u => .ofText u.1 u.2) o hcontainer
  refine ⟨_, fun fs hrenamed hsources => (hspells fs (hrenamed.imp ?_) hsources).reflow_eq hbalanced hindent⟩
  rintro f _ ⟨source, rfl⟩
  exact ⟨rfl, rfl⟩

/-- A batch is rendered alike under any names of its sources without line feeds: both times with the same error, or to
files with the same lines but for the comments that name the sources, which begin as comments do in both. -/
theorem sources_stay_in_comments (t : Target) (o : Options)
    (hreflow : t = .rust → o.reflow = true →
      Name.isIdentifier o.container = true ∧ ∀ c ∈ o.indent.toList, Reflow.isSpace c)
    (hf : List.Forall₂ Renamed (compileAll (units.map fun u => .ofText u.1 u.2)).functions fs)
    (hg : List.Forall₂ Renamed (compileAll (units.map fun u => .ofText u.1 u.2)).functions gs)
    (hfs : ∀ f ∈ fs, Unbroken f.source) (hgs : ∀ g ∈ gs, Unbroken g.source) :
    Alike (fun a b => SameLines t (indentOf t o) (fs.zip gs) a.toList b.toList) (render t o fs) (render t o gs) := by
  have htwins := forall₂_twins (fun f => unbroken_of_mem) hf hg hfs hgs fun _ hp => hp
  by_cases ht : t = .typescript
  · subst ht
    have htemplate := alike_typescript o htwins
    rw [render, render]
    generalize Template.render (typescriptContext o fs) = x, Template.render (typescriptContext o gs) = y at htemplate
    cases htemplate with
    | error e => exact .error _
    | ok h => exact .ok h
  by_cases hrust : t = .rust ∧ o.reflow = true
  · obtain ⟨rfl, hlayout⟩ := hrust
    obtain ⟨hcontainer, hindent⟩ := hreflow rfl hlayout
    obtain ⟨result, hresult⟩ := @exists_reflow_eq units o hcontainer hindent
    rw [render_rust, render_rust, if_pos hlayout, if_pos hlayout, hresult fs hf hfs, hresult gs hg hgs]
    cases result with
    | error e => exact .error _
    | ok text => exact .ok (sameLines_withHeader o htwins (.refl _))
  · have hplain : t = .rust → o.reflow = false := fun h => by simpa [h] using hrust
    rw [render_eq ht hplain, render_eq ht hplain]
    exact .ok (sameLines_withHeader o htwins
      (sameBlock_writeLines (sameCode_fileLines t o htwins) fun _ hc => hc).sameLines)

end

/-- Rust code in the standard layout, for a source whose other name closes a block comment. -/
theorem sources_stay_in_comments_of_closing :
    let functions := (compileAll [.ofText "a.bf" "+"]).functions
    let renamed := functions.map fun f => { f with source := "*/ a.bf" }
    ∃ a b, render .rust .standard functions = .ok a ∧ render .rust .standard renamed = .ok b ∧
      SameLines .rust "    " (functions.zip renamed) a.toList b.toList := by
  intro functions renamed
  have hidentifier : Name.isIdentifier Options.standard.container = true := by decide
  have hspaces : ∀ c ∈ Options.standard.indent.toList, Reflow.isSpace c := List.all_eq_true.1 (by decide)
  have hfunctions : ∀ f ∈ functions, Unbroken f.source := by decide
  have hf : List.Forall₂ Renamed functions functions := List.forall₂_same.2 fun f _ => ⟨f.source, rfl⟩
  have hg : List.Forall₂ Renamed functions renamed :=
    List.forall₂_map_right_iff.2 (List.forall₂_same.2 fun f _ => ⟨_, rfl⟩)
  have halike := @sources_stay_in_comments _ _ [("a.bf", "+")] .rust .standard (fun _ _ => ⟨hidentifier, hspaces⟩) hf hg
    hfunctions (by decide)
  obtain ⟨ts, -, hbalanced, hcheck, -, hspells⟩ := @exists_batchTokens [.ofText "a.bf" "+"] .standard hidentifier
  have hreflow := (hspells functions (List.forall₂_same.2 fun _ _ => ⟨rfl, rfl⟩) hfunctions).reflow_eq hbalanced hspaces
  rw [hcheck (by decide)] at hreflow
  have hrender := render_rust_reflow rfl hreflow
  rw [hrender] at halike ⊢
  generalize render .rust .standard renamed = result at halike ⊢
  cases halike with
  | ok h => exact ⟨_, _, rfl, rfl, h⟩

/-- A Python function whose source has a line feed in its name: the rest of the name is a line of code. -/
theorem source_leaves_comment :
    let o : Options := ⟨"BF", 256, false, true, "    "⟩
    let functions := (compileAll [.ofText "x\"\"\"\n        import os#.bf" "+"]).functions
    let renamed := functions.map fun f => { f with source := "x.bf" }
    ∃ a b, render .python o functions = .ok a ∧ render .python o renamed = .ok b ∧
      ¬ SameLines .python "    " (functions.zip renamed) a.toList b.toList ∧
      "        import os#.bf\"\"\"".toList ∈ a.toList.splitOn '\n' := by
  intro o functions renamed
  have hlength : ∀ {as bs : List Char}, (as.splitOn '\n').length ≠ (bs.splitOn '\n').length →
      ¬ SameLines .python "    " (functions.zip renamed) as bs := fun hne h => hne h.length_eq
  have htext : ∀ lines, (writeLines "    " lines).toList = lines.flatMap (·.chars "    ") :=
    fun _ => String.toList_ofList
  refine ⟨_, _, rfl, rfl, ?_⟩
  simp only [o, htext]
  exact ⟨hlength (by decide +kernel), by decide +kernel⟩

end TapeLang.Code
