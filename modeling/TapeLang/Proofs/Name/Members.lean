import TapeLang.Proofs.Name.Clash
import TapeLang.Proofs.SourceNames

/-!
# Members of a C# class

A C# class may not have a member of its own name or two members of one name. The methods have different names, none of
which is that of the constant. An underscore keeps a method from the names of the class and of the constant, which
leaves two classes with a clash: `TapeSize`, which is named like the constant, and `TapeSize_`, which is named like the
method of a function `tape_size` (`memberNames_nodup_iff`).
-/

namespace TapeLang

namespace Name

open Text (isAsciiDigit)

/-! ### Names without digits -/

section

variable {cs : List Char}

theorem mem_of_mem_joinDigits {c : Char} (h : c ∈ joinDigits cs) : c ∈ cs := by
  induction cs with
  | nil => exact h
  | cons d cs ih =>
    rw [joinDigits] at h
    split at h
    · exact List.mem_cons_of_mem _ (ih h)
    · exact (List.mem_cons.1 h).elim (fun h => h ▸ List.mem_cons_self ..) fun h => List.mem_cons_of_mem _ (ih h)

/-- An underscore is left out only in front of a digit, which stays. -/
theorem joinDigits_eq_self (h : ∀ c ∈ joinDigits cs, isAsciiDigit c = false) : joinDigits cs = cs := by
  induction cs with
  | nil => rfl
  | cons c cs ih =>
    rw [joinDigits] at h ⊢
    by_cases hcut : c = '_' ∧ cs.head?.any isAsciiDigit
    · rw [if_pos hcut] at h
      cases cs with
      | nil => simp at hcut
      | cons d ds =>
        have hd : isAsciiDigit d = true := by simpa using hcut.2
        have hstay : d ∈ joinDigits (d :: ds) := by
          have hne : ¬ (d = '_' ∧ ds.head?.any isAsciiDigit) := by
            rintro ⟨rfl, -⟩
            revert hd
            decide
          rw [joinDigits, if_neg hne]
          exact List.mem_cons_self ..
        rw [h d hstay] at hd
        cases hd
    · rw [if_neg hcut] at h ⊢
      rw [ih fun d hd => h d (List.mem_cons_of_mem _ hd)]

end

/-- A name without digits is known from its Pascal case. -/
theorem Canonical.eq_of_pascal_eq {a b : String} (ha : Canonical a.toList) (hb : Canonical b.toList)
    (hdigits : ∀ c ∈ b.toList, isAsciiDigit c = false) (h : pascal a = pascal b) : a = b := by
  have hself : joinDigits b.toList = b.toList :=
    joinDigits_eq_self fun c hc => hdigits c (mem_of_mem_joinDigits hc)
  have hjoined : joinDigits a.toList = b.toList := ((pascal_eq_iff ha hb).1 h).trans hself
  have hself' : joinDigits a.toList = a.toList := joinDigits_eq_self (hjoined ▸ hdigits)
  exact String.toList_injective (hself'.symm.trans hjoined)

theorem pascal_eq_tapeSize_iff {a : String} (ha : Canonical a.toList) : pascal a = "TapeSize" ↔ a = "tape_size" := by
  have htape : identifier? "tape_size" = some "tape_size" := by decide
  have hpascal : pascal "tape_size" = "TapeSize" := by decide
  have hdigits : ∀ c ∈ "tape_size".toList, isAsciiDigit c = false := by simp [isAsciiDigit]
  constructor
  · intro h
    exact ha.eq_of_pascal_eq (canonical_identifier htape) hdigits (h.trans hpascal.symm)
  · rintro rfl
    exact hpascal

end Name

namespace Code

/-! ### The names of members -/

/-- The names in a C# class: its own, that of the constant and those of the methods. -/
def memberNames (o : Options) (functions : List Function) : List String :=
  o.container :: "TapeSize" :: functions.map fun f => csharpName o f.name

/-- The lines that declare these names. -/
def memberLines (o : Options) (functions : List Function) : List Line :=
  ⟨0, spacedWord "public static class" o.container⟩ :: ⟨1, s!"public const int TapeSize = {o.tapeSize};"⟩ ::
    functions.map fun f => declaration .csharp (csharpName o f.name)

section

variable {o : Options} {functions : List Function} {sources : List Source} {f : Function}

theorem mem_fileLines_of_mem_memberLines {l : Line} (hl : l ∈ memberLines o functions) :
    l ∈ fileLines .csharp o functions := by
  have hfront : ∀ {l}, l ∈ linesAt 0 [spacedWord "public static class" o.container, "\x7b"] ++
      [⟨1, s!"public const int TapeSize = {o.tapeSize};"⟩] → l ∈ fileLines .csharp o functions := fun h =>
    List.mem_append_left _ (List.mem_append_left _ h)
  rcases List.mem_cons.1 hl with rfl | hl
  · exact hfront (List.mem_cons_self ..)
  rcases List.mem_cons.1 hl with rfl | hl
  · exact hfront (List.mem_append_right _ (List.mem_singleton_self _))
  obtain ⟨f, hf, rfl⟩ := List.mem_map.1 hl
  have hmethod : declaration .csharp (csharpName o f.name) ∈ csharpFunction o f := List.mem_of_getElem? (i := 1) rfl
  have hfunctions : declaration .csharp (csharpName o f.name) ∈ separated (csharpFunction o) functions :=
    List.mem_flatMap.2 ⟨f, hf, List.mem_cons_of_mem _ hmethod⟩
  exact List.mem_append_left _ (List.mem_append_right _ hfunctions)

/-- The rendering declares every name. -/
theorem exists_render_csharp (o : Options) (functions : List Function) :
    ∃ text, render .csharp o functions = .ok text ∧ ∀ l ∈ memberLines o functions,
      (writeLines fixedIndent [l]).toList <:+: text.toList := by
  have hscript : Target.csharp ≠ .typescript := by decide
  have hreflow : Target.csharp = .rust → o.reflow = false := nofun
  have hrender := render_eq hscript hreflow functions
  exact ⟨_, hrender, fun l hl =>
    infix_of_mem_fileLines hscript hreflow hrender (mem_fileLines_of_mem_memberLines hl)⟩

theorem csharpName_ne_tapeSize (o : Options) (name : String) : csharpName o name ≠ "TapeSize" := by
  intro h
  have hreserved : csharpName o name ∈ reservedWords .csharp o := by
    rw [h]
    exact List.mem_cons_of_mem _ (List.mem_singleton_self _)
  obtain ⟨-, -, hname⟩ := declared_mem_reservedWords_iff.1 hreserved
  exact absurd (h.symm.trans hname) (by decide)

/-- The underscore of an escaped method leads to the name of the class for one class and one function. -/
theorem csharpName_eq_container_iff (hname : Name.Canonical f.name.toList) :
    csharpName o f.name = o.container ↔ o.container = "TapeSize_" ∧ f.name = "tape_size" := by
  constructor
  · intro h
    have hreserved : csharpName o f.name ∈ reservedWords .csharp o := by
      rw [h]
      exact List.mem_cons_self ..
    obtain ⟨-, hcontainer, hescaped⟩ := declared_mem_reservedWords_iff.1 hreserved
    have hmarked : "TapeSize_" = "TapeSize" ++ "_" := by decide
    rw [hmarked] at hescaped
    refine ⟨hcontainer, (Name.pascal_eq_tapeSize_iff hname).1 ?_⟩
    rcases escapeWord_cases (reservedWords .csharp o) (Name.pascal f.name) with ⟨heq, -⟩ | ⟨heq, -⟩
    · -- Pascal case does not end in an underscore
      have hunmarked : Unmarked (Name.pascal f.name) := (shape_casedName .csharp hname).2
      rw [← heq, hescaped] at hunmarked
      exact absurd hunmarked (not_unmarked_append "TapeSize")
    · exact (String.append_left_inj "_").1 (heq.symm.trans hescaped)
  · rintro ⟨hcontainer, htape⟩
    rw [csharpName, htape, hcontainer]
    decide

end

/-- The class, the constant and the methods of a batch are declared in the rendered file. The methods have different
names, none of them is named like the constant, and one is named like the class exactly if it is that of `tape_size` in
a class `TapeSize_`. So the names of all members and the class are different unless this happens or the class is named
`TapeSize`. -/
theorem memberNames_nodup_iff (o : Options) (sources : List Source) :
    let functions := (compileAll sources).functions
    (∃ text, render .csharp o functions = .ok text ∧
      ∀ l ∈ memberLines o functions, (writeLines fixedIndent [l]).toList <:+: text.toList) ∧
    (functions.map fun f => csharpName o f.name).Nodup ∧
    (∀ f ∈ functions, csharpName o f.name ≠ "TapeSize" ∧
      (csharpName o f.name = o.container ↔ o.container = "TapeSize_" ∧ f.name = "tape_size")) ∧
    ((memberNames o functions).Nodup ↔
      o.container ≠ "TapeSize" ∧ (o.container = "TapeSize_" → ∀ f ∈ functions, f.name ≠ "tape_size")) := by
  intro functions
  have hmethods : (functions.map fun f => csharpName o f.name).Nodup := nodup_declaredNames .csharp o sources
  have hclass : ∀ f ∈ functions, csharpName o f.name = o.container ↔ o.container = "TapeSize_" ∧ f.name = "tape_size" :=
    fun f hf => csharpName_eq_container_iff (canonical_of_mem hf)
  refine ⟨exists_render_csharp o functions, hmethods, fun f hf => ⟨csharpName_ne_tapeSize o f.name, hclass f hf⟩, ?_⟩
  have hconstant : "TapeSize" ∉ functions.map fun f => csharpName o f.name := by
    rw [List.mem_map]
    rintro ⟨f, -, hf⟩
    exact csharpName_ne_tapeSize o f.name hf
  rw [memberNames, List.nodup_cons, List.nodup_cons, List.mem_cons, not_or]
  simp only [hmethods, hconstant, not_false_eq_true, and_true]
  refine and_congr_right fun _ => ?_
  constructor
  · intro h hcontainer f hf htape
    exact h (List.mem_map.2 ⟨f, hf, (hclass f hf).2 ⟨hcontainer, htape⟩⟩)
  · intro h hmem
    obtain ⟨f, hf, heq⟩ := List.mem_map.1 hmem
    obtain ⟨hcontainer, htape⟩ := (hclass f hf).1 heq
    exact h hcontainer f hf htape

/-- A class that is named like its constant, and one that is named like its method. -/
theorem memberNames_clash :
    let constant : Options := ⟨"TapeSize", 256, false, true, "    "⟩
    let method : Options := ⟨"TapeSize_", 256, false, true, "    "⟩
    (Name.isIdentifier constant.container = true ∧
      ¬ (memberNames constant (compileAll [.ofText "a.bf" "+"]).functions).Nodup) ∧
    Name.isIdentifier method.container = true ∧
      ¬ (memberNames method (compileAll [.ofText "tape_size.bf" ""]).functions).Nodup := by
  have hconstant : (compileAll [.ofText "a.bf" "+"]).functions = [⟨"a", "a.bf", Digest.ofText "+", [.increment]⟩] := rfl
  have hmethod : (compileAll [.ofText "tape_size.bf" ""]).functions =
      [⟨"tape_size", "tape_size.bf", Digest.ofText "", []⟩] := rfl
  simp only [hconstant, hmethod]
  decide

end Code

end TapeLang
