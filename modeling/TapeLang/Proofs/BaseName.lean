import Mathlib.Data.List.Pairwise
import TapeLang.Proofs.Batch
import TapeLang.Proofs.Comments
import TapeLang.Proofs.Name.Derived

/-!
# Base names

The name of a function comes from the base of its file, whatever the directories are: a directory is cut off with its
slash, and the last part of a path is the file in it, which is neither empty nor made of dots alone
(`Path.parts_append`, `SourcePath.stem_text`). A file with unbalanced brackets fails for them, another one whose base
has no letter or digit for its name, and every other file compiles (`base_name_decides`). Sources with one stem ask for
one name, so a batch keeps at most one of them (`compete_of_stem_eq`).
-/

namespace TapeLang

/-! ### Parts of paths -/

namespace Path

/-- The parts of a path are what stands between its slashes. -/
theorem splitFrom_eq_splitOn {part : List Char} (hpart : '/' ∉ part) (cs : List Char) :
    splitFrom part cs = (part.reverse ++ cs).splitOn '/' := by
  induction cs generalizing part with
  | nil => rw [splitFrom, List.append_nil, List.splitOn_eq_singleton (by simpa using hpart)]
  | cons c cs ih =>
    rw [splitFrom]
    split
    · next hc =>
      have hreverse : '/' ∉ part.reverse := by simpa using hpart
      rw [ih List.not_mem_nil, hc, List.splitOn_append_cons_self, List.splitOn_eq_singleton hreverse]
      rfl
    · next hc =>
      rw [ih (by simp [hpart, Ne.symm hc])]
      simp

theorem parts_eq (path : List Char) : parts path = (path.splitOn '/').filter fun p => p ≠ [] && p ≠ ['.'] := by
  rw [parts, splitFrom_eq_splitOn List.not_mem_nil, List.reverse_nil, List.nil_append]

/-- A directory: the empty path or one that ends in a slash. -/
def IsDirectory (path : List Char) : Prop := path = [] ∨ path.getLast? = some '/'

instance (path : List Char) : Decidable (IsDirectory path) := inferInstanceAs (Decidable (_ ∨ _))

/-- The file in a directory is the last part of its path. -/
theorem parts_append {directory file : List Char} (hdirectory : IsDirectory directory) (hslash : '/' ∉ file)
    (hne : file ≠ []) (hdot : file ≠ ['.']) : parts (directory ++ file) = parts directory ++ [file] := by
  have hfile : [file].filter (fun p => p ≠ [] && p ≠ ['.']) = [file] := by simp [hne, hdot]
  rcases hdirectory with rfl | hlast
  · rw [parts_eq, List.nil_append, List.splitOn_eq_singleton hslash, hfile]
    rfl
  · obtain ⟨front, rfl⟩ := List.getLast?_eq_some_iff.1 hlast
    rw [parts_eq, parts_eq, List.append_assoc, List.singleton_append, List.splitOn_append_cons_self,
      List.splitOn_append_cons_self, List.splitOn_eq_singleton hslash, List.filter_append, List.filter_append, hfile]
    simp

theorem beforeLastDot_eq_none {part : List Char} (h : '.' ∉ part) : beforeLastDot part = none := by
  induction part with
  | nil => rfl
  | cons c part ih =>
    rw [List.mem_cons, not_or] at h
    rw [beforeLastDot, ih h.2]
    simp [Ne.symm h.1]

theorem beforeLastDot_append (base : List Char) {ending : List Char} (h : '.' ∉ ending) :
    beforeLastDot (base ++ '.' :: ending) = some base := by
  induction base with
  | nil => simp [beforeLastDot, beforeLastDot_eq_none h]
  | cons c base ih => simp [beforeLastDot, ih]

theorem withoutExtension_append {base ending : List Char} (hne : base ≠ []) (h : '.' ∉ ending) :
    withoutExtension (base ++ '.' :: ending) = base := by
  rw [withoutExtension, beforeLastDot_append base h]
  cases base with
  | nil => exact absurd rfl hne
  | cons c base => rfl

end Path

/-- The path of a file with an extension. The base may have dots, also at its ends, and no letters. -/
structure SourcePath where
  directory : String
  base : String
  extension : String
  directory_end : Path.IsDirectory directory.toList
  base_ne : base ≠ ""
  base_slash : '/' ∉ base.toList
  extension_ne : extension ≠ ""
  extension_slash : '/' ∉ extension.toList
  extension_dot : '.' ∉ extension.toList

namespace SourcePath

def text (p : SourcePath) : String := p.directory ++ p.base ++ "." ++ p.extension

/-- What the file is called in its directory. -/
def file (p : SourcePath) : List Char := p.base.toList ++ '.' :: p.extension.toList

variable (p : SourcePath)

theorem toList_text : p.text.toList = p.directory.toList ++ p.file := by simp [text, file]

/-- A file with an extension is no part that is made of dots. -/
theorem file_ne {dots : List Char} (hdots : ∀ c ∈ dots, c = '.') : p.file ≠ dots := by
  intro h
  obtain ⟨c, rest, hextension⟩ := List.exists_cons_of_ne_nil (mt String.toList_eq_nil_iff.1 p.extension_ne)
  have hmem : c ∈ p.extension.toList := hextension ▸ List.mem_cons_self ..
  have hfile : c ∈ p.file := List.mem_append_right _ (List.mem_cons_of_mem _ hmem)
  obtain rfl := hdots c (h ▸ hfile)
  exact p.extension_dot hmem

theorem parts_text : Path.parts p.text.toList = Path.parts p.directory.toList ++ [p.file] := by
  have hslash : '/' ∉ p.file := by
    rw [file, List.mem_append, List.mem_cons]
    rintro (h | h | h)
    · exact p.base_slash h
    · exact absurd h (by decide)
    · exact p.extension_slash h
  rw [toList_text, Path.parts_append p.directory_end hslash (p.file_ne (by simp)) (p.file_ne (by simp))]

/-- The stem of a path is the base of its file. -/
theorem stem_text : Path.stem p.text = p.base := by
  have hbase : p.base.toList ≠ [] := mt String.toList_eq_nil_iff.1 p.base_ne
  rw [Path.stem, parts_text, List.getLast?_concat]
  dsimp only
  rw [if_neg (p.file_ne (by simp)), file, Path.withoutExtension_append hbase p.extension_dot, String.ofList_toList]

end SourcePath

/-! ### Names in a batch -/

/-- Two sources that ask for one name. -/
structure Compete (s t : Source) : Prop where
  /-- They compile to functions of one name. -/
  name_eq {f g : Function} (hf : compile s = .ok f) (hg : compile t = .ok g) : f.name = g.name
  /-- A batch does not have two functions under their names. -/
  eq_of_mem {sources : List Source} {f g : Function} (hf : f ∈ (compileAll sources).functions)
    (hg : g ∈ (compileAll sources).functions) (hs : f.source = s.name) (ht : g.source = t.name) : f = g
  /-- If both compile, the second one in a batch is turned away for its name. -/
  turned_away {sources : List Source} {i j : Nat} (hij : i < j) (hi : sources[i]? = some s)
    (hj : sources[j]? = some t) {f g : Function} (hf : compile s = .ok f) (hg : compile t = .ok g) :
    ∃ first, ⟨t.name, .nameTaken g.name first⟩ ∈ (compileAll sources).rejections

/-- Sources with one stem ask for one name. -/
theorem compete_of_stem_eq {s t : Source} (h : s.stem = t.stem) : Compete s t := by
  refine ⟨name_eq_of_stem_eq h, ?_, ?_⟩
  · intro sources f g hf hg hs ht
    by_contra hne
    have hsymm : Std.Symm fun f g : Function => clashKey f.name ≠ clashKey g.name := ⟨fun _ _ => Ne.symm⟩
    obtain ⟨s', -, hs'⟩ := exists_source_of_mem hf
    obtain ⟨t', -, ht'⟩ := exists_source_of_mem hg
    rw [source_of_compile hs'] at hs
    rw [source_of_compile ht'] at ht
    have hstem : s'.stem = t'.stem := (congrArg Path.stem hs).trans (h.trans (congrArg Path.stem ht).symm)
    exact (pairwise_clashKey sources).forall hf hg hne (congrArg clashKey (name_eq_of_stem_eq hstem hs' ht'))
  · intro sources i j hij hi hj f g hf hg
    obtain ⟨verdicts, hjudged, hbatch⟩ := exists_verdicts_compileAll sources
    have hmem : s ∈ sources.take j := List.mem_of_getElem? ((List.getElem?_take_of_lt hij).trans hi)
    have hclaims : s.Claims (clashKey g.name) := ⟨f, hf, congrArg clashKey (name_eq_of_stem_eq h hf hg)⟩
    obtain ⟨first, hfirst⟩ : ∃ first, (sources.take j).find? (·.Claims (clashKey g.name)) = some first :=
      Option.isSome_iff_exists.1 (List.find?_isSome.2 ⟨s, hmem, by simpa using hclaims⟩)
    have hverdict : verdicts[j]? = some (.error ⟨t.name, .nameTaken g.name first.name⟩) :=
      (hjudged.2 j t hj _).2 (.taken hg hfirst)
    refine ⟨first.name, ?_⟩
    rw [hbatch, Batch.rejections_foldr_add, List.mem_filterMap]
    exact ⟨_, List.mem_of_getElem? hverdict, rfl⟩

/-! ### Compiling a file -/

open Text (isAsciiAlphanum)

theorem emit_lex (text : String) : emit (lex text) = (text.toList.filterMap Symbol.ofChar?).map .ofSymbol := by
  have hsymbols : (lex text).map (·.symbol) = text.toList.filterMap Symbol.ofChar? := map_symbol_lexFrom _ _
  rw [← hsymbols, List.map_map]
  rfl

section

variable {s : Source}

/-- Brackets are checked first. -/
theorem compile_of_brackets {e : BracketError} (h : matchBrackets s.program = .error e) :
    compile s = .error (.brackets e) := by
  rw [compile, h]

variable {pairs : Matching} (h : matchBrackets s.program = .ok pairs)
include h

theorem compile_of_no_letter (hletters : ∀ c ∈ s.stem.toList, ¬ isAsciiAlphanum c) :
    compile s = .error (.noName s.name) := by
  rw [compile, h]
  dsimp only
  rw [Name.identifier?_eq_none_iff.2 (List.filter_eq_nil_iff.2 hletters)]

theorem exists_compile_of_letter (hletter : ∃ c ∈ s.stem.toList, isAsciiAlphanum c) :
    ∃ name, Name.identifier? s.stem = some name ∧ compile s = .ok ⟨name, s.name, s.digest, emit s.program⟩ := by
  obtain ⟨c, hc, hletter⟩ := hletter
  have hne : Name.identifier? s.stem ≠ none := fun hnone =>
    List.filter_eq_nil_iff.1 (Name.identifier?_eq_none_iff.1 hnone) c hc hletter
  obtain ⟨name, hname⟩ := Option.ne_none_iff_exists'.1 hne
  exact ⟨name, hname, compile_eq_ok.2 ⟨⟨pairs, h⟩, name, hname, rfl⟩⟩

end

/-- The stem of a file is its base. What a file compiles to is the error of its brackets if they are unbalanced, else
the complaint about its whole name if the base has no letter or digit, and else a function that is named after the base
and has a statement for every instruction character. Any two files with one base ask for one name. -/
theorem base_name_decides (p : SourcePath) (text : String) :
    (Source.ofText p.text text).stem = p.base ∧
    ((∀ e, matchBrackets (lex text) = .error e → compile (.ofText p.text text) = .error (.brackets e)) ∧
      ∀ pairs, matchBrackets (lex text) = .ok pairs →
        ((∀ c ∈ p.base.toList, ¬ isAsciiAlphanum c) → compile (.ofText p.text text) = .error (.noName p.text)) ∧
        ((∃ c ∈ p.base.toList, isAsciiAlphanum c) → ∃ name, Name.identifier? p.base = some name ∧
          compile (.ofText p.text text) =
            .ok ⟨name, p.text, Digest.ofText text, (text.toList.filterMap Symbol.ofChar?).map .ofSymbol⟩)) ∧
    ∀ q : SourcePath, q.base = p.base → ∀ text', Compete (.ofText p.text text) (.ofText q.text text') := by
  have hstem : ∀ (p : SourcePath) text, (Source.ofText p.text text).stem = p.base := fun p _ => p.stem_text
  refine ⟨hstem p text, ⟨fun e he => ?_, fun pairs hpairs => ?_⟩, fun q hbase text' => ?_⟩
  · exact compile_of_brackets he
  · rw [← emit_lex, ← hstem p text]
    exact ⟨compile_of_no_letter hpairs, exists_compile_of_letter hpairs⟩
  · exact compete_of_stem_eq (by rw [hstem, hstem, hbase])

/-- A base that begins with dots in a directory with empty and dotted parts, and the same base outside of it. -/
theorem base_name_decides_dots :
    compile (.ofText "//a/./..b.x" "+") = .ok ⟨"b", "//a/./..b.x", Digest.ofText "+", [.increment]⟩ ∧
    ∃ first, ⟨"..b.y", .nameTaken "b" first⟩ ∈
      (compileAll [.ofText "//a/./..b.x" "+", .ofText "..b.y" "-"]).rejections := by
  let p : SourcePath := ⟨"//a/./", "..b", "x", by decide, by decide, by decide, by decide, by decide, by decide⟩
  let q : SourcePath := ⟨"", "..b", "y", by decide, by decide, by decide, by decide, by decide, by decide⟩
  obtain ⟨-, ⟨-, hp⟩, hcompete⟩ := base_name_decides p "+"
  obtain ⟨-, ⟨-, hq⟩, -⟩ := base_name_decides q "-"
  have hname : Name.identifier? "..b" = some "b" := by decide
  obtain ⟨name, hpname, hp⟩ := (hp _ rfl).2 ⟨'b', by decide, by decide⟩
  obtain ⟨name', hqname, hq⟩ := (hq _ rfl).2 ⟨'b', by decide, by decide⟩
  obtain rfl : "b" = name := Option.some.inj (hname.symm.trans hpname)
  obtain rfl : "b" = name' := Option.some.inj (hname.symm.trans hqname)
  exact ⟨hp, (hcompete q rfl "-").turned_away (i := 0) (j := 1) (by decide) rfl rfl hp hq⟩

end TapeLang
