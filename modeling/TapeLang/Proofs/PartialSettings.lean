import Mathlib.Data.List.Nodup
import TapeLang.Proofs.Reading.Template
import TapeLang.Proofs.Yaml.Mapping
import TapeLang.Proofs.Yaml.Values

/-!
# Partial settings

A text of lines, each a key, a colon and a value without quotes, is read field by field in the order of the text. What
is read are the values of the fields that are mentioned and the defaults of the others (`readFields_of_spells`). A text
is accepted only if its keys name different fields (`exists_fields_of_ofText`).
-/

namespace TapeLang.Settings

open Text (isAsciiAlphanum)
open Yaml (Mark Node Content Document Line IsPlainLine IsPlainKey IsPlainValue IsShort linesText linesContents)

/-- The text of lines with a key and a value each, where `ending` follows the last one. -/
def textOfLines (lines : List (String × String)) (ending : String) : String :=
  "\n".intercalate (lines.map fun l => l.1 ++ ": " ++ l.2) ++ ending

/-- The settings `base` with the values that `s` has in `fields`. -/
def taking (s base : Settings) (fields : List Field) : Settings where
  target := if .target ∈ fields then s.target else base.target
  container := if .container ∈ fields then s.container else base.container
  tapeSize := if .tapeSize ∈ fields then s.tapeSize else base.tapeSize
  extension := if .extension ∈ fields then s.extension else base.extension
  provenance := if .provenance ∈ fields then s.provenance else base.provenance
  autoFormat := if .autoFormat ∈ fields then s.autoFormat else base.autoFormat

/-- The spellings of a truth value. -/
def spellings : Bool → List String
  | true => ["true", "True", "TRUE"]
  | false => ["false", "False", "FALSE"]

/-- Whether `text` is a spelling of the value that `s` has in a field. -/
def Spells (s : Settings) (text : String) : Field → Prop
  | .target => text ∈ s.target.name :: s.target.aliases
  | .container => text = s.container
  | .tapeSize => text = toString s.tapeSize
  | .extension => text = s.extension
  | .provenance => text ∈ spellings s.provenance
  | .autoFormat => text ∈ spellings s.autoFormat

instance (s : Settings) (text : String) : (f : Field) → Decidable (s.Spells text f)
  | .target => inferInstanceAs (Decidable (_ ∈ _))
  | .container => inferInstanceAs (Decidable (_ = _))
  | .tapeSize => inferInstanceAs (Decidable (_ = _))
  | .extension => inferInstanceAs (Decidable (_ = _))
  | .provenance => inferInstanceAs (Decidable (_ ∈ _))
  | .autoFormat => inferInstanceAs (Decidable (_ ∈ _))

/-! ### Taking fields -/

@[simp] theorem taking_nil (s base : Settings) : s.taking base [] = base := by
  simp [taking]

theorem taking_taking (s base : Settings) (f : Field) (fields : List Field) :
    s.taking (s.taking base [f]) fields = s.taking base (f :: fields) := by
  cases f <;> simp [taking]

theorem check_eq_ok_iff {s : Settings} :
    s.check = .ok () ↔ s.tapeSize ≠ 0 ∧ Name.isIdentifier s.container ∧
      ¬ (s.extension = "" ∨ s.extension.toList.head? = some '.') := by
  unfold check
  split_ifs <;> simp_all

/-- Fields of settings that can be used make settings that can be used. -/
theorem check_taking {s base : Settings} (hs : s.check = .ok ()) (hbase : base.check = .ok ()) (fields : List Field) :
    (s.taking base fields).check = .ok () := by
  rw [check_eq_ok_iff] at hs hbase ⊢
  obtain ⟨hsize, hcontainer, hextension⟩ := hs
  obtain ⟨hsize', hcontainer', hextension'⟩ := hbase
  refine ⟨?_, ?_, ?_⟩
  · simp only [taking]
    split_ifs
    · exact hsize
    · exact hsize'
  · simp only [taking]
    split_ifs
    · exact hcontainer
    · exact hcontainer'
  · simp only [taking]
    split_ifs
    · exact hextension
    · exact hextension'

/-! ### Values -/

theorem ofLowerName?_of_mem {t : Target} : ∀ text ∈ t.name :: t.aliases, Target.ofLowerName? text = some t := by
  cases t <;> decide

theorem bool?_of_mem {b : Bool} : ∀ text ∈ spellings b, Yaml.bool? text.toList = some b := by
  cases b <;> decide

theorem readValue_eq_ok {α : Type} {v : Node} {c : Content} (hv : v.content = c) {read? : Content → Option α} {x : α}
    (hread : read? c = some x) (key expected : String) : readValue key v expected read? = .ok x := by
  rw [readValue, hv, hread]

/-- A field is read from each spelling of its value. -/
theorem readField_of_spells {s : Settings} (hcheck : s.check = .ok ()) (hsize : s.tapeSize < Number.bound 64)
    {f : Field} {text : String} (h : s.Spells text f) {v : Node} (hv : v.content = .plain text.toList) (root : Mark)
    (key : String) (base : Settings) : readField root key v base f = .ok (s.taking base [f]) := by
  have htext : Content.text? (.plain text.toList) = some text := by
    rw [Content.plain, Content.text?, String.ofList_toList]
  cases f with
  | target =>
    have htarget : readTarget root key v = .ok s.target := by
      simp [readTarget, hv, Content.plain, Content.tag?, Yaml.localName?, ofLowerName?_of_mem text h]
    rw [readField, htarget]
    rfl
  | container =>
    rw [readField, readValue_eq_ok hv htext, show text = s.container from h]
    rfl
  | tapeSize =>
    have hpositive : 0 < s.tapeSize := Nat.pos_of_ne_zero (check_eq_ok_iff.mp hcheck).1
    have hnumber : Content.nat? (.plain text.toList) = some s.tapeSize := by
      rw [show text = toString s.tapeSize from h]
      simpa [Content.plain, Content.nat?, Content.typedText?] using Yaml.nat?_toString hpositive hsize
    rw [readField, readValue_eq_ok hv hnumber]
    rfl
  | extension =>
    rw [readField, readValue_eq_ok hv htext, show text = s.extension from h]
    rfl
  | provenance =>
    have htruth : Content.bool? (.plain text.toList) = some s.provenance := by
      simpa [Content.plain, Content.bool?, Content.typedText?] using bool?_of_mem text h
    rw [readField, readValue_eq_ok hv htruth]
    rfl
  | autoFormat =>
    have htruth : Content.bool? (.plain text.toList) = some s.autoFormat := by
      simpa [Content.plain, Content.bool?, Content.typedText?] using bool?_of_mem text h
    rw [readField, readValue_eq_ok hv htruth]
    rfl

/-! ### Keys -/

theorem ofName?_name (f : Field) : Field.ofName? f.name = some f := by
  cases f <;> decide

theorem eq_name_of_ofName? {name : String} {f : Field} (h : Field.ofName? name = some f) : name = f.name := by
  have hname := List.find?_some h
  simpa using (of_decide_eq_true hname).symm

theorem name_injective : Function.Injective Field.name := by
  intro f g h
  have hname := ofName?_name f
  rw [h, ofName?_name] at hname
  exact (Option.some.inj hname).symm

theorem readKey_plain {k : Node} {cs : List Char} (hk : k.content = .plain cs) {f : Field} :
    readKey k = .ok f ↔ cs = f.name.toList := by
  simp only [readKey, hk, Content.plain]
  constructor
  · intro h
    cases hname : Field.ofName? (String.ofList cs) with
    | none =>
      rw [hname] at h
      cases h
    | some g =>
      rw [hname] at h
      cases h
      rw [← eq_name_of_ofName? hname, String.toList_ofList]
  · rintro rfl
    rw [String.ofList_toList, ofName?_name]

/-! ### Plain lines -/

theorem isPlainKey_name (f : Field) : IsPlainKey f.name.toList := by
  cases f <;> decide

theorem isShort_name (f : Field) : IsShort f.name.toList := by
  cases f <;> decide

theorem isWordChar_of_isIdentifier {name : String} (h : Name.isIdentifier name) :
    name.toList ≠ [] ∧ ∀ c ∈ name.toList, Yaml.isWordChar c := by
  unfold Name.isIdentifier at h
  split at h
  · cases h
  · rename_i c cs hname
    rw [hname]
    simp only [Bool.and_eq_true, Bool.or_eq_true, decide_eq_true_eq, List.all_eq_true] at h
    refine ⟨by simp, ?_⟩
    intro d hd
    simp only [Yaml.isWordChar, Bool.or_eq_true, decide_eq_true_eq]
    rcases List.mem_cons.mp hd with rfl | hd
    · exact h.1.imp_right And.left
    · exact h.2 d hd

/-- A spelling needs no quotes. -/
theorem isPlainValue_of_spells {s : Settings} (hcheck : s.check = .ok ())
    (hextension : ∀ c ∈ s.extension.toList, isAsciiAlphanum c) {f : Field} {text : String} (h : s.Spells text f) :
    IsPlainValue text.toList := by
  obtain ⟨-, hcontainer, hnonempty⟩ := check_eq_ok_iff.mp hcheck
  cases f with
  | target =>
    have htarget : ∀ t : Target, ∀ text ∈ t.name :: t.aliases, IsPlainValue text.toList := by
      intro t
      cases t <;> decide
    exact htarget s.target text h
  | container =>
    obtain rfl : text = s.container := h
    obtain ⟨hne, hword⟩ := isWordChar_of_isIdentifier hcontainer
    exact .of_word hne hword _
  | tapeSize =>
    obtain rfl : text = toString s.tapeSize := h
    rw [Nat.toString_eq_repr, Nat.toList_repr]
    refine .of_word Nat.toDigits_ne_nil (fun c hc => ?_) _
    exact Yaml.isWordChar_of_isDigit (Nat.isDigit_of_mem_toDigits (by decide) (by decide) hc)
  | extension =>
    obtain rfl : text = s.extension := h
    refine .of_word (fun hnil => hnonempty (.inl (String.toList_eq_nil_iff.mp hnil))) (fun c hc => ?_) _
    simp [Yaml.isWordChar, hextension c hc]
  | provenance =>
    have htruth : ∀ b, ∀ text ∈ spellings b, IsPlainValue text.toList := by decide
    exact htruth _ text h
  | autoFormat =>
    have htruth : ∀ b, ∀ text ∈ spellings b, IsPlainValue text.toList := by decide
    exact htruth _ text h

/-! ### Fields in turn -/

/-- The line of a field. -/
def lineOf (e : Field × String) : String × String := (e.1.name, e.2)

/-- The characters of a line. -/
def charsOf (l : String × String) : Line := (l.1.toList, l.2.toList)

/-- Lines of different fields are read as the values that they spell. -/
theorem readFields_of_spells {s : Settings} (hcheck : s.check = .ok ()) (hsize : s.tapeSize < Number.bound 64)
    {entries : List (Field × String)} (hspells : ∀ e ∈ entries, s.Spells e.2 e.1)
    (hnodup : (entries.map Prod.fst).Nodup) (seen : List Field) (hseen : ∀ f ∈ entries.map Prod.fst, f ∉ seen)
    {nodes : List Node} (hnodes : nodes.map Node.content = linesContents (entries.map fun e => charsOf (lineOf e)))
    (root : Mark) (base : Settings) :
    readFields root seen base nodes = .ok (s.taking base (entries.map Prod.fst)) := by
  induction entries generalizing seen nodes base with
  | nil =>
    obtain rfl := List.map_eq_nil_iff.mp hnodes
    rw [List.map_nil, taking_nil]
    rfl
  | cons e entries ih =>
    obtain ⟨k, nodes, rfl, hk, hnodes⟩ := List.map_eq_cons_iff.mp hnodes
    obtain ⟨v, nodes, rfl, hv, hnodes⟩ := List.map_eq_cons_iff.mp hnodes
    obtain ⟨hfresh, hnodup⟩ := List.nodup_cons.mp hnodup
    have hkey : readKey k = .ok e.1 := (readKey_plain hk).mpr rfl
    have hunseen : e.1 ∉ seen := hseen e.1 (by simp)
    have hbehind : ∀ f ∈ entries.map Prod.fst, f ∉ e.1 :: seen := by
      intro f hf hmem
      rcases List.mem_cons.mp hmem with rfl | hmem
      · exact hfresh hf
      · exact hseen f (by simp [hf]) hmem
    rw [List.map_cons, ← taking_taking, ← ih (fun e he => hspells e (by simp [he])) hnodup _ hbehind hnodes]
    rw [readFields, hkey]
    simp only [bind, Except.bind, hunseen, if_false,
      readField_of_spells hcheck hsize (hspells e (by simp)) hv]

/-- Lines are read only if their keys name different fields. -/
theorem exists_fields_of_readFields {lines : List Line} {nodes : List Node}
    (hnodes : nodes.map Node.content = linesContents lines) {root : Mark} {seen : List Field} {base s : Settings}
    (h : readFields root seen base nodes = .ok s) :
    ∃ fields : List Field, lines.map Prod.fst = fields.map (·.name.toList) ∧ fields.Nodup ∧ ∀ f ∈ fields, f ∉ seen := by
  induction lines generalizing nodes seen base with
  | nil => exact ⟨[], rfl, .nil, by simp⟩
  | cons l lines ih =>
    obtain ⟨k, nodes, rfl, hk, hnodes⟩ := List.map_eq_cons_iff.mp hnodes
    obtain ⟨v, nodes, rfl, hv, hnodes⟩ := List.map_eq_cons_iff.mp hnodes
    rw [readFields] at h
    obtain ⟨f, hf, h⟩ := Code.bind_eq_ok.mp h
    have hname : l.1 = f.name.toList := (readKey_plain hk).mp hf
    by_cases hseen : f ∈ seen
    · rw [if_pos hseen] at h
      cases h
    · rw [if_neg hseen] at h
      obtain ⟨base', -, h⟩ := Code.bind_eq_ok.mp h
      obtain ⟨fields, hfields, hnodup, hfresh⟩ := ih hnodes h
      refine ⟨f :: fields, ?_, ?_, ?_⟩
      · simp [hname, hfields]
      · exact List.nodup_cons.mpr ⟨fun hf => hfresh f hf (by simp), hnodup⟩
      · intro g hg
        rcases List.mem_cons.mp hg with rfl | hg
        · exact hseen
        · intro hmem
          exact hfresh g hg (by simp [hmem])

/-! ### Texts -/

theorem toList_textOfLines {lines : List (String × String)} (hne : lines ≠ []) (ending : String) :
    (textOfLines lines ending).toList = linesText ending.toList (lines.map charsOf) := by
  have hline : ∀ l : String × String, (l.1 ++ ": " ++ l.2).toList = l.1.toList ++ ':' :: ' ' :: l.2.toList := by
    intro l
    simp
  rw [textOfLines, String.toList_append, String.toList_intercalate]
  induction lines with
  | nil => exact absurd rfl hne
  | cons l lines ih =>
    cases lines with
    | nil =>
      rw [List.map_cons, List.map_cons, List.map_nil, List.map_nil, List.intercalate_singleton, hline]
      simp [linesText, charsOf]
    | cons l' lines =>
      have hrest := ih (by simp)
      rw [List.map_cons, List.map_cons, List.map_cons, List.map_cons, List.intercalate_cons_cons, hline]
      rw [List.map_cons, List.map_cons] at hrest
      rw [List.append_assoc, hrest]
      simp [linesText, charsOf]

/-- Lines with a key and a value hold a colon, so that their text is not blank. -/
theorem not_isBlank_textOfLines {lines : List (String × String)} (hne : lines ≠ []) (ending : String) :
    Text.isBlank (textOfLines lines ending) = false := by
  obtain ⟨l, lines, rfl⟩ := List.exists_cons_of_ne_nil hne
  rw [Text.isBlank, toList_textOfLines hne, List.map_cons, Yaml.linesText_cons, List.all_eq_false]
  exact ⟨':', by simp, by decide⟩

/-! ### Settings from lines -/

variable {lines : List (String × String)} {ending : String}

theorem toList_ending (hending : ending = "" ∨ ending = "\n") : ending.toList = [] ∨ ending.toList = ['\n'] := by
  rcases hending with rfl | rfl
  · exact .inl rfl
  · exact .inr rfl

/-- The document of lines whose keys are short. -/
theorem ofText_of_isShort (hending : ending = "" ∨ ending = "\n") (hne : lines ≠ [])
    (hplain : ∀ l ∈ lines, IsPlainLine (charsOf l)) (hshort : ∀ l ∈ lines, IsShort l.1.toList) :
    ∃ root nodes, Document.ofText (textOfLines lines ending) = ⟨root :: nodes, none, false⟩ ∧
      root.content = .mapping none ∧ nodes.map Node.content = linesContents (lines.map charsOf) := by
  obtain ⟨hnodes, hfault, hmore⟩ := Document.ofText_lines (toList_ending hending) (toList_textOfLines hne ending)
    (by simpa using hne) (List.forall_mem_map.mpr hplain) (List.forall_mem_map.mpr hshort)
  obtain ⟨root, nodes, hlist, hroot, hnodes⟩ := List.map_eq_cons_iff.mp hnodes
  refine ⟨root, nodes, ?_, hroot, hnodes⟩
  rw [← hlist, ← hfault, ← hmore]

theorem ofDocument_eq_ok {d : Document} {s : Settings} (h : ofDocument d = .ok s) :
    d.fault = none ∧ ofNodes d.nodes = .ok s := by
  rw [ofDocument] at h
  split at h
  · cases h
  · cases h
  · rename_i hnodes hfault
    split at h
    · cases h
    · exact ⟨hfault, h ▸ hnodes⟩

theorem ofText_eq_ok {text : String} {s : Settings} (hblank : Text.isBlank text = false) :
    ofText text = .ok s ↔ ofDocument (.ofText text) = .ok s ∧ s.check = .ok () := by
  have hparse : parse text = ofDocument (.ofText text) := by
    rw [parse, hblank, if_neg Bool.false_ne_true]
  rw [ofText, hparse]
  cases ofDocument (.ofText text) with
  | error e => simp
  | ok t =>
    cases hcheck : t.check with
    | error e =>
      constructor
      · intro h
        simp [hcheck] at h
      · rintro ⟨h, hs⟩
        cases h
        rw [hcheck] at hs
        cases hs
    | ok _ =>
      constructor
      · intro h
        simp only [hcheck] at h
        cases h
        exact ⟨rfl, hcheck⟩
      · rintro ⟨h, -⟩
        cases h
        simp [hcheck]

/-- Keys that a text of lines can be read with name different fields. -/
theorem exists_fields_of_ofText (hending : ending = "" ∨ ending = "\n")
    (hplain : ∀ l ∈ lines, IsPlainLine (charsOf l)) {s : Settings}
    (h : ofText (textOfLines lines ending) = .ok s) :
    ∃ fields : List Field, lines.map Prod.fst = fields.map Field.name ∧ fields.Nodup := by
  by_cases hne : lines = []
  · subst hne
    exact ⟨[], rfl, .nil⟩
  obtain ⟨hdocument, -⟩ := (ofText_eq_ok (not_isBlank_textOfLines hne ending)).mp h
  obtain ⟨hfault, hnodes⟩ := ofDocument_eq_ok hdocument
  have hshort : ∀ l ∈ lines, IsShort l.1.toList := by
    intro l hl
    by_contra hlong
    obtain ⟨f, hf⟩ := Document.ofText_longKey (toList_ending hending) (toList_textOfLines hne ending)
      (List.forall_mem_map.mpr hplain) ⟨charsOf l, List.mem_map_of_mem hl, hlong⟩
    rw [hfault] at hf
    cases hf
  obtain ⟨root, nodes, hdoc, hroot, hcontents⟩ := ofText_of_isShort hending hne hplain hshort
  have hread : readFields root.place [] .default nodes = .ok s := by
    rw [hdoc] at hnodes
    simpa [ofNodes, hroot] using hnodes
  obtain ⟨fields, hfields, hnodup, -⟩ := exists_fields_of_readFields hcontents hread
  refine ⟨fields, ?_, hnodup⟩
  have hchars : (lines.map Prod.fst).map String.toList = (fields.map Field.name).map String.toList := by
    rw [List.map_map] at hfields
    rw [List.map_map, List.map_map]
    exact hfields
  exact (List.map_injective_iff.mpr fun a b h => String.toList_inj.mp h) hchars

/-- The lines of different fields are read as the settings with the values that they spell and the defaults elsewhere,
and the text is refused with one more line that repeats one of them or has another key. -/
theorem ofText_textOfLines {s : Settings} (hcheck : s.check = .ok ()) (hsize : s.tapeSize < Number.bound 64)
    (hextension : ∀ c ∈ s.extension.toList, isAsciiAlphanum c) {entries : List (Field × String)} (hne : entries ≠ [])
    (hnodup : (entries.map Prod.fst).Nodup) (hspells : ∀ e ∈ entries, s.Spells e.2 e.1)
    (hending : ending = "" ∨ ending = "\n") :
    ofText (textOfLines (entries.map lineOf) ending) = .ok (s.taking .default (entries.map Prod.fst)) ∧
      ∀ before after line, before ++ after = entries.map lineOf →
        (line ∈ before ++ after ∨ IsPlainLine (charsOf line) ∧ ∀ f : Field, f.name ≠ line.1) →
          ∃ e, ofText (textOfLines (before ++ line :: after) ending) = .error e := by
  have hplain : ∀ l ∈ entries.map lineOf, IsPlainLine (charsOf l) := by
    refine List.forall_mem_map.mpr fun e he => ⟨isPlainKey_name e.1, ?_⟩
    exact isPlainValue_of_spells hcheck hextension (hspells e he)
  have hshort : ∀ l ∈ entries.map lineOf, IsShort l.1.toList :=
    List.forall_mem_map.mpr fun e _ => isShort_name e.1
  constructor
  · have hlines : entries.map lineOf ≠ [] := by simpa using hne
    obtain ⟨root, nodes, hdocument, hroot, hcontents⟩ := ofText_of_isShort hending hlines hplain hshort
    rw [List.map_map] at hcontents
    have hread := readFields_of_spells hcheck hsize hspells hnodup [] (by simp) hcontents root.place .default
    refine (ofText_eq_ok (not_isBlank_textOfLines hlines ending)).mpr ⟨?_, check_taking hcheck rfl _⟩
    simp [hdocument, ofDocument, ofNodes, hroot, hread]
  · intro before after line hlines hline
    cases hresult : ofText (textOfLines (before ++ line :: after) ending) with
    | error e => exact ⟨e, rfl⟩
    | ok t =>
      exfalso
      have hplain' : ∀ l ∈ before ++ line :: after, IsPlainLine (charsOf l) := by
        intro l hl
        have hcases : l = line ∨ l ∈ before ++ after := by
          rw [List.mem_append, List.mem_cons] at hl
          rw [List.mem_append]
          tauto
        rw [hlines] at hcases hline
        rcases hcases with rfl | hl
        · exact hline.elim (hplain l) And.left
        · exact hplain l hl
      obtain ⟨fields, hfields, hfresh⟩ := exists_fields_of_ofText hending hplain' hresult
      have hkeys : ((before ++ line :: after).map Prod.fst).Nodup := by
        rw [hfields]
        exact (List.nodup_map_iff name_injective).mpr hfresh
      rcases hline with hmem | ⟨-, hother⟩
      · have hmiddle : (before ++ line :: after).Perm (line :: (before ++ after)) := List.perm_middle
        have hperm := hmiddle.map Prod.fst
        have hnotin := (List.nodup_cons.mp (hperm.nodup_iff.mp hkeys)).1
        exact hnotin (List.mem_map_of_mem hmem)
      · have hmem : line.1 ∈ fields.map Field.name := by
          rw [← hfields]
          exact List.mem_map_of_mem (by simp)
        obtain ⟨f, -, hf⟩ := List.mem_map.mp hmem
        exact hother f hf

/-- Five of the fields, in an order of their own and with values that look like others, and the same text with a
further line. -/
theorem ofText_textOfLines_true_null :
    let text := "extension: true\ntape_size: 18446744073709551615\ncontainer: null\ntarget: c#\nprovenance: FALSE"
    ofText (text ++ "\n") = .ok ⟨.csharp, "null", 18446744073709551615, "true", false, true⟩ ∧
      (∃ e, ofText (text ++ "\ncontainer: null\n") = .error e) ∧
        ∃ e, ofText (text ++ "\nsize of it: 3") = .error e := by
  intro text
  let s : Settings := ⟨.csharp, "null", 18446744073709551615, "true", false, false⟩
  let entries : List (Field × String) := [(.extension, "true"), (.tapeSize, "18446744073709551615"),
    (.container, "null"), (.target, "c#"), (.provenance, "FALSE")]
  have hcheck : s.check = .ok () := by decide
  have hsize : s.tapeSize < Number.bound 64 := by decide
  have hextension : ∀ c ∈ s.extension.toList, isAsciiAlphanum c := List.all_eq_true.mp (by decide)
  have hspells : ∀ e ∈ entries, s.Spells e.2 e.1 := by decide
  have hline : "\n" = "" ∨ "\n" = "\n" := .inr rfl
  have hopen : "" = "" ∨ "" = "\n" := .inl rfl
  have hplain : IsPlainLine (charsOf ("size of it", "3")) := ⟨by decide, by decide⟩
  have hother : ∀ f : Field, f.name ≠ "size of it" := by
    intro f
    cases f <;> decide
  have htext : textOfLines (entries.map lineOf) "\n" = text ++ "\n" := by decide +kernel
  have hagain : textOfLines (entries.map lineOf ++ [("container", "null")]) "\n" = text ++ "\ncontainer: null\n" := by
    decide +kernel
  have hsizeOf : textOfLines (entries.map lineOf ++ [("size of it", "3")]) "" = text ++ "\nsize of it: 3" := by
    decide +kernel
  obtain ⟨hread, hrefused⟩ := ofText_textOfLines hcheck hsize hextension (by decide) (by decide) hspells hline
  obtain ⟨-, hrefused'⟩ := ofText_textOfLines hcheck hsize hextension (by decide) (by decide) hspells hopen
  rw [← htext, ← hagain, ← hsizeOf]
  refine ⟨hread, ?_, ?_⟩
  · exact hrefused (entries.map lineOf) [] ("container", "null") (by simp) (.inl (by decide))
  · exact hrefused' (entries.map lineOf) [] ("size of it", "3") (by simp) (.inr ⟨hplain, hother⟩)

end TapeLang.Settings
