import Mathlib
import TapeLang.Proofs.FileSystem
import TapeLang.Proofs.Text.ByteOrder

/-!
# Finding files

A walk through a directory sorts the names of each directory it comes to. In a tree whose names can be names it comes
to everything in the tree and to nothing else (`mem_entries`), in increasing order of the places, compared name by name
as bytes (`pairwise_entries`); this is not the order of the paths as texts, where a dot comes before a slash. Of the
walk the files are kept, by their paths from the directory (`files_of_walk`). So they are the same for every order in
which the directories hold their entries (`files_of_directory`).
-/

namespace TapeLang.FileTree

open Text (bytes bytes_lt_iff)

variable {t u : FileTree} {entries : List (String × FileTree)} {name : String} {place : List String}

/-! ### Trees -/

/-- To prove something of all trees, prove it of a directory if it holds of its entries. -/
@[elab_as_elim]
theorem induct {P : FileTree → Prop} (file : ∀ content, P (.file content)) (link : ∀ target, P (.link target))
    (special : P .special) (directory : ∀ entries, (∀ e ∈ entries, P e.2) → P (.directory entries)) (t : FileTree) :
    P t :=
  match t with
  | .file content => file content
  | .link target => link target
  | .special => special
  | .directory entries => directory entries fun e he =>
      have hentry := List.sizeOf_lt_of_mem he
      have htree : sizeOf e.2 < sizeOf e := by
        obtain ⟨name, t⟩ := e
        simp only [Prod.mk.sizeOf_spec]
        omega
      have hsize : sizeOf e.2 < sizeOf (FileTree.directory entries) := by
        simp only [FileTree.directory.sizeOf_spec]
        omega
      induct file link special directory e.2
termination_by sizeOf t

/-- Whether a text can be the name of an entry. -/
def ProperName (name : String) : Prop := name ≠ "" ∧ '/' ∉ name.toList

instance (name : String) : Decidable (ProperName name) := inferInstanceAs (Decidable (_ ∧ _))

mutual

/-- Whether all names in a tree can be names, and stand once in their directories. -/
def Proper : FileTree → Prop
  | .file _ => True
  | .link _ => True
  | .special => True
  | .directory entries => (entries.map (·.1)).Nodup ∧ ProperEntries entries

def ProperEntries : List (String × FileTree) → Prop
  | [] => True
  | (name, t) :: rest => ProperName name ∧ t.Proper ∧ ProperEntries rest

end

theorem properEntries_iff : ProperEntries entries ↔ ∀ e ∈ entries, ProperName e.1 ∧ e.2.Proper := by
  induction entries with
  | nil => simp [ProperEntries]
  | cons e rest ih =>
    obtain ⟨name, t⟩ := e
    simp [ProperEntries, ih, and_assoc]

theorem proper_directory : (directory entries).Proper ↔
    (entries.map (·.1)).Nodup ∧ ∀ e ∈ entries, ProperName e.1 ∧ e.2.Proper := by
  rw [Proper, properEntries_iff]

theorem entriesBehind_eq (named : List (String × FileTree)) :
    entriesBehind named = named.map fun e => (e.1, e.2.entries.map fun x => ⟨e.1 :: x.path, x.kind⟩) := by
  induction named with
  | nil => rfl
  | cons e rest ih => rw [entriesBehind, ih, List.map_cons]

theorem child?_eq_some_iff (h : (entries.map (·.1)).Nodup) : child? name entries = some t ↔ (name, t) ∈ entries := by
  rw [child?, Option.map_eq_some_iff]
  constructor
  · rintro ⟨e, hfind, rfl⟩
    have hname : e.1 = name := by simpa using List.find?_some hfind
    rw [← hname]
    exact List.mem_of_find?_eq_some hfind
  · intro hmem
    obtain ⟨e, hfind⟩ : ∃ e, entries.find? (·.1 = name) = some e :=
      Option.isSome_iff_exists.1 (List.find?_isSome.2 ⟨_, hmem, by simp⟩)
    have hname : e.1 = name := by simpa using List.find?_some hfind
    have heq : e = (name, t) := List.inj_on_of_nodup_map h (List.mem_of_find?_eq_some hfind) hmem hname
    exact ⟨e, hfind, by rw [heq]⟩

/-! ### What is in a tree -/

theorem mem_inOrder {α : Type} {parts : List (String × List α)} {a : α} :
    a ∈ inOrder parts ↔ ∃ p ∈ parts, a ∈ p.2 := by
  simp [inOrder, List.mem_flatMap, List.mem_mergeSort]

theorem mem_inOrder_entriesBehind {x : Entry} :
    x ∈ inOrder (entriesBehind entries) ↔
      ∃ e ∈ entries, ∃ y ∈ e.2.entries, x = ⟨e.1 :: y.path, y.kind⟩ := by
  rw [mem_inOrder, entriesBehind_eq]
  simp [List.mem_map, eq_comm]

/-- A walk comes to all that is in a tree, and to nothing else. -/
theorem mem_entries (h : t.Proper) {x : Entry} : x ∈ t.entries ↔ ∃ u, t.at? x.path = some u ∧ u.kind = x.kind := by
  induction t using induct generalizing x with
  | directory entries ih =>
    obtain ⟨hnodup, hentries⟩ := proper_directory.1 h
    obtain ⟨path, kind⟩ := x
    rw [FileTree.entries, List.mem_cons, mem_inOrder_entriesBehind]
    cases path with
    | nil => simp [at?, FileTree.kind, eq_comm]
    | cons name path =>
      constructor
      · rintro (hself | ⟨e, he, y, hy, hx⟩)
        · cases hself
        · cases hx
          obtain ⟨u, hu, hkind⟩ := (ih e he (hentries e he).2).1 hy
          exact ⟨u, by rw [at?, (child?_eq_some_iff hnodup).2 he]; exact hu, hkind⟩
      · rintro ⟨u, hu, hkind⟩
        rw [at?] at hu
        obtain ⟨v, hv, hu⟩ := Option.bind_eq_some_iff.1 hu
        have he := (child?_eq_some_iff hnodup).1 hv
        exact .inr ⟨(name, v), he, ⟨path, kind⟩, (ih _ he (hentries _ he).2).2 ⟨u, hu, hkind⟩, rfl⟩
  | _ =>
    obtain ⟨_ | ⟨name, path⟩, kind⟩ := x <;> simp [FileTree.entries, at?, FileTree.kind, eq_comm]

theorem properName_of_at? (h : t.Proper) (hu : t.at? place = some u) : ∀ n ∈ place, ProperName n := by
  induction place generalizing t with
  | nil => simp
  | cons name place ih =>
    obtain ⟨entries, rfl, v, hv, hu⟩ := at?_cons.1 hu
    obtain ⟨hnodup, hentries⟩ := proper_directory.1 h
    obtain ⟨hname, hproper⟩ := hentries _ ((child?_eq_some_iff hnodup).1 hv)
    exact List.forall_mem_cons.2 ⟨hname, ih hproper hu⟩

/-! ### The order of the walk -/

/-- Places in the order of their names, which are compared one by one as bytes. -/
def Before (a b : List String) : Prop := a.map bytes < b.map bytes

theorem before_cons {m n : String} {a b : List String} : Before (m :: a) (n :: b) ↔ m < n ∨ m = n ∧ Before a b := by
  have hbytes : bytes m = bytes n ↔ m = n := by
    refine ⟨fun h => ?_, congrArg bytes⟩
    rcases lt_trichotomy m n with hlt | heq | hgt
    · exact absurd (bytes_lt_iff.2 hlt) (h ▸ List.lt_irrefl _)
    · exact heq
    · exact absurd (bytes_lt_iff.2 hgt) (h ▸ List.lt_irrefl _)
  rw [Before, List.map_cons, List.map_cons, List.cons_lt_cons_iff, bytes_lt_iff, hbytes]
  rfl

theorem Before.irrefl (a : List String) : ¬ Before a a :=
  List.lt_irrefl _

theorem Before.asymm {a b : List String} (h : Before a b) : ¬ Before b a :=
  List.lt_asymm h

/-- Parts under different names stand in the order of the names. -/
theorem pairwise_inOrder {α : Type} {R : α → α → Prop} {parts : List (String × List α)}
    (hnodup : (parts.map (·.1)).Nodup) (hparts : ∀ p ∈ parts, p.2.Pairwise R)
    (hacross : ∀ p ∈ parts, ∀ q ∈ parts, p.1 < q.1 → ∀ a ∈ p.2, ∀ b ∈ q.2, R a b) :
    (inOrder parts).Pairwise R := by
  have hperm := List.mergeSort_perm parts fun a b => decide (a.1 ≤ b.1)
  have hsorted : (parts.mergeSort fun a b => decide (a.1 ≤ b.1)).Pairwise fun p q => p.1 ≤ q.1 := by
    refine (List.pairwise_mergeSort ?_ ?_ parts).imp fun h => of_decide_eq_true h
    · intro a b c hab hbc
      exact decide_eq_true ((of_decide_eq_true hab).trans (of_decide_eq_true hbc))
    · intro a b
      simpa using le_total a.1 b.1
  have hdistinct : (parts.mergeSort fun a b => decide (a.1 ≤ b.1)).Pairwise fun p q => p.1 ≠ q.1 :=
    List.pairwise_map.1 ((hperm.map _).nodup_iff.2 hnodup)
  refine List.pairwise_flatMap.2 ⟨fun p hp => hparts p (hperm.mem_iff.1 hp), ?_⟩
  refine (hsorted.and hdistinct).imp_of_mem ?_
  intro p q hp hq hpq
  exact hacross p (hperm.mem_iff.1 hp) q (hperm.mem_iff.1 hq) (lt_of_le_of_ne hpq.1 hpq.2)

/-- A walk goes through a tree in increasing order of the places. -/
theorem pairwise_entries (h : t.Proper) : t.entries.Pairwise fun x y => Before x.path y.path := by
  induction t using induct with
  | directory entries ih =>
    obtain ⟨hnodup, hentries⟩ := proper_directory.1 h
    rw [FileTree.entries]
    refine List.pairwise_cons.2 ⟨fun x hx => ?_, ?_⟩
    · obtain ⟨e, -, y, -, rfl⟩ := mem_inOrder_entriesBehind.1 hx
      exact List.nil_lt_cons ..
    rw [entriesBehind_eq]
    apply pairwise_inOrder
    · rwa [List.map_map]
    · intro p hp
      obtain ⟨e, he, rfl⟩ := List.mem_map.1 hp
      refine List.pairwise_map.2 ((ih e he (hentries e he).2).imp ?_)
      exact fun hbefore => before_cons.2 (.inr ⟨rfl, hbefore⟩)
    · intro p hp q hq hlt x hx y hy
      obtain ⟨e, -, rfl⟩ := List.mem_map.1 hp
      obtain ⟨f, -, rfl⟩ := List.mem_map.1 hq
      obtain ⟨x', -, rfl⟩ := List.mem_map.1 hx
      obtain ⟨y', -, rfl⟩ := List.mem_map.1 hy
      exact before_cons.2 (.inl hlt)
  | _ => exact List.pairwise_singleton ..

/-- The places of the files in a tree, in the order of a walk. -/
def filePlaces (t : FileTree) : List (List String) := (t.entries.filter (·.kind = .file)).map (·.path)

theorem mem_filePlaces (h : t.Proper) : place ∈ t.filePlaces ↔ (t.fileAt? place).isSome := by
  have hfile : (t.fileAt? place).isSome ↔ ∃ u, t.at? place = some u ∧ u.kind = .file := by
    rw [fileAt?]
    cases t.at? place with
    | none => simp
    | some u => cases u <;> simp [bytes?, kind]
  rw [hfile, filePlaces, List.mem_map]
  constructor
  · rintro ⟨x, hx, rfl⟩
    obtain ⟨hx, hkind⟩ := List.mem_filter.1 hx
    obtain ⟨u, hu, hsame⟩ := (mem_entries h).1 hx
    exact ⟨u, hu, hsame.trans (of_decide_eq_true hkind)⟩
  · intro hplace
    exact ⟨⟨place, .file⟩, List.mem_filter.2 ⟨(mem_entries h).2 hplace, rfl⟩, rfl⟩

theorem pairwise_filePlaces (h : t.Proper) : t.filePlaces.Pairwise Before :=
  List.pairwise_map.2 ((pairwise_entries h).filter _)

theorem nodup_filePlaces (h : t.Proper) : t.filePlaces.Nodup := by
  refine (pairwise_filePlaces h).imp ?_
  rintro a _ hbefore rfl
  exact Before.irrefl a hbefore

/-- Trees with files at the same places have their files in the same order. -/
theorem filePlaces_congr (ht : t.Proper) (hu : u.Proper)
    (h : ∀ place, (t.fileAt? place).isSome = (u.fileAt? place).isSome) :
    t.filePlaces = u.filePlaces := by
  have hperm : t.filePlaces.Perm u.filePlaces := by
    refine (List.perm_ext_iff_of_nodup (nodup_filePlaces ht) (nodup_filePlaces hu)).2 fun place => ?_
    rw [mem_filePlaces ht, mem_filePlaces hu, h]
  refine hperm.eq_of_pairwise ?_ (pairwise_filePlaces ht) (pairwise_filePlaces hu)
  intro a b _ _ hab hba
  exact absurd hba hab.asymm

/-! ### The order of entries -/

/-- Trees that differ in nothing but the order of the entries in their directories. -/
inductive Rearranged : FileTree → FileTree → Prop where
  | refl (t : FileTree) : Rearranged t t
  | entries {es fs : List (String × FileTree)} (h : es.Perm fs) : Rearranged (.directory es) (.directory fs)
  | inside {t u : FileTree} (h : Rearranged t u) (name : String) (before after : List (String × FileTree)) :
    Rearranged (.directory (before ++ (name, t) :: after)) (.directory (before ++ (name, u) :: after))
  | trans {t u v : FileTree} (h : Rearranged t u) (h' : Rearranged u v) : Rearranged t v

theorem Rearranged.proper (h : Rearranged t u) (ht : t.Proper) : u.Proper := by
  induction h with
  | refl t => exact ht
  | entries hperm =>
    obtain ⟨hnodup, hentries⟩ := proper_directory.1 ht
    exact proper_directory.2 ⟨(hperm.map _).nodup_iff.1 hnodup, fun e he => hentries e (hperm.mem_iff.2 he)⟩
  | inside _ name before after ih =>
    obtain ⟨hnodup, hentries⟩ := proper_directory.1 ht
    rw [List.forall_mem_append, List.forall_mem_cons] at hentries
    obtain ⟨hbefore, ⟨hname, hproper⟩, hafter⟩ := hentries
    refine proper_directory.2 ⟨by simpa using hnodup, ?_⟩
    rw [List.forall_mem_append, List.forall_mem_cons]
    exact ⟨hbefore, ⟨hname, ih hproper⟩, hafter⟩
  | trans _ _ ih ih' => exact ih' (ih ht)

theorem Rearranged.exists_entries (h : Rearranged t u) (ht : ∃ es, t = .directory es) : ∃ fs, u = .directory fs := by
  induction h with
  | refl t => exact ht
  | entries _ => exact ⟨_, rfl⟩
  | inside _ _ _ _ _ => exact ⟨_, rfl⟩
  | trans _ _ ih ih' => exact ih' (ih ht)

/-- The order of the entries is not seen by a look at a place. -/
theorem Rearranged.fileAt? (h : Rearranged t u) (ht : t.Proper) (place : List String) :
    t.fileAt? place = u.fileAt? place := by
  induction h generalizing place with
  | refl t => rfl
  | @entries es fs hperm =>
    have hnodup := (proper_directory.1 ht).1
    have hnodup' : (fs.map (·.1)).Nodup := (hperm.map _).nodup_iff.1 hnodup
    have hchild : ∀ name, child? name es = child? name fs := by
      intro name
      refine Option.ext fun v => ?_
      rw [child?_eq_some_iff hnodup, child?_eq_some_iff hnodup', hperm.mem_iff]
    cases place with
    | nil => rfl
    | cons name place => rw [FileTree.fileAt?, FileTree.fileAt?, at?, at?, hchild]
  | @inside t u _ n before after ih =>
    have hproper : t.Proper := ((proper_directory.1 ht).2 (n, t) (by simp)).2
    cases place with
    | nil => rfl
    | cons name place =>
      have hfile := ih hproper place
      simp only [FileTree.fileAt?, at?, child?, List.find?_append, List.find?_cons] at hfile ⊢
      cases before.find? (·.1 = name) with
      | some e => rfl
      | none =>
        by_cases hname : n = name
        · simpa [hname] using hfile
        · simp [hname]
  | trans hfirst _ ih ih' => rw [ih ht, ih' (hfirst.proper ht)]

/-! ### Paths -/

/-- A path is made of its names in one way. -/
theorem ofParts_inj {a b : List String} (ha : ∀ n ∈ a, ProperName n) (hb : ∀ n ∈ b, ProperName n)
    (h : Path.ofParts a = Path.ofParts b) : a = b := by
  have hslash : ∀ {parts : List String}, (∀ n ∈ parts, ProperName n) →
      ∀ cs ∈ parts.map String.toList, '/' ∉ cs := by
    intro parts hparts cs hcs
    obtain ⟨n, hn, rfl⟩ := List.mem_map.1 hcs
    exact (hparts n hn).2
  have hchars : ∀ parts : List String, (Path.ofParts parts).toList = ['/'].intercalate (parts.map String.toList) :=
    fun parts => String.toList_intercalate
  have hempty : ∀ {parts : List String}, (∀ n ∈ parts, ProperName n) → (Path.ofParts parts).toList = [] →
      parts = [] := by
    intro parts hparts hnil
    by_contra hne
    -- a path without characters has the empty name as its only part
    have hsplit := List.splitOn_intercalate '/' (hslash hparts) (by simpa using hne)
    rw [← hchars, hnil, List.splitOn_nil] at hsplit
    obtain ⟨n, hn, hname⟩ : ∃ n ∈ parts, n.toList = [] :=
      List.mem_map.1 (hsplit ▸ List.mem_singleton_self ([] : List Char))
    exact (hparts n hn).1 (by simpa using hname)
  by_cases hnil : a = []
  · subst hnil
    exact (hempty hb (by rw [← h]; rfl)).symm
  · have hnil' : b ≠ [] := by
      rintro rfl
      exact hnil (hempty ha (by rw [h]; rfl))
    have hmap : a.map String.toList = b.map String.toList := by
      rw [← List.splitOn_intercalate '/' (hslash ha) (by simpa using hnil), ← hchars, h, hchars,
        List.splitOn_intercalate '/' (hslash hb) (by simpa using hnil')]
    exact List.map_injective_iff.2 (fun _ _ => String.toList_injective) hmap

theorem nodup_paths (h : t.Proper) : (t.filePlaces.map Path.ofParts).Nodup := by
  have hproper : ∀ place ∈ t.filePlaces, ∀ n ∈ place, ProperName n := by
    intro place hplace
    obtain ⟨x, hx, rfl⟩ := List.mem_map.1 hplace
    obtain ⟨u, hu, -⟩ := (mem_entries h).1 (List.mem_of_mem_filter hx)
    exact properName_of_at? h hu
  refine (nodup_filePlaces h).map_on ?_
  intro a ha b hb
  exact ofParts_inj (hproper a ha) (hproper b hb)

/-! ### Input directories -/

/-- A path leads to the same spot whether a link at its end is followed or not, unless there is one. -/
theorem follow_last {root : FileTree} {links : Nat} {parts : List String} {spot : Spot}
    (h : follow root true links place parts = .ok spot) :
    follow root false links place parts = .ok spot ∨
      ∃ end' target, follow root false links place parts = .ok (.found end' (.link target)) := by
  fun_induction follow root true links place parts with
  | case1 links place t ht =>
    left
    simp only [follow, ht]
    exact h
  | case4 links place rest entries hplace ih =>
    have hstep : follow root false links place ("." :: rest) = follow root false links place rest := by
      simp only [follow, hplace, if_true]
    rw [hstep]
    exact ih h
  | case5 links place rest entries hplace hdot ih =>
    have hstep : follow root false links place (".." :: rest) = follow root false links place.dropLast rest := by
      simp only [follow, hplace, if_neg hdot, if_true]
    rw [hstep]
    exact ih h
  | case7 links place name entries hplace hdot hdots hsize hchild =>
    left
    simp only [follow, hplace, if_neg hdot, if_neg hdots, if_neg hsize, hchild, if_true]
    exact h
  | case11 place name rest entries hplace hdot hdots hsize target hchild _ links ih =>
    by_cases hrest : rest = []
    · refine .inr ⟨place ++ [name], target, ?_⟩
      simp [follow, hplace, if_neg hdot, if_neg hdots, if_neg hsize, hchild, hrest]
    · have hstep : follow root false (links + 1) place (name :: rest) =
          follow root false links (if target.startsWith "/" then [] else place) (partsOf target ++ rest) := by
        rw [follow]
        simp only [hplace, if_neg hdot, if_neg hdots, if_neg hsize, hchild, hrest, false_and, if_false]
      rw [hstep]
      exact ih h
  | case12 place name rest entries hplace hdot hdots hsize v links hlink hchild ih =>
    have hstep : follow root false links place (name :: rest) = follow root false links (place ++ [name]) rest := by
      rw [follow]
      simp only [hplace, if_neg hdot, if_neg hdots, if_neg hsize]
      cases v with
      | link target => exact absurd rfl (hlink target)
      | _ => simp only [hchild]
    rw [hstep]
    exact ih h
  | case9 _ _ _ _ _ _ _ _ _ _ _ hlast => simp at hlast
  | _ => cases h

theorem resolve_last {root : FileTree} {path : String} (h : root.resolve true path = .ok t) :
    root.resolve false path = .ok t ∨ ∃ target, root.resolve false path = .ok (.link target) := by
  have hlocate : ∃ place, root.locate true path = .ok (.found place t) := by
    unfold resolve at h
    split at h
    · next place _ hspot =>
      obtain rfl := Except.ok.inj h
      exact ⟨place, hspot⟩
    · cases h
    · cases h
  obtain ⟨place, hspot⟩ := hlocate
  unfold locate at hspot
  split at hspot
  · cases hspot
  · next hne =>
    rcases follow_last hspot with hsame | ⟨end', target, hlink⟩
    · exact .inl (by simp only [resolve, locate, if_neg hne, hsame])
    · exact .inr ⟨target, by simp only [resolve, locate, if_neg hne, hlink]⟩

theorem stripPrefix?_append (base parts : List String) : Path.stripPrefix? base (base ++ parts) = some parts := by
  induction base with
  | nil => rfl
  | cons a base ih => simpa [Path.stripPrefix?] using ih

/-- Of entries below the path that a walk began with, the files are kept. -/
theorem files_map_ok (input : String) (xs : List Entry) :
    Walk.files input (xs.map fun x => .ok ⟨Path.components input ++ x.path, x.kind⟩) =
      .ok (((xs.filter (·.kind = .file)).map (·.path)).map Path.ofParts) := by
  induction xs with
  | nil => rfl
  | cons x xs ih =>
    rw [List.map_cons, Walk.files, ih]
    by_cases hfile : x.kind = .file
    · simp only [hfile, ne_eq, not_true, if_false, stripPrefix?_append, decide_true, List.filter_cons_of_pos,
        List.map_cons]
      rfl
    · simp only [hfile, ne_eq, not_false_iff, if_true, decide_false, Bool.false_eq_true, not_false_iff,
        List.filter_cons_of_neg]

/-- The files of the walk from the path of a directory are those of the directory. -/
theorem files_of_walk {root : FileTree} {input : String} (h : root.resolve true input = .ok (.directory entries)) :
    (root.walk input).files input = .ok ((directory entries).filePlaces.map Path.ofParts) := by
  rcases resolve_last h with hsame | ⟨target, hlink⟩
  · simp only [walk, hsame]
    exact files_map_ok input _
  · simp only [walk, hlink, h]
    rw [files_map_ok]
    -- the link and the directory itself are no files
    rfl

theorem after_files {root : FileTree} {input : String} {paths : List String} (output : String)
    (h : (root.walk input).files input = .ok paths) :
    FileSystem.after (fileSystem.host input output).files root = (.ok paths, root) := by
  have hwalk : FileSystem.after (monadLift (fileSystem.walk input) : ExceptT Failure (StateM FileTree) Walk) root =
      (.ok (root.walk input), root) := rfl
  refine (FileSystem.after_bind ..).trans ?_
  rw [hwalk]
  simp only [h]
  rfl

/-- The files under a directory are found, each of them once, by the paths of their places from there and in the order
of their places. No order of the entries in the directories makes a difference. -/
theorem files_of_directory {root : FileTree} {input : String} (output : String)
    (hinput : root.resolve true input = .ok (.directory entries)) (hproper : (directory entries).Proper) :
    ∃ places : List (List String),
      FileSystem.after (fileSystem.host input output).files root = (.ok (places.map Path.ofParts), root) ∧
      (∀ place, place ∈ places ↔ ((directory entries).fileAt? place).isSome) ∧
      (places.map Path.ofParts).Nodup ∧
      places.Pairwise Before ∧
      ∀ {root' u : FileTree} {input' : String}, root'.resolve true input' = .ok u → (directory entries).Rearranged u →
        FileSystem.after (fileSystem.host input' output).files root' = (.ok (places.map Path.ofParts), root') := by
  refine ⟨(directory entries).filePlaces, after_files output (files_of_walk hinput),
    fun place => mem_filePlaces hproper,
    nodup_paths hproper, pairwise_filePlaces hproper, ?_⟩
  intro root' u input' hinput' hrearranged
  have hplaces : (directory entries).filePlaces = u.filePlaces := by
    refine filePlaces_congr hproper (hrearranged.proper hproper) fun place => ?_
    rw [hrearranged.fileAt? hproper]
  obtain ⟨entries', rfl⟩ := hrearranged.exists_entries ⟨entries, rfl⟩
  rw [hplaces]
  exact after_files output (files_of_walk hinput')

/-- Two arrangements of a directory with a link, a socket, and names that would stand in another order as texts. -/
theorem files_of_directory_rearranged :
    let nested : List (String × FileTree) := [("z", .file .empty), ("b", .file .empty)]
    let entries : List (String × FileTree) :=
      [("a.bf", .file .empty), ("s", .special), ("a", .directory nested), ("l", .link "a")]
    let entries' : List (String × FileTree) :=
      [("a", .directory nested.reverse), ("l", .link "a"), ("a.bf", .file .empty), ("s", .special)]
    let root : FileTree := .directory [("in", .directory entries)]
    let root' : FileTree := .directory [("in", .directory entries')]
    root.resolve true "in" = .ok (.directory entries) ∧ (directory entries).Proper ∧
      root'.resolve true "in" = .ok (.directory entries') ∧ (directory entries).Rearranged (.directory entries') ∧
      FileSystem.after (fileSystem.host "in" "out").files root = (.ok ["a/b", "a/z", "a.bf"], root) ∧
      FileSystem.after (fileSystem.host "in" "out").files root' = (.ok ["a/b", "a/z", "a.bf"], root') := by
  intro nested entries entries' root root'
  have hinput : root.resolve true "in" = .ok (.directory entries) := by cbv
  have hinput' : root'.resolve true "in" = .ok (.directory entries') := by cbv
  have hproper : (directory entries).Proper := by
    simp [Proper, ProperEntries, entries, nested, ProperName]
  have hinside : (directory entries).Rearranged (.directory
      [("a.bf", .file .empty), ("s", .special), ("a", .directory nested.reverse), ("l", .link "a")]) :=
    .inside (.entries nested.reverse_perm.symm) "a" [("a.bf", .file .empty), ("s", .special)] [("l", .link "a")]
  have hrearranged : (directory entries).Rearranged (.directory entries') :=
    hinside.trans (.entries (@List.perm_append_comm _ [("a.bf", file .empty), ("s", special)] [_, _]))
  have hlisted : FileSystem.after (fileSystem.host "in" "out").files root = (.ok ["a/b", "a/z", "a.bf"], root) :=
    after_files "out" ((files_of_walk hinput).trans (by cbv))
  obtain ⟨places, hfiles, -, -, -, hsame⟩ := files_of_directory "out" hinput hproper
  have hplaces : places.map Path.ofParts = ["a/b", "a/z", "a.bf"] :=
    Except.ok.inj (congrArg Prod.fst (hfiles.symm.trans hlisted))
  exact ⟨hinput, hproper, hinput', hrearranged, hlisted, hplaces ▸ hsame hinput' hrearranged⟩

end TapeLang.FileTree
