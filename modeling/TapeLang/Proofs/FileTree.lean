import Mathlib.Logic.Function.Basic
import TapeLang.FileTree

/-!
# The files of a file tree

`FileTree.fileAt?` looks at a tree as its files by their places. A path leads to a tree that is there or to a name that
its directory does not have (`follow_spot`), so writing a file changes the files at one place (`exists_fileAt?_write`),
and making directories does not change them (`fileAt?_makeDirectory`).
-/

namespace TapeLang.FileTree

/-- The bytes of a file. -/
def bytes? : FileTree → Option ByteArray
  | .file bytes => some bytes
  | _ => none

/-- The file at a place. -/
def fileAt? (root : FileTree) (place : List String) : Option ByteArray :=
  (root.at? place).bind bytes?

/-! ### Entries and places -/

section

variable {root t x : FileTree} {entries : List (String × FileTree)} {name : String} {place : List String}

theorem child?_setEntry_self (name : String) (t : FileTree) (entries : List (String × FileTree)) :
    child? name (setEntry name t entries) = some t := by
  induction entries with
  | nil => simp [setEntry, child?]
  | cons e rest ih =>
    obtain ⟨n, u⟩ := e
    unfold setEntry
    split
    · next hn => simp [child?, hn]
    · next hn => simpa [child?, hn] using ih

theorem child?_setEntry_of_ne {other : String} (h : other ≠ name) (t : FileTree)
    (entries : List (String × FileTree)) : child? other (setEntry name t entries) = child? other entries := by
  induction entries with
  | nil => simp [setEntry, child?, h.symm]
  | cons e rest ih =>
    obtain ⟨n, u⟩ := e
    unfold setEntry
    split
    · next hn =>
      have hother : ¬ n = other := fun hno => h (hno.symm.trans hn)
      simp [child?, hother]
    · by_cases hother : n = other
      · simp [child?, hother]
      · simpa [child?, hother] using ih

theorem at?_cons : root.at? (name :: place) = some t ↔
    ∃ entries, root = .directory entries ∧ ∃ u, child? name entries = some u ∧ u.at? place = some t := by
  cases root <;> simp [at?, Option.bind_eq_some_iff]

theorem at?_append (root : FileTree) (as bs : List String) :
    root.at? (as ++ bs) = (root.at? as).bind (·.at? bs) := by
  induction as generalizing root with
  | nil => simp [at?]
  | cons a as ih =>
    cases root with
    | directory entries =>
      rw [List.cons_append, at?, at?]
      cases child? a entries with
      | none => rfl
      | some u => exact ih u
    | _ => rfl

theorem at?_concat (h : root.at? place = some (.directory entries)) :
    root.at? (place ++ [name]) = child? name entries := by
  rw [at?_append, h, Option.bind_some, at?]
  cases child? name entries <;> rfl

theorem exists_directory_of_at?_concat (h : root.at? (place ++ [name]) = some t) :
    ∃ entries, root.at? place = some (.directory entries) := by
  rw [at?_append] at h
  obtain ⟨u, hu, hname⟩ := Option.bind_eq_some_iff.1 h
  obtain ⟨entries, rfl, -⟩ := at?_cons.1 hname
  exact ⟨entries, hu⟩

/-! ### Putting trees into places -/

/-- What is put into a directory replaces the files behind its place, and leaves the others. -/
theorem fileAt?_put (h : root.at? place = some (.directory entries)) (name : String) (x : FileTree)
    (other : List String) :
    fileAt? (root.put (place ++ [name]) x) other =
      if place ++ [name] <+: other then x.fileAt? (other.drop (place.length + 1)) else root.fileAt? other := by
  induction place generalizing root other with
  | nil =>
    obtain rfl := Option.some.inj h
    cases other with
    | nil => simp [put, fileAt?, at?, bytes?]
    | cons m ms =>
      by_cases hm : m = name
      · subst hm
        simp [put, fileAt?, at?, child?_setEntry_self]
      · simp [put, fileAt?, at?, child?_setEntry_of_ne hm, Ne.symm hm]
  | cons n place ih =>
    obtain ⟨es, rfl, u, hu, hplace⟩ := at?_cons.1 h
    cases other with
    | nil => simp [put, fileAt?, at?, bytes?]
    | cons m ms =>
      by_cases hm : m = n
      · subst hm
        have hrest := ih hplace ms
        simpa [put, fileAt?, at?, child?_setEntry_self, hu] using hrest
      · simp [put, fileAt?, at?, child?_setEntry_of_ne hm, Ne.symm hm]

/-- Nothing is behind a place that has no directory. -/
theorem fileAt?_eq_none_of_above {other : List String} (habove : place <+: other) (hne : other ≠ place)
    (h : ∀ entries, root.at? place ≠ some (.directory entries)) : root.fileAt? other = none := by
  obtain ⟨rest, rfl⟩ := habove
  cases rest with
  | nil => simp at hne
  | cons r rest =>
    rw [fileAt?, at?_append]
    cases hplace : root.at? place with
    | none => rfl
    | some u =>
      cases u with
      | directory entries => exact absurd hplace (h entries)
      | _ => rfl

theorem fileAt?_put_file (hdirectory : root.at? place = some (.directory entries))
    (hplace : ∀ es, root.at? (place ++ [name]) ≠ some (.directory es)) (bytes : ByteArray) :
    fileAt? (root.put (place ++ [name]) (.file bytes)) =
      Function.update root.fileAt? (place ++ [name]) (some bytes) := by
  funext other
  rw [fileAt?_put hdirectory, Function.update_apply]
  by_cases habove : place ++ [name] <+: other
  · rw [if_pos habove]
    by_cases hother : other = place ++ [name]
    · simp [hother, fileAt?, at?, bytes?]
    · rw [if_neg hother, fileAt?_eq_none_of_above habove hother hplace]
      obtain ⟨rest, rfl⟩ := habove
      cases rest with
      | nil => simp at hother
      | cons r rest => simp [fileAt?, at?]
  · have hother : other ≠ place ++ [name] := fun h => habove (h ▸ List.prefix_rfl)
    rw [if_neg habove, if_neg hother]

theorem fileAt?_put_empty (hdirectory : root.at? place = some (.directory entries))
    (hvacant : child? name entries = none) : fileAt? (root.put (place ++ [name]) empty) = root.fileAt? := by
  have hplace : root.at? (place ++ [name]) = none := (at?_concat hdirectory).trans hvacant
  have hempty : ∀ rest, fileAt? empty rest = none := fun rest => by
    cases rest <;> simp [empty, fileAt?, at?, child?, bytes?]
  funext other
  rw [fileAt?_put hdirectory]
  split
  · next habove =>
    rw [hempty]
    by_cases hother : other = place ++ [name]
    · rw [hother, fileAt?, hplace]
      rfl
    · exact (fileAt?_eq_none_of_above habove hother (by simp [hplace])).symm
  · rfl

end

/-! ### Following paths -/

/-- A spot is where it says that it is: a tree at its place, or a directory without the name. -/
def Spot.InTree (root : FileTree) : Spot → Prop
  | .found place t => root.at? place = some t
  | .vacant place name => ∃ entries, root.at? place = some (.directory entries) ∧ child? name entries = none

theorem follow_spot {root : FileTree} {last : Bool} {links : Nat} {place parts : List String} {spot : Spot}
    (h : follow root last links place parts = .ok spot) : spot.InTree root := by
  fun_induction follow root last links place parts with
  | case1 _ place t ht =>
    obtain rfl := Except.ok.inj h
    exact ht
  | case4 _ _ _ _ _ ih => exact ih h
  | case5 _ _ _ _ _ _ ih => exact ih h
  | case7 _ place name entries hplace _ _ _ hchild =>
    obtain rfl := Except.ok.inj h
    exact ⟨entries, hplace, hchild⟩
  | case9 place name _ entries hplace _ _ _ target _ hchild _ =>
    obtain rfl := Except.ok.inj h
    exact (at?_concat hplace).trans hchild
  | case11 _ _ _ _ _ _ _ _ _ _ _ _ ih => exact ih h
  | case12 _ _ _ _ _ _ _ _ _ _ _ _ ih => exact ih h
  | _ => cases h

theorem locate_spot {root : FileTree} {last : Bool} {path : String} {spot : Spot}
    (h : root.locate last path = .ok spot) : spot.InTree root := by
  unfold locate at h
  split at h
  · cases h
  · exact follow_spot h

/-! ### Writing -/

section

variable {root root' : FileTree}

/-- A file that is written changes the files at one place. -/
theorem exists_fileAt?_write {path : String} {bytes : ByteArray} (h : root.write path bytes = .ok root') :
    ∃ place, root'.fileAt? = Function.update root.fileAt? place (some bytes) := by
  unfold write at h
  split at h
  · split at h <;> cases h
  · split at h
    · cases h
    · next place name hspot =>
      obtain rfl := Except.ok.inj h
      obtain ⟨entries, hplace, hvacant⟩ := locate_spot hspot
      have hnone : root.at? (place ++ [name]) = none := (at?_concat hplace).trans hvacant
      exact ⟨_, fileAt?_put_file hplace (by simp [hnone]) bytes⟩
    · next place old hspot =>
      obtain rfl := Except.ok.inj h
      have hfile : root.at? place = some (.file old) := locate_spot hspot
      rcases List.eq_nil_or_concat place with rfl | ⟨front, name, rfl⟩
      · -- the root itself is the file
        obtain rfl := Option.some.inj hfile
        refine ⟨[], ?_⟩
        funext other
        rw [Function.update_apply]
        cases other <;> simp [put, fileAt?, at?, bytes?]
      · rw [List.concat_eq_append] at hfile ⊢
        obtain ⟨entries, hfront⟩ := exists_directory_of_at?_concat hfile
        exact ⟨_, fileAt?_put_file hfront (by simp [hfile]) bytes⟩
    · cases h
    · cases h

theorem fileAt?_add_empty {path : String} (h : root.add path empty = .ok root') : root'.fileAt? = root.fileAt? := by
  unfold add at h
  dsimp only at h
  generalize (if path.endsWith "/" = true then (partsOf path).dropLast else partsOf path) = parts at h
  split at h
  · cases h
  · next place name hspot =>
    obtain rfl := Except.ok.inj h
    have hspot : Spot.InTree root (.vacant place name) := by
      split at hspot
      · cases hspot
      · exact follow_spot hspot
    obtain ⟨entries, hplace, hvacant⟩ := hspot
    exact fileAt?_put_empty hplace hvacant
  · cases h

theorem fileAt?_makeDirectories {paths : List String} (h : root.makeDirectories paths = .ok root') :
    root'.fileAt? = root.fileAt? := by
  induction paths generalizing root' with
  | nil =>
    obtain rfl := Except.ok.inj h
    rfl
  | cons path above ih =>
    have hthere : ∀ {t t' : FileTree} {e : FileError},
        (if t.isDirectory path = true then Except.ok t else .error e) = .ok t' → t' = t := by
      intro t t' e h
      split at h
      · exact (Except.ok.inj h).symm
      · cases h
    unfold makeDirectories at h
    dsimp only at h
    split at h
    · obtain rfl := Except.ok.inj h
      rfl
    · split at h
      · next hadd =>
        obtain rfl := Except.ok.inj h
        exact fileAt?_add_empty hadd
      · split at h
        · cases h
        · next hmade =>
          rw [← ih hmade]
          split at h
          · next hadd =>
            obtain rfl := Except.ok.inj h
            exact fileAt?_add_empty hadd
          · rw [hthere h]
      · rw [hthere h]

theorem fileAt?_makeDirectory {path : String} (h : root.makeDirectory path = .ok root') :
    root'.fileAt? = root.fileAt? :=
  fileAt?_makeDirectories h

end

end TapeLang.FileTree
