/-
The names that the symbols tool exports.

The union does not depend on the order of the inputs, nor on how often or under
which path a file is given: a name is in it exactly when some input names it.
-/

import Mathlib.Data.List.Dedup
import Liuqin.DeviceTree.Labels

namespace Liuqin.DeviceTree

open Liuqin.Library Liuqin.Library.Lines Liuqin.Library.Checked

/-! ### The overlays -/

variable {Path : Type} {files : Files Path}

/-- A path that the options name, or an entry of a directory that they name. -/
def Overlay (files : Files Path) (options : Options Path) (path : Path) : Prop :=
  path ∈ options.overlayDtbs ∨ ∃ directory ∈ options.overlayDirs, ∃ children,
    files.children directory = some children ∧ ∃ number, (number, path) ∈ entriesOf files children

theorem requireFile_ok {path result : Path} (passed : requireFile files path = .ok result) :
    result = path := by
  unfold requireFile at passed
  split at passed
  · cases passed
    rfl
  · cases passed

theorem mem_directoryOverlays {directory path : Path} {found : List Path}
    (passed : directoryOverlays files directory = .ok found) :
    path ∈ found ↔ ∃ children, files.children directory = some children ∧
      ∃ number, (number, path) ∈ entriesOf files children := by
  unfold directoryOverlays at passed
  cases listed : files.children directory with
  | none =>
      rw [listed] at passed
      cases passed
  | some children =>
      rw [listed] at passed
      dsimp only at passed
      split at passed
      · cases passed
      · cases passed
        rw [List.mem_map]
        constructor
        · rintro ⟨entry, member, rfl⟩
          exact ⟨children, rfl, entry.1, (List.mem_insertionSort _).mp member⟩
        · rintro ⟨_, same, number, member⟩
          cases same
          exact ⟨(number, path), (List.mem_insertionSort _).mpr member, rfl⟩

theorem dedupe_subset [DecidableEq Path] {seen paths : List Path} {path : Path}
    (member : path ∈ dedupe files seen paths) : path ∈ paths := by
  induction paths generalizing seen with
  | nil => cases member
  | cons first rest ih =>
      rw [dedupe] at member
      split at member
      · exact List.mem_cons_of_mem _ (ih member)
      · rcases List.mem_cons.mp member with rfl | later
        · exact List.mem_cons_self
        · exact List.mem_cons_of_mem _ (ih later)

/-- A path that is left out leads where an earlier one leads. -/
theorem dedupe_covers [DecidableEq Path] {seen paths : List Path} {path : Path} (member : path ∈ paths) :
    files.resolve path ∈ seen ∨
      ∃ other ∈ dedupe files seen paths, files.resolve other = files.resolve path := by
  induction paths generalizing seen with
  | nil => cases member
  | cons first rest ih =>
      rw [dedupe]
      rcases List.mem_cons.mp member with rfl | later
      · split
        · rename_i known
          exact .inl known
        · exact .inr ⟨path, List.mem_cons_self, rfl⟩
      · split
        · exact ih later
        · have further : files.resolve path ∈ files.resolve first :: seen ∨
              ∃ other ∈ dedupe files (files.resolve first :: seen) rest,
                files.resolve other = files.resolve path := ih later
          rcases further with known | ⟨other, inside, same⟩
          · rcases List.mem_cons.mp known with here | before
            · exact .inr ⟨first, List.mem_cons_self, here.symm⟩
            · exact .inl before
          · exact .inr ⟨other, List.mem_cons_of_mem _ inside, same⟩

/-- Every overlay is collected, under this path or another one. -/
theorem collectOverlays_ok [DecidableEq Path] {options : Options Path} {overlays : List Path}
    (passed : collectOverlays files options.overlayDtbs options.overlayDirs = .ok overlays) :
    (∀ path ∈ overlays, Overlay files options path) ∧
    ∀ path, Overlay files options path →
      ∃ other ∈ overlays, files.resolve other = files.resolve path := by
  unfold collectOverlays at passed
  obtain ⟨named, checked, passed⟩ := (bind_eq_ok _ _ _).mp passed
  obtain ⟨found, listed, passed⟩ := (bind_eq_ok _ _ _).mp passed
  have whole := (pure_eq_ok _ _).mp passed
  have each := mapM_forall checked
  have lists := mapM_forall listed
  have members : ∀ path, path ∈ named ++ found.flatten ↔ Overlay files options path := by
    intro path
    rw [List.mem_append, List.mem_flatten]
    constructor
    · rintro (own | ⟨list, inside, member⟩)
      · obtain ⟨given, member, same⟩ := forall_right each own
        rw [requireFile_ok same]
        exact .inl member
      · obtain ⟨directory, given, same⟩ := forall_right lists inside
        exact .inr ⟨directory, given, (mem_directoryOverlays same).mp member⟩
    · rintro (given | ⟨directory, given, entry⟩)
      · obtain ⟨result, inside, same⟩ := forall_left each given
        rw [requireFile_ok same] at inside
        exact .inl inside
      · obtain ⟨list, inside, same⟩ := forall_left lists given
        exact .inr ⟨list, inside, (mem_directoryOverlays same).mpr entry⟩
  rw [← whole]
  constructor
  · intro path member
    exact (members path).mp (dedupe_subset member)
  · intro path overlay
    have covers : files.resolve path ∈ [] ∨ ∃ other ∈ dedupe files [] (named ++ found.flatten),
        files.resolve other = files.resolve path := dedupe_covers ((members path).mpr overlay)
    rcases covers with known | covered
    · cases known
    · exact covered

/-! ### The names -/

/-- Some input names it. -/
def Wanted (files : Files Path) (options : Options Path) (name : Text) : Prop :=
  (∃ path tree, Overlay files options path ∧ files.tree path = some tree ∧
    name ∈ labels fixupsNode tree) ∨
  ∃ path tree, path ∈ options.symbolsFromDtb ∧ files.tree path = some tree ∧
    name ∈ labels symbolsNode tree

/-- The inputs are plain where the tool reads them. -/
structure PlainInputs (files : Files Path) (options : Options Path) : Prop where
  overlays : ∀ path tree, Overlay files options path → files.tree path = some tree →
    Plain fixupsNode tree
  bases : ∀ path tree, path ∈ options.symbolsFromDtb → files.tree path = some tree →
    Plain symbolsNode tree

theorem exportedNames_ok {node : Text} (named : legalName node = true) {path : Path}
    {names : List Text} (passed : exportedNames files node path = .ok names)
    (plain : ∀ tree, files.tree path = some tree → Plain node tree) :
    ∃ tree, files.tree path = some tree ∧ ∀ name, name ∈ names ↔ name ∈ labels node tree := by
  unfold exportedNames at passed
  cases decoded : files.tree path with
  | none =>
      rw [decoded] at passed
      cases passed
  | some tree =>
      obtain ⟨body, extracted, same⟩ := blockProperties_plain named (plain tree decoded)
      rw [decoded] at passed
      dsimp only at passed
      rw [extracted] at passed
      dsimp only at passed
      split at passed
      · cases passed
      · cases passed
        exact ⟨tree, rfl, same⟩

theorem baseDtbSymbols_ok {path : Path} {names : List Text}
    (passed : baseDtbSymbols files path = .ok names) :
    exportedNames files symbolsNode path = .ok names := by
  unfold baseDtbSymbols at passed
  obtain ⟨base, checked, passed⟩ := (bind_eq_ok _ _ _).mp passed
  rw [requireFile_ok checked] at passed
  exact passed

theorem mem_sorted {names : List Text} {name : Text} : name ∈ sorted names ↔ name ∈ names := by
  rw [sorted, List.mem_insertionSort, List.mem_dedup]

theorem sorted_nodup (names : List Text) : (sorted names).Nodup :=
  (List.perm_insertionSort _ _).nodup_iff.mpr (List.nodup_dedup _)

/-- The union is what the inputs name. -/
theorem symbolUnion_ok [DecidableEq Path] {options : Options Path} {symbols : List Text}
    (plain : PlainInputs files options) (passed : symbolUnion files options = .ok symbols) :
    symbols.Nodup ∧ ∀ name, name ∈ symbols ↔ Wanted files options name := by
  unfold symbolUnion at passed
  obtain ⟨_, _, passed⟩ := (bind_eq_ok _ _ _).mp passed
  obtain ⟨overlays, collected, passed⟩ := (bind_eq_ok _ _ _).mp passed
  obtain ⟨needed, overlaid, passed⟩ := (bind_eq_ok _ _ _).mp passed
  obtain ⟨exported, based, passed⟩ := (bind_eq_ok _ _ _).mp passed
  obtain ⟨_, _, passed⟩ := (bind_eq_ok _ _ _).mp passed
  rw [← (pure_eq_ok _ _).mp passed]
  obtain ⟨given, covered⟩ := collectOverlays_ok collected
  have one := mapM_forall overlaid
  have two := mapM_forall based
  refine ⟨sorted_nodup _, ?_⟩
  intro name
  rw [mem_sorted, List.mem_append, List.mem_flatten, List.mem_flatten]
  constructor
  · rintro (⟨names, inside, member⟩ | ⟨names, inside, member⟩)
    · obtain ⟨path, listed, read⟩ := forall_right one inside
      obtain ⟨tree, decoded, same⟩ := exportedNames_ok (by decide) read
        (fun tree => plain.overlays path tree (given path listed))
      exact .inl ⟨path, tree, given path listed, decoded, (same name).mp member⟩
    · obtain ⟨path, listed, read⟩ := forall_right two inside
      obtain ⟨tree, decoded, same⟩ := exportedNames_ok (by decide) (baseDtbSymbols_ok read)
        (fun tree => plain.bases path tree listed)
      exact .inr ⟨path, tree, listed, decoded, (same name).mp member⟩
  · rintro (⟨path, tree, overlay, decoded, member⟩ | ⟨path, tree, listed, decoded, member⟩)
    · obtain ⟨other, inside, link⟩ := covered path overlay
      obtain ⟨names, place, read⟩ := forall_left one inside
      obtain ⟨found, there, same⟩ := exportedNames_ok (by decide) read
        (fun tree => plain.overlays other tree (given other inside))
      have equal := files.linked other path link
      rw [there, decoded] at equal
      cases equal
      exact .inl ⟨names, place, (same name).mpr member⟩
    · obtain ⟨names, place, read⟩ := forall_left two listed
      obtain ⟨found, there, same⟩ := exportedNames_ok (by decide) (baseDtbSymbols_ok read)
        (fun tree => plain.bases path tree listed)
      rw [decoded] at there
      cases there
      exact .inr ⟨names, place, (same name).mpr member⟩

end Liuqin.DeviceTree
