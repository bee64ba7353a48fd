/-
Whether an archive survives being written and read back.
-/

import Liuqin.Boot.ReadBack

namespace Liuqin.Boot

open Library Library.Bytes

/-- The archive read back is the archive written; its members are aligned and in name order. -/
structure Inverse (archive : Archive) : Prop where
  read : ∃ loaded, Loads (dump archive.entries) (.ok loaded) ∧
    ∀ name, get loaded name = get archive.entries name
  aligned : ∀ front name back entry, sortedNames archive.entries = front ++ name :: back →
    get archive.entries name = some entry →
      4 ∣ (dumpNames archive.entries front).1.length ∧
      4 ∣ (dumpHead [] (firstInode + front.length) entry name).length ∧
      Stands (dump archive.entries) (dumpNames archive.entries front).1.length
        (dumpHead [] (firstInode + front.length) entry name ++ entry.data)
  ordered : (sortedNames archive.entries).Pairwise (fun one other => encode one < encode other)

/-! ### What holds of every archive -/

theorem written_append (entries : Entries) (front back : List Name) :
    written entries (front ++ back) = written entries front ++ written entries back := by
  rw [written_filterMap, written_filterMap, written_filterMap, List.filterMap_append]

theorem written_length {entries : Entries} {names : List Name}
    (keys : ∀ name ∈ names, name ∈ entries.map Prod.fst) :
    (written entries names).length = names.length := by
  induction names with
  | nil => rfl
  | cons name names ih =>
      have later := ih (fun other member => keys other (List.mem_cons_of_mem _ member))
      have key := keys name List.mem_cons_self
      rw [written]
      cases found : get entries name with
      | none =>
          exact absurd key (get_absent found)
      | some entry =>
          rw [List.length_cons, later, List.length_cons]

theorem dump_aligned (archive : Archive) (front back : List Name) (name : Name)
    (entry : CpioEntry) (split : sortedNames archive.entries = front ++ name :: back)
    (found : get archive.entries name = some entry) :
    4 ∣ (dumpNames archive.entries front).1.length ∧
      4 ∣ (dumpHead [] (firstInode + front.length) entry name).length ∧
      Stands (dump archive.entries) (dumpNames archive.entries front).1.length
        (dumpHead [] (firstInode + front.length) entry name ++ entry.data) := by
  have keys : ∀ other ∈ front, other ∈ archive.entries.map Prod.fst := by
    intro other member
    apply (sortedNames_perm archive.entries).mem_iff.mp
    rw [split]
    exact List.mem_append_left _ member
  have count := written_length keys
  have whole : items archive.entries =
      written archive.entries front ++ (name, entry) :: written archive.entries back := by
    rw [items, split, written_append, written, found]
  rw [dumpNames_eq]
  constructor
  · exact members_aligned _ _
  · constructor
    · exact dumpHead_aligned _ _ _ _
    · rw [dump_eq, whole, members_append, members, count, member_eq, padTo]
      simp only [List.append_assoc]
      have grouped := stands_here (members firstInode (written archive.entries front))
        (dumpHead [] (firstInode + front.length) entry name ++ entry.data)
      simp only [List.append_assoc] at grouped
      exact grouped _

/-! ### Which archives can be read back -/

section Back

variable {entries : Entries} (distinct : (entries.map Prod.fst).Nodup) (few : Few entries)
  (carried : ∀ item ∈ entries, Carried item.1 item.2)

include distinct few carried

/-- Plain names and few members are enough. -/
theorem read_back (plain : ∀ item ∈ entries, Plain item.1) :
    ∃ loaded, Loads (dump entries) (.ok loaded) ∧
      ∀ name, get loaded name = get entries name := by
  have same := items_perm distinct
  have apart : ((items entries).map Prod.fst).Nodup :=
    (same.map Prod.fst).nodup_iff.mpr distinct
  have small : firstInode + (items entries).length < 4294967296 := by
    rw [same.length_eq]
    exact few
  have stands : Stands (dump entries) 0
      (members firstInode (items entries) ++ last (firstInode + (items entries).length)) := by
    rw [dump_eq]
    exact List.prefix_rfl
  have ends : (dump entries).length = 0 +
      (members firstInode (items entries) ++
        last (firstInode + (items entries).length)).length := by
    rw [dump_eq, Nat.zero_add]
  have walk := loadLoop_members [] (Nat.dvd_zero 4) small
    (fun item member => carried item (same.mem_iff.mp member))
    (fun item member => plain item (same.mem_iff.mp member)) stands ends
  rw [putAll_fresh (by rw [List.nil_append]; exact apart), List.nil_append] at walk
  refine ⟨items entries, ⟨_, walk⟩, ?_⟩
  intro name
  exact get_perm same apart name

/-- A name that is not plain makes the archive unreadable. -/
theorem unreadable (sane : ∀ item ∈ entries, Plain item.1 ∨ ∀ char ∈ item.1, char.val.toNat ≠ 0)
    (cut : ∃ item ∈ entries, ¬ Plain item.1) (loaded : Entries) :
    ¬ Loads (dump entries) (.ok loaded) := by
  have same := items_perm distinct
  have small : firstInode + (items entries).length < 4294967296 := by
    rw [same.length_eq]
    exact few
  obtain ⟨item, member, notPlain⟩ := cut
  have present : item ∈ items entries := same.mem_iff.mpr member
  have stands : Stands (dump entries) 0 (members firstInode (items entries)) := by
    rw [dump_eq]
    exact List.prefix_append _ _
  rintro ⟨fuel, ended⟩
  exact loadLoop_cut [] (Nat.dvd_zero 4) small
    (fun item member => carried item (same.mem_iff.mp member))
    (fun item member => sane item (same.mem_iff.mp member)) ⟨item, present, notPlain⟩
    stands fuel loaded ended

end Back

theorem Archive.carried (archive : Archive) :
    ∀ item ∈ archive.entries, Carried item.1 item.2 :=
  fun item member => carried_of_fitting (archive.proper item member) (archive.fitting item member)

theorem read_plain {archive : Archive} (few : Few archive.entries)
    (plain : ∀ item ∈ archive.entries, Plain item.1) :
    ∃ loaded, Loads (dump archive.entries) (.ok loaded) ∧
      ∀ name, get loaded name = get archive.entries name :=
  read_back archive.distinct few archive.carried plain

theorem read_cut {archive : Archive} (few : Few archive.entries)
    (cut : ∃ item ∈ archive.entries, ¬ Plain item.1) (loaded : Entries) :
    ¬ Loads (dump archive.entries) (.ok loaded) :=
  unreadable archive.distinct few archive.carried
    (fun item member => Or.inr (archive.proper item member).nulFree) cut loaded

/-- An archive with few members is read back exactly when all its names are plain. -/
theorem cpio_inverse (archive : Archive) :
    (Few archive.entries ∧ (∀ item ∈ archive.entries, Plain item.1) → Inverse archive) ∧
      (Few archive.entries → Inverse archive → ∀ item ∈ archive.entries, Plain item.1) := by
  constructor
  · rintro ⟨few, plain⟩
    constructor
    · exact read_plain few plain
    · intro front name back entry split found
      exact dump_aligned archive front back name entry split found
    · exact sortedNames_increasing archive.distinct
  · intro few inverse item member
    apply Classical.byContradiction
    intro notPlain
    obtain ⟨loaded, loads, _⟩ := inverse.read
    exact read_cut few ⟨item, member, notPlain⟩ loaded loads

/-- One empty regular file, named by a single letter outside ASCII. -/
def accented : Archive where
  entries := [(['é'], { mode := 0o100644 })]
  distinct := by decide
  proper := by
    intro item member
    rw [List.mem_singleton.mp member]
    constructor
    · decide
    · simp
    · decide
    · decide
    · decide
  fitting := by
    intro item member
    rw [List.mem_singleton.mp member]
    constructor <;> first | exact ⟨by decide, by decide⟩ | exact (by decide : 0 < 4294967296)

theorem accented_lost : ¬ Inverse accented := by
  intro inverse
  obtain ⟨loaded, loads, _⟩ := inverse.read
  have cut : ∃ item ∈ accented.entries, ¬ Plain item.1 := by
    refine ⟨(['é'], { mode := 0o100644 }), List.mem_singleton_self _, ?_⟩
    rintro ⟨ascii, _⟩
    have small := ascii 'é' (List.mem_singleton_self _)
    revert small
    decide
  have few : Few accented.entries := (by decide : 300001 < 4294967296)
  exact read_cut few cut loaded loads

end Liuqin.Boot
