/-
Runs of the slot tool after a power loss.

What a power loss leaves is accepted again while the old primary stands, and
becomes the disk that the first run was about to make, as long as the arrays of
the two copies name the same sectors.
-/

import Liuqin.Slot.Torn

namespace Liuqin.Slot

open Liuqin.Library Liuqin.Library.Bytes Liuqin.Library.Program Liuqin.Library.Barrier

/-! ### After a power loss -/

namespace Marking

variable {slot : Slot} {disk image : Bytes} (marking : Marking slot disk)

/-- What stands in the place of the backup. -/
def backupOn (image : Bytes) : GptCopy where
  header := part image (marking.backup.headerLba * sectorSize)
    ((marking.backup.headerLba + 1) * sectorSize)
  entries := part image (marking.backup.entriesLba * sectorSize)
    ((marking.backup.entriesLba + entriesSectors) * sectorSize)
  headerLba := marking.backup.headerLba
  entriesLba := marking.backup.entriesLba

theorem half_backup : Stands marking.half marking.newBackup :=
  putCopy_stands marking.newBackup_placed marking.sized

variable {marking}

theorem backupOn_header (mixed : Mixed sectorSize disk marking.half image) :
    (marking.backupOn image).header = marking.backup.header ∨
      (marking.backupOn image).header = marking.newBackup.header := by
  rcases mixed.sectors marking.backup.headerLba with old | new
  · left
    exact old.trans marking.second.stands.header
  · right
    exact new.trans marking.half_backup.header

/-- An entry of the array is in one sector. -/
theorem entry_sector (copy : GptCopy) (index : Nat) :
    copy.entry index =
      part (sector sectorSize copy.entries (index / 32)) (index % 32 * 128)
        (index % 32 * 128 + 128) := by
  have inside : index / 32 * 4096 + (index % 32 * 128 + 128) ≤ (index / 32 + 1) * 4096 := by
    omega
  have first : index / 32 * 4096 + index % 32 * 128 = index * 128 := by omega
  have second : index / 32 * 4096 + (index % 32 * 128 + 128) = index * 128 + 128 := by omega
  rw [sector, sectorSize, part_part _ inside, first, second, GptCopy.entry, entrySize]

theorem backupOn_entry (mixed : Mixed sectorSize disk marking.half image) {index : Nat}
    (inside : index < entryCount) :
    (marking.backupOn image).entry index = marking.backup.entry index ∨
      (marking.backupOn image).entry index = marking.newBackup.entry index := by
  have low : index / 32 < entriesSectors := by
    have three : entriesSectors = 3 := by decide
    rw [entryCount] at inside
    omega
  have here : sector sectorSize (marking.backupOn image).entries (index / 32) =
      sector sectorSize image (marking.backup.entriesLba + index / 32) :=
    sector_part sectorSize image _ low
  have before := sector_part sectorSize disk marking.backup.entriesLba low
  rw [marking.second.stands.entries] at before
  have after := sector_part sectorSize marking.half marking.newBackup.entriesLba low
  rw [marking.half_backup.entries] at after
  rw [entry_sector, entry_sector, entry_sector, here]
  rcases mixed.sectors (marking.backup.entriesLba + index / 32) with old | new
  · left
    rw [old, before]
  · right
    rw [new]
    exact congrArg (fun data => part data (index % 32 * 128) (index % 32 * 128 + 128)) after.symm

theorem backupOn_names (mixed : Mixed sectorSize disk marking.half image)
    (names : SameNames marking.backup marking.primary) :
    SameNames (marking.backupOn image) marking.primary := by
  intro index inside
  rcases backupOn_entry mixed inside with old | new
  · rw [old]
    exact names index inside
  · rw [new]
    exact marking.newPrimary_names index inside

theorem backupOn_same (mixed : Mixed sectorSize disk marking.half image) :
    SameHeader (marking.backupOn image).header marking.backup.header := by
  rcases backupOn_header mixed with old | new
  · rw [old]
    exact fun _ _ _ => rfl
  · rw [new]
    exact marking.newBackup_header

theorem backupOn_loaded (mixed : Mixed sectorSize disk marking.half image) :
    Loaded image (diskLbas - 1) true (marking.backupOn image) := by
  constructor
  · exact marking.second.lba
  · have same := le64_part (backupOn_same mixed 72 80 (by omega))
    rw [same]
    exact marking.second.array
  · exact ⟨rfl, rfl⟩
  · rcases backupOn_header mixed with old | new
    · rw [old]
      exact marking.second.accepted
    · rw [new]
      exact marking.newBackup_accepted
  · exact Or.inl rfl

theorem rerun_sized (mixed : Mixed sectorSize disk marking.half image) :
    image.length = diskBytes := by
  rw [mixed.length, marking.sized]

theorem rerun_examined (mixed : Mixed sectorSize disk marking.half image)
    (names : SameNames marking.backup marking.primary) :
    examine slot marking.primary (marking.backupOn image) = some (marking.own, marking.own) := by
  obtain ⟨_, guid, usable, found, other, _, _, looks⟩ := examine_some marking.examined
  have same := findBoot_same (backupOn_names mixed names)
  apply examine_of
  · rw [backupOn_same mixed 56 72 (by omega)]
    exact guid
  · rw [backupOn_same mixed 40 56 (by omega)]
    exact usable
  · exact found
  · exact other
  · rw [same, found]
    rfl
  · rw [same]
    exact other
  · exact looks

/-- The half-marked disk can be marked. -/
def rerun (marking : Marking slot disk) (mixed : Mixed sectorSize disk marking.half image)
    (names : SameNames marking.backup marking.primary)
    (stands : Stands image marking.primary) : Marking slot image where
  primary := marking.primary
  backup := marking.backupOn image
  own := marking.own
  sized := rerun_sized mixed
  first := marking.loaded_primary stands
  second := backupOn_loaded mixed
  examined := rerun_examined mixed names

section Again

variable (mixed : Mixed sectorSize disk marking.half image)
  (names : SameNames marking.backup marking.primary) (stands : Stands image marking.primary)

theorem rerun_newBackup : (marking.rerun mixed names stands).newBackup = marking.newBackup := by
  have long := marking.backup_placed.whole.header
  have header : ∀ sum, sealedHeader (marking.backupOn image).header sum =
      sealedHeader marking.backup.header sum := by
    intro sum
    rcases backupOn_header mixed with old | new
    · rw [old]
    · rw [new]
      exact sealed_again long _ sum
  have sum := header (crc32Bytes marking.newPrimary.entries)
  show ({ header := sealedHeader (marking.backupOn image).header
            (crc32Bytes marking.newPrimary.entries)
          entries := marking.newPrimary.entries
          headerLba := marking.backup.headerLba
          entriesLba := marking.backup.entriesLba } : GptCopy) = _
  rw [sum]
  rfl

theorem rerun_done : (marking.rerun mixed names stands).done = marking.done := by
  have half : (marking.rerun mixed names stands).half = marking.half := by
    rw [Marking.half, rerun_newBackup]
    exact putCopy_mixed marking.newBackup_placed marking.sized mixed
  rw [Marking.done, half]
  rfl

end Again

/-- A half-written primary under which the old one still stands is the old one. -/
theorem half_of_stands (mixed : Mixed sectorSize marking.half marking.done image)
    (stands : Stands image marking.primary) : image = marking.half := by
  apply eq_of_sectors (by decide : 0 < sectorSize) mixed.length
  intro index
  have written := putCopy_sector marking.newPrimary_placed marking.half_length index
  have before := marking.half_primary
  by_cases header : index = marking.newPrimary.headerLba
  · subst header
    exact stands.header.trans before.header.symm
  · rw [if_neg header] at written
    by_cases array : marking.newPrimary.entriesLba ≤ index ∧
        index < marking.newPrimary.entriesLba + entriesSectors
    · have inside : index - marking.primary.entriesLba < entriesSectors := by
        have low : marking.primary.entriesLba ≤ index := array.1
        have high : index < marking.primary.entriesLba + entriesSectors := array.2
        omega
      have place : marking.primary.entriesLba + (index - marking.primary.entriesLba) = index := by
        have low : marking.primary.entriesLba ≤ index := array.1
        omega
      have one := sector_part sectorSize image marking.primary.entriesLba inside
      have two := sector_part sectorSize marking.half marking.primary.entriesLba inside
      rw [stands.entries, place] at one
      rw [before.entries, place] at two
      rw [← one, two]
    · rw [if_neg array] at written
      rcases mixed.sectors index with old | new
      · exact old
      · exact new.trans written

end Marking

/-- What a power loss leaves of a run with the old primary still standing is a
disk on which a later run that ends with 0 finishes what the first was about to
make; it ends so unless the device is not ready or a call fails. -/
theorem rerun_completes {logical : Nat} {setting : Setting} {arguments : List String}
    {disk image : Bytes} {ro otherRo testing : Bool} {request : Request} {program : Script Empty}
    {last final : Tablet} {status : Nat} (marking : Marking request.slot disk)
    (names : SameNames marking.backup marking.primary)
    (read : readArguments none none arguments = some request)
    (run : Reaches (machine logical) (main setting arguments, Tablet.start disk ro)
      (program, last)) (left : last.cache.Leaves sectorSize image)
    (stands : Stands image marking.primary)
    (rerun : Reaches (machine logical)
      (markSlot testing .mark request.slot, Tablet.start image otherRo) (.exit status, final)) :
    (status = 0 → final.cache = Cached.settled marking.done) ∧
      (status = 0 ∨ final.failed = true ∨ ¬Ready testing logical (Tablet.start image otherRo)) := by
  have halfLength : marking.half.length = disk.length := by
    rw [marking.half_length, marking.sized]
  have mixed : Mixed sectorSize disk marking.half image := by
    rcases sound_leaves (run_sound read run) left marking with ⟨_, early⟩ | ⟨_, late⟩
    · exact early
    · rw [Marking.half_of_stands late stands]
      exact (Mixed.old halfLength).2
  have holds : wp (machine logical) (Guarded request.slot (Tablet.start image otherRo).disk)
      (Ended testing logical request.slot .mark (Tablet.start image otherRo))
      (markSlot testing .mark request.slot) (fun _ _ => False) (Tablet.start image otherRo) :=
    wp_markSlot rfl
  have ended := wp_sound holds rerun
  let next := marking.rerun mixed names stands
  constructor
  · intro zero
    obtain ⟨other, settled⟩ := ended.success zero
    have same : other = next := other.unique next
    rw [same] at settled
    rw [settled]
    exact congrArg Cached.settled (Marking.rerun_done mixed names stands)
  · rcases ended.ends with zero | one
    · exact Or.inl zero
    · right
      rcases ended.refusal one with failed | refused
      · exact Or.inl failed
      · right
        intro ready
        exact refused ⟨ready, ⟨next⟩⟩

/-- A power loss before the first call, and a run after it. -/
theorem rerun_completes_reference : ∃ final : Tablet,
    final.cache = Cached.settled referenceMarking.done := by
  have acceptable : Acceptable .a referenceDisk .mark := ⟨referenceMarking⟩
  have ready : Ready false sectorSize (Tablet.start referenceDisk true) := fun _ => ⟨rfl, rfl⟩
  obtain ⟨final, again, _⟩ := succeeds ready acceptable
  have start : Reaches (machine sectorSize)
      (main referenceSetting ["--mark", "a"], Tablet.start referenceDisk true)
      (main referenceSetting ["--mark", "a"], Tablet.start referenceDisk true) :=
    Relation.ReflTransGen.refl
  have left : (Tablet.start referenceDisk true).cache.Leaves sectorSize referenceDisk :=
    Cached.leaves_seen sectorSize (Cached.settled referenceDisk)
  have stands : Stands referenceDisk referenceMarking.primary := reference_primary_stands
  have both := rerun_completes referenceMarking reference_names reference_arguments start left
    stands again
  exact ⟨final, both.1 rfl⟩

end Liuqin.Slot
