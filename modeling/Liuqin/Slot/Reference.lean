/-
A disk that the slot tool accepts.

The two copies have the same entries, boot_a first and boot_b next; slot a was
chosen and is not marked yet.  Apart from the copies the disk holds zeros.
-/

import Liuqin.Slot.Finish

namespace Liuqin.Slot

open Liuqin.Library Liuqin.Library.Bytes Liuqin.Library.Program Liuqin.Library.Barrier

/-- The attributes of a chosen slot that has tries left. -/
def triedAttributes : Attributes := priorityMask ||| activeBit ||| triesMask

def bootEntry (slot : Slot) (attributes : Attributes) : Bytes :=
  List.replicate 32 1 ++ little 8 (bootFirst slot) ++ little 8 (bootLast slot) ++
    little 8 attributes.toNat ++ (bootName slot).flatMap (fun byte => [byte, 0]) ++
    List.replicate 60 0

def referenceEntries : Bytes :=
  bootEntry .a triedAttributes ++ bootEntry .b 0#64 ++ List.replicate (entriesBytes - 256) 0

/-- A header without its sums. -/
def unsealedHeader (headerLba otherLba entriesLba : Nat) : Bytes :=
  encode "EFI PART".toList ++ [0, 0, 1, 0] ++ little 4 headerSize ++ List.replicate 8 0 ++
    little 8 headerLba ++ little 8 otherLba ++ little 8 firstUsable ++ little 8 (diskLbas - 5) ++
    List.replicate 16 7 ++ little 8 entriesLba ++ little 4 entryCount ++ little 4 entrySize ++
    List.replicate (sectorSize - 88) 0

def unsealedPrimary : GptCopy where
  header := unsealedHeader 1 (diskLbas - 1) 2
  entries := referenceEntries
  headerLba := 1
  entriesLba := 2

def unsealedBackup : GptCopy where
  header := unsealedHeader (diskLbas - 1) 1 (diskLbas - 4)
  entries := referenceEntries
  headerLba := diskLbas - 1
  entriesLba := diskLbas - 4

def referencePrimary : GptCopy := refreshCrcs unsealedPrimary

def referenceBackup : GptCopy := refreshCrcs unsealedBackup

def blankDisk : Bytes := List.replicate diskBytes 0

def referenceDisk : Bytes := putCopy (putCopy blankDisk referenceBackup) referencePrimary

/-- What the unsealed copies hold, evaluated. -/
theorem unsealed_evaluated :
    (referenceEntries.length = entriesBytes ∧ unsealedPrimary.header.length = sectorSize ∧
      unsealedBackup.header.length = sectorSize) ∧
    (headerPlaced diskLbas 1 unsealedPrimary.header = true ∧
      headerPlaced diskLbas (diskLbas - 1) unsealedBackup.header = true) ∧
    unsealedPrimary.entriesLba = le64 unsealedPrimary.header 72 ∧
      unsealedBackup.entriesLba = le64 unsealedBackup.header 72 := by
  decide +kernel

theorem unsealedPrimary_whole : unsealedPrimary.Whole :=
  ⟨unsealed_evaluated.1.2.1, unsealed_evaluated.1.1⟩

theorem unsealedBackup_whole : unsealedBackup.Whole :=
  ⟨unsealed_evaluated.1.2.2, unsealed_evaluated.1.1⟩

theorem referencePrimary_placed : referencePrimary.Placed :=
  ⟨refresh_whole unsealedPrimary_whole, by decide, by decide, Or.inl (by decide)⟩

theorem referenceBackup_placed : referenceBackup.Placed :=
  ⟨refresh_whole unsealedBackup_whole, by decide, by decide, Or.inr (by decide)⟩

theorem blankDisk_length : blankDisk.length = diskBytes := List.length_replicate

theorem backedDisk_length : (putCopy blankDisk referenceBackup).length = diskBytes :=
  putCopy_length referenceBackup_placed blankDisk_length

theorem referenceDisk_length : referenceDisk.length = diskBytes :=
  putCopy_length referencePrimary_placed backedDisk_length

theorem reference_primary_stands : Stands referenceDisk referencePrimary :=
  putCopy_stands referencePrimary_placed backedDisk_length

theorem reference_backup_stands : Stands referenceDisk referenceBackup := by
  apply stands_putCopy referencePrimary_placed backedDisk_length
  · exact putCopy_stands referenceBackup_placed blankDisk_length
  · exact ⟨Or.inr (by decide), Or.inr (by decide)⟩
  · exact ⟨Or.inr (by decide), Or.inr (by decide)⟩

theorem referencePrimary_loaded : Loaded referenceDisk 1 false referencePrimary := by
  have same : SameHeader referencePrimary.header unsealedPrimary.header :=
    refresh_header unsealedPrimary_whole
  constructor
  · rfl
  · rw [le64_part (same 72 80 (by omega))]
    exact unsealed_evaluated.2.2.1
  · exact reference_primary_stands
  · exact accepted_refresh unsealedPrimary_whole unsealed_evaluated.2.1.1
  · exact Or.inr (refresh_entries_sum unsealedPrimary_whole).symm

theorem referenceBackup_loaded : Loaded referenceDisk (diskLbas - 1) true referenceBackup := by
  have same : SameHeader referenceBackup.header unsealedBackup.header :=
    refresh_header unsealedBackup_whole
  constructor
  · rfl
  · rw [le64_part (same 72 80 (by omega))]
    exact unsealed_evaluated.2.2.2
  · exact reference_backup_stands
  · exact accepted_refresh unsealedBackup_whole unsealed_evaluated.2.1.2
  · exact Or.inl rfl

theorem reference_examined : examine .a referencePrimary referenceBackup = some (0, 0) := by
  have front : SameHeader referencePrimary.header unsealedPrimary.header :=
    refresh_header unsealedPrimary_whole
  have back : SameHeader referenceBackup.header unsealedBackup.header :=
    refresh_header unsealedBackup_whole
  apply examine_of
  · rw [front 56 72 (by omega), back 56 72 (by omega)]
    decide +kernel
  · rw [front 40 56 (by omega), back 40 56 (by omega)]
    decide +kernel
  · decide +kernel
  · decide +kernel
  · decide +kernel
  · decide +kernel
  · decide +kernel

/-- Slot a can be marked on the reference disk. -/
def referenceMarking : Marking .a referenceDisk where
  primary := referencePrimary
  backup := referenceBackup
  own := 0
  sized := referenceDisk_length
  first := referencePrimary_loaded
  second := referenceBackup_loaded
  examined := reference_examined

theorem reference_names : SameNames referenceMarking.backup referenceMarking.primary :=
  names_entries (rfl : referenceBackup.entries = referencePrimary.entries)

/-- A boot of slot a with nothing of the disk mounted. -/
def referenceSetting : Setting where
  testing := none
  cmdline := encode "androidboot.slot_suffix=_a".toList
  mounts := some (encode "proc /proc proc rw 0 0".toList)

/-- What the tool reads of its arguments and of the boot. -/
theorem reference_read :
    readArguments none none ["--mark", "a"] =
      some { image := none, operation := .mark, slot := .a } ∧
    cmdlineSlot referenceSetting.cmdline = some .a ∧ sdeIsUnmounted referenceSetting = true := by
  decide +kernel

theorem reference_arguments : readArguments none none ["--mark", "a"] =
    some { image := none, operation := .mark, slot := .a } :=
  reference_read.1

theorem reference_main :
    main referenceSetting ["--mark", "a"] = markSlot false .mark .a := by
  obtain ⟨_, slot, unmounted⟩ := reference_read
  unfold main
  rw [reference_arguments]
  dsimp only
  rw [slot, unmounted, if_neg (by decide), if_neg (by decide), if_neg (by decide)]

/-- The reference disk is marked. -/
theorem reference_run : ∃ last,
    Reaches (machine sectorSize)
      (main referenceSetting ["--mark", "a"], Tablet.start referenceDisk true) (.exit 0, last) ∧
      last.failed = false := by
  rw [reference_main]
  exact succeeds (fun _ => ⟨rfl, rfl⟩) ⟨referenceMarking⟩

end Liuqin.Slot
