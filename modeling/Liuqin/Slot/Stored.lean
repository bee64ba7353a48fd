/-
The two copies on the disk.

A copy that the tool accepts lies in its own end of the disk: the primary before
the first usable sector, the backup behind the last.  So one can be written
without touching the other, and a copy that was written is there to be read.
-/

import Liuqin.Slot.Table

namespace Liuqin.Slot

open Liuqin.Library Liuqin.Library.Bytes Liuqin.Library.Barrier

/-! ### Where a copy lies -/

def diskLbas : Nat := diskBytes / sectorSize

theorem diskLbas_eq : diskLbas = 713728 := by decide

theorem lastLba : wrap (diskLbas + 2 ^ 64 - 1) = diskLbas - 1 := by
  rw [diskLbas_eq, wrap]
  norm_num

/-- The copy stands on the disk. -/
structure Stands (disk : Bytes) (copy : GptCopy) : Prop where
  header : part disk (copy.headerLba * sectorSize) ((copy.headerLba + 1) * sectorSize) = copy.header
  entries : part disk (copy.entriesLba * sectorSize)
    ((copy.entriesLba + entriesSectors) * sectorSize) = copy.entries

/-- The header and the array of the entries are inside the disk and apart. -/
structure GptCopy.Placed (copy : GptCopy) : Prop where
  whole : copy.Whole
  header : copy.headerLba + 1 ≤ diskLbas
  entries : copy.entriesLba + entriesSectors ≤ diskLbas
  apart : copy.headerLba + 1 ≤ copy.entriesLba ∨
    copy.entriesLba + entriesSectors ≤ copy.headerLba

/-- A range of sectors that the copy does not use. -/
def GptCopy.Clear (copy : GptCopy) (start stop : Nat) : Prop :=
  (stop ≤ copy.headerLba ∨ copy.headerLba + 1 ≤ start) ∧
    (stop ≤ copy.entriesLba ∨ copy.entriesLba + entriesSectors ≤ start)

/-- The copy is read from the disk. -/
structure Loaded (disk : Bytes) (headerLba : Nat) (stale : Bool) (copy : GptCopy) : Prop where
  lba : copy.headerLba = headerLba
  array : copy.entriesLba = le64 copy.header 72
  stands : Stands disk copy
  accepted : headerAccepted diskLbas headerLba copy.header = true
  summed : stale = true ∨ crc32Bytes copy.entries = le32 copy.header 88

section Loaded

variable {disk : Bytes} {headerLba : Nat} {stale : Bool} {copy : GptCopy}

theorem Stands.whole (stands : Stands disk copy) (sized : disk.length = diskBytes)
    (header : copy.headerLba + 1 ≤ diskLbas) (entries : copy.entriesLba + entriesSectors ≤ diskLbas) :
    copy.Whole := by
  have bytes : diskLbas * sectorSize = diskBytes := by decide
  have headerEnd : (copy.headerLba + 1) * sectorSize ≤ disk.length := by
    rw [sized, ← bytes]
    exact Nat.mul_le_mul_right sectorSize header
  have entriesEnd : (copy.entriesLba + entriesSectors) * sectorSize ≤ disk.length := by
    rw [sized, ← bytes]
    exact Nat.mul_le_mul_right sectorSize entries
  constructor
  · rw [← stands.header, part_within headerEnd, Nat.add_mul, Nat.add_sub_cancel_left, Nat.one_mul]
  · rw [← stands.entries, part_within entriesEnd, Nat.add_mul, Nat.add_sub_cancel_left]
    decide

/-- What the checks of a header say. -/
theorem placed_facts {header : Bytes} (placed : headerPlaced diskLbas headerLba header = true) :
    le64 header 40 = firstUsable ∧ bootLast .b ≤ le64 header 48 ∧
      arrayPlaced headerLba (le64 header 40) (le64 header 48) (le64 header 72) = true := by
  simp only [headerPlaced, Bool.and_eq_true, beq_iff_eq, Bool.not_eq_true', decide_eq_false_iff_not,
    Nat.not_lt] at placed
  exact ⟨placed.1.1.1.1.1.2, placed.1.1.1.1.2, placed.2⟩

theorem accepted_placed {header : Bytes} (accepted : headerAccepted diskLbas headerLba header = true) :
    headerPlaced diskLbas headerLba header = true ∧ headerSum header = le32 header 16 := by
  rw [headerAccepted, Bool.and_eq_true, beq_iff_eq] at accepted
  exact accepted

/-- The array of the primary copy ends before the first usable sector. -/
theorem front_array {header : Bytes} (accepted : headerAccepted diskLbas 1 header = true) :
    2 ≤ le64 header 72 ∧ le64 header 72 + entriesSectors ≤ firstUsable := by
  obtain ⟨first, _, array⟩ := placed_facts (accepted_placed accepted).1
  rw [arrayPlaced, if_pos rfl, first] at array
  simp only [Bool.not_eq_true', Bool.or_eq_false_iff, decide_eq_false_iff_not, Nat.not_lt] at array
  have top : wrap (firstUsable + 2 ^ 64 - entriesSectors) = 3 := by decide
  have three : entriesSectors = 3 := by decide
  have six : firstUsable = 6 := rfl
  rw [top] at array
  omega

/-- The array of the backup copy lies between the last usable sector and the header. -/
theorem back_array {header : Bytes}
    (accepted : headerAccepted diskLbas (diskLbas - 1) header = true) :
    bootLast .b ≤ le64 header 48 ∧ le64 header 48 < le64 header 72 ∧
      le64 header 72 + entriesSectors ≤ diskLbas - 1 := by
  obtain ⟨_, last, array⟩ := placed_facts (accepted_placed accepted).1
  have other : ¬diskLbas - 1 = 1 := by
    rw [diskLbas_eq]
    decide
  rw [arrayPlaced, if_neg other] at array
  simp only [Bool.not_eq_true', Bool.or_eq_false_iff, decide_eq_false_iff_not, Nat.not_lt] at array
  have top : wrap (diskLbas - 1 + 2 ^ 64 - entriesSectors) = diskLbas - 1 - entriesSectors := by
    rw [diskLbas_eq]
    decide
  have three : entriesSectors = 3 := by decide
  rw [top] at array
  have many := diskLbas_eq
  omega

theorem Loaded.front (loaded : Loaded disk 1 stale copy) :
    2 ≤ copy.entriesLba ∧ copy.entriesLba + entriesSectors ≤ firstUsable := by
  rw [loaded.array]
  exact front_array loaded.accepted

theorem Loaded.back (loaded : Loaded disk (diskLbas - 1) stale copy) :
    bootLast .b ≤ le64 copy.header 48 ∧ le64 copy.header 48 < copy.entriesLba ∧
      copy.entriesLba + entriesSectors ≤ diskLbas - 1 := by
  rw [loaded.array]
  exact back_array loaded.accepted

/-- An accepted header has its array inside the disk. -/
theorem array_inside {header : Bytes} (place : headerLba = 1 ∨ headerLba = diskLbas - 1)
    (accepted : headerAccepted diskLbas headerLba header = true) :
    headerLba + 1 ≤ diskLbas ∧ le64 header 72 + entriesSectors ≤ diskLbas := by
  have many := diskLbas_eq
  have six : firstUsable = 6 := rfl
  rcases place with same | same
  · subst same
    have array := front_array accepted
    omega
  · subst same
    have array := back_array accepted
    omega

theorem Loaded.front_placed (loaded : Loaded disk 1 stale copy) (sized : disk.length = diskBytes) :
    copy.Placed := by
  obtain ⟨low, high⟩ := loaded.front
  have three : entriesSectors = 3 := by decide
  have six : firstUsable = 6 := rfl
  have many := diskLbas_eq
  have lba := loaded.lba
  constructor
  · exact loaded.stands.whole sized (by omega) (by omega)
  · omega
  · omega
  · omega

theorem Loaded.back_placed (loaded : Loaded disk (diskLbas - 1) stale copy)
    (sized : disk.length = diskBytes) : copy.Placed := by
  obtain ⟨_, _, high⟩ := loaded.back
  have three : entriesSectors = 3 := by decide
  have many := diskLbas_eq
  have lba := loaded.lba
  constructor
  · exact loaded.stands.whole sized (by omega) (by omega)
  · omega
  · omega
  · omega

end Loaded

/-! ### Writing a copy -/

/-- The disk once both writes of the copy are done. -/
def putCopy (disk : Bytes) (copy : GptCopy) : Bytes :=
  overwrite (overwrite disk (copy.entriesLba * sectorSize) copy.entries)
    (copy.headerLba * sectorSize) copy.header

section Put

variable {disk : Bytes} {copy : GptCopy}

theorem range_within (sized : disk.length = diskBytes) {stop : Nat} (inside : stop ≤ diskLbas) :
    stop * sectorSize ≤ disk.length := by
  have bytes : diskLbas * sectorSize = diskBytes := by decide
  rw [sized, ← bytes]
  exact Nat.mul_le_mul_right sectorSize inside

theorem entries_sectors (whole : copy.Whole) :
    copy.entries.length = entriesSectors * sectorSize := by
  rw [whole.entries]
  decide

theorem header_sectors (whole : copy.Whole) : copy.header.length = 1 * sectorSize := by
  rw [whole.header, Nat.one_mul]

theorem entries_room (placed : copy.Placed) (sized : disk.length = diskBytes) :
    copy.entriesLba * sectorSize + copy.entries.length ≤ disk.length := by
  rw [entries_sectors placed.whole, ← Nat.add_mul]
  exact range_within sized placed.entries

theorem header_room (placed : copy.Placed) (sized : disk.length = diskBytes) :
    copy.headerLba * sectorSize + copy.header.length ≤ disk.length := by
  rw [header_sectors placed.whole, ← Nat.add_mul]
  exact range_within sized placed.header

theorem entries_put_length (placed : copy.Placed) (sized : disk.length = diskBytes) :
    (overwrite disk (copy.entriesLba * sectorSize) copy.entries).length = diskBytes := by
  rw [overwrite_length (entries_room placed sized), sized]

theorem putCopy_length (placed : copy.Placed) (sized : disk.length = diskBytes) :
    (putCopy disk copy).length = diskBytes := by
  have middle := entries_put_length placed sized
  rw [putCopy, overwrite_length (header_room placed middle), middle]

/-- The sectors of a disk with the copy on it. -/
theorem putCopy_sector (placed : copy.Placed) (sized : disk.length = diskBytes) (index : Nat) :
    sector sectorSize (putCopy disk copy) index =
      if index = copy.headerLba then copy.header
      else if copy.entriesLba ≤ index ∧ index < copy.entriesLba + entriesSectors then
        sector sectorSize copy.entries (index - copy.entriesLba)
      else sector sectorSize disk index := by
  have middle := entries_put_length placed sized
  rw [putCopy, sector_overwrite (header_sectors placed.whole) (range_within middle placed.header),
    sector_overwrite (entries_sectors placed.whole) (range_within sized placed.entries)]
  by_cases here : index = copy.headerLba
  · have inside : copy.headerLba ≤ index ∧ index < copy.headerLba + 1 := by omega
    rw [if_pos inside, if_pos here, here, Nat.sub_self, sector, Nat.zero_mul, part_zero]
    exact List.take_of_length_le (by rw [header_sectors placed.whole, Nat.zero_add])
  · have outside : ¬(copy.headerLba ≤ index ∧ index < copy.headerLba + 1) := by omega
    rw [if_neg outside, if_neg here]

/-- Sectors that the copy does not use stay. -/
theorem putCopy_clear (placed : copy.Placed) (sized : disk.length = diskBytes) {start count : Nat}
    (clear : copy.Clear start (start + count)) :
    part (putCopy disk copy) (start * sectorSize) ((start + count) * sectorSize) =
      part disk (start * sectorSize) ((start + count) * sectorSize) := by
  apply part_of_sectors
  intro index low high
  have header : index ≠ copy.headerLba := by
    have aside := clear.1
    omega
  have entries : ¬(copy.entriesLba ≤ index ∧ index < copy.entriesLba + entriesSectors) := by
    have aside := clear.2
    omega
  rw [putCopy_sector placed sized, if_neg header, if_neg entries]

theorem putCopy_stands (placed : copy.Placed) (sized : disk.length = diskBytes) :
    Stands (putCopy disk copy) copy := by
  have middle := entries_put_length placed sized
  have entriesEnd : (copy.entriesLba + entriesSectors) * sectorSize =
      copy.entriesLba * sectorSize + copy.entries.length := by
    rw [entries_sectors placed.whole, ← Nat.add_mul]
  have headerEnd : (copy.headerLba + 1) * sectorSize =
      copy.headerLba * sectorSize + copy.header.length := by
    rw [header_sectors placed.whole, ← Nat.add_mul]
  constructor
  · rw [putCopy, headerEnd]
    exact part_overwrite (header_room placed middle)
  · rw [putCopy, entriesEnd]
    have room := header_room placed middle
    rcases placed.apart with before | after
    · have low : (copy.headerLba + 1) * sectorSize ≤ copy.entriesLba * sectorSize :=
        Nat.mul_le_mul_right sectorSize before
      rw [headerEnd] at low
      rw [part_overwrite_after room low]
      exact part_overwrite (entries_room placed sized)
    · have high : (copy.entriesLba + entriesSectors) * sectorSize ≤ copy.headerLba * sectorSize :=
        Nat.mul_le_mul_right sectorSize after
      rw [entriesEnd] at high
      rw [part_overwrite_before room high]
      exact part_overwrite (entries_room placed sized)

/-- A copy elsewhere still stands. -/
theorem stands_putCopy {other : GptCopy} (placed : copy.Placed) (sized : disk.length = diskBytes)
    (stands : Stands disk other) (header : copy.Clear other.headerLba (other.headerLba + 1))
    (entries : copy.Clear other.entriesLba (other.entriesLba + entriesSectors)) :
    Stands (putCopy disk copy) other := by
  constructor
  · rw [putCopy_clear placed sized header]
    exact stands.header
  · rw [putCopy_clear placed sized entries]
    exact stands.entries

/-- Writing the copy over a half-written one completes it. -/
theorem putCopy_mixed {image : Bytes} (placed : copy.Placed) (sized : disk.length = diskBytes)
    (mixed : Mixed sectorSize disk (putCopy disk copy) image) :
    putCopy image copy = putCopy disk copy := by
  have imageSized : image.length = diskBytes := by rw [mixed.length, sized]
  apply eq_of_sectors (by decide : 0 < sectorSize)
  · rw [putCopy_length placed imageSized, putCopy_length placed sized]
  · intro index
    have there := putCopy_sector placed sized index
    rw [putCopy_sector placed imageSized, there]
    split
    · rfl
    · rename_i notHeader
      rw [if_neg notHeader] at there
      split
      · rfl
      · rename_i notEntries
        rw [if_neg notEntries] at there
        rcases mixed.sectors index with old | new
        · exact old
        · rw [new, there]

end Put

end Liuqin.Slot
