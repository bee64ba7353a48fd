/-
Runs of the slot tool on a device on which no call fails.

Such a run comes to its end without a failure, so on a disk that the tool accepts
it ends with 0.
-/

import Liuqin.Slot.Marked

namespace Liuqin.Slot

open Liuqin.Library Liuqin.Library.Bytes Liuqin.Library.Program Liuqin.Library.Barrier

/-- A tablet before the run. -/
def Tablet.start (disk : Bytes) (ro : Bool) : Tablet :=
  { cache := Cached.settled disk
    ro := ro
    failed := false }

def carriedOut : (operation : Op) → Tablet → Choice operation
  | .lstat, _ => true
  | .openDisk _, _ => true
  | .fileSize, _ => ()
  | .geometry, _ => true
  | .pread length _, _ => some length
  | .pwrite data _, _ => (data.length, true)
  | .fsync, _ => true
  | .roSet _, _ => (true, true)

section Faultless

variable {logical : Nat} {slot : Slot} {disk : Bytes} {tablet : Tablet}

theorem sound_length {cache : Cached} (sound : Sound slot disk cache)
    (marking : Marking slot disk) : cache.seen.length = diskBytes := by
  rcases sound with settled | ⟨other, within⟩
  · rw [settled]
    exact marking.sized
  · rw [other.unique marking] at within
    rcases within with first | second
    · rw [first.seen.length, marking.sized]
    · rw [second.seen.length, marking.half_length]

theorem note_true (tablet : Tablet) : (tablet.note true).failed = tablet.failed :=
  Bool.or_false _

/-- What is asked of the disk can be done. -/
theorem carried_unfailed {operation : Op} (guarded : Guarded slot disk operation tablet)
    (unfailed : tablet.failed = false) :
    (react logical operation (carriedOut operation tablet) tablet).2.failed = false := by
  cases operation with
  | lstat => exact (note_true tablet).trans unfailed
  | openDisk writing => exact (note_true tablet).trans unfailed
  | fileSize => exact unfailed
  | geometry => exact (note_true tablet).trans unfailed
  | fsync => exact (note_true tablet).trans unfailed
  | roSet value => exact (note_true tablet).trans unfailed
  | pread length offset =>
      obtain ⟨positive, room⟩ := guarded.reads length offset rfl
      have long : ((part tablet.disk offset (offset + length)).take length).length = length := by
        rw [List.length_take, part_within room]
        omega
      have nonempty : ((part tablet.disk offset (offset + length)).take length).isEmpty = false := by
        rw [List.isEmpty_eq_false_iff]
        intro empty
        rw [empty, List.length_nil] at long
        omega
      show (tablet.failed || !(!((part tablet.disk offset (offset + length)).take
        length).isEmpty)) = false
      rw [unfailed, nonempty]
      rfl
  | pwrite data offset =>
      obtain ⟨nonempty, marking, spares⟩ := guarded.spares data offset rfl
      have whole := sound_length guarded.sound marking
      have positive : 0 < data.length := List.length_pos_iff.mpr nonempty
      have room : offset + data.length ≤ tablet.disk.length := by
        have small : firstUsable * sectorSize ≤ diskBytes := by decide
        rw [Tablet.disk, whole]
        rcases spares with ⟨_, high⟩ | ⟨_, high⟩
        · omega
        · exact high
      have enough : data.length ≤ data.length * sectorSize :=
        Nat.le_mul_of_pos_right _ (by decide)
      have all : stored tablet.disk data offset data.length = data := by
        rw [stored, List.take_of_length_le enough, List.take_of_length_le (by omega)]
      show (tablet.failed || !(true && !(stored tablet.disk data offset data.length).isEmpty)) = false
      rw [all, unfailed, List.isEmpty_eq_false_iff.mpr nonempty]
      rfl

/-- Where no call fails, an accepted disk is marked, or found to be. -/
theorem succeeds {testing : Bool} {operation : Operation} {ro : Bool}
    (ready : Ready testing logical (Tablet.start disk ro))
    (acceptable : Acceptable slot disk operation) :
    ∃ last, Reaches (machine logical) (markSlot testing operation slot, Tablet.start disk ro)
      (.exit 0, last) ∧ last.failed = false := by
  have holds : wp (machine logical) (Guarded slot (Tablet.start disk ro).disk)
      (Ended testing logical slot operation (Tablet.start disk ro))
      (markSlot testing operation slot) (fun _ _ => False) (Tablet.start disk ro) :=
    wp_markSlot rfl
  obtain ⟨last, unfailed, ended⟩ := ends_with (fun tablet => tablet.failed = false)
    (fun operation tablet => carriedOut operation tablet)
    (fun operation tablet guarded before => carried_unfailed guarded before) holds rfl
  rcases ended with ⟨status, run, ended⟩ | ⟨value, _, impossible⟩
  · rcases ended.ends with zero | one
    · subst zero
      exact ⟨last, run, unfailed⟩
    · rcases ended.refusal one with failed | refused
      · rw [unfailed] at failed
        cases failed
      · exact absurd ⟨ready, acceptable⟩ refused
  · exact impossible.elim

end Faultless

end Liuqin.Slot
