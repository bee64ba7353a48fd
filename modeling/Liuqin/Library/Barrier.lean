/-
What a power loss may leave of a disk that is written through a cache.

Between two barriers every sector may reach the medium in any of the states it
went through, whatever becomes of the others.  A barrier settles the state the
disk is seen in.  While an old state is being replaced by a new one sector by
sector, everything that can be found later is a mixture of the two.
-/

import Liuqin.Library.Words

namespace Liuqin.Library.Barrier

open Liuqin.Library.Bytes

/-! ### Sectors -/

section Sectors

variable (size : Nat)

def sector (disk : Bytes) (index : Nat) : Bytes :=
  part disk (index * size) ((index + 1) * size)

/-- Each sector of the image is that of the one or of the other. -/
structure Mixed (one other image : Bytes) : Prop where
  length : image.length = one.length
  sectors : ∀ index, sector size image index = sector size one index ∨
    sector size image index = sector size other index

end Sectors

variable {size : Nat}

theorem part_inside {data text : Bytes} {offset : Nat}
    (within : offset + text.length ≤ data.length) {start stop : Nat} (inside : stop ≤ text.length) :
    part (overwrite data offset text) (offset + start) (offset + stop) = part text start stop := by
  have whole := part_overwrite within
  rw [← part_part (overwrite data offset text) (by omega : offset + stop ≤ offset + text.length),
    whole]

/-- A sector of a range of sectors. -/
theorem sector_part (size : Nat) (data : Bytes) (start : Nat) {count index : Nat}
    (inside : index < count) :
    sector size (part data (start * size) ((start + count) * size)) index =
      sector size data (start + index) := by
  have bound : start * size + (index + 1) * size ≤ (start + count) * size := by
    rw [← Nat.add_mul]
    exact Nat.mul_le_mul_right size (by omega)
  rw [sector, sector, part_part data bound, ← Nat.add_mul, ← Nat.add_mul, Nat.add_assoc]

/-- The sectors of a disk over a range of which something was written. -/
theorem sector_overwrite {data text : Bytes} {start count : Nat} (length : text.length = count * size)
    (within : (start + count) * size ≤ data.length) (index : Nat) :
    sector size (overwrite data (start * size) text) index =
      if start ≤ index ∧ index < start + count then sector size text (index - start)
      else sector size data index := by
  have room : start * size + text.length ≤ data.length := by
    rw [length, ← Nat.add_mul]
    exact within
  split
  · rename_i inside
    have stop : (index - start + 1) * size ≤ text.length := by
      rw [length]
      exact Nat.mul_le_mul_right size (by omega)
    have first : index * size = start * size + (index - start) * size := by
      rw [← Nat.add_mul]
      congr 1
      omega
    have second : (index + 1) * size = start * size + (index - start + 1) * size := by
      rw [← Nat.add_mul]
      congr 1
      omega
    rw [sector, sector, first, second, part_inside room stop]
  · rename_i outside
    by_cases low : index < start
    · have before : (index + 1) * size ≤ start * size := Nat.mul_le_mul_right size (by omega)
      rw [sector, part_overwrite_before room before, sector]
    · have after : start * size + text.length ≤ index * size := by
        rw [length, ← Nat.add_mul]
        exact Nat.mul_le_mul_right size (by omega)
      rw [sector, part_overwrite_after room after, sector]

/-- What holds of every sector of a range holds of the range. -/
theorem part_of_sectors {one other : Bytes} {start count : Nat}
    (same : ∀ index, start ≤ index → index < start + count →
      sector size one index = sector size other index) :
    part one (start * size) ((start + count) * size) =
      part other (start * size) ((start + count) * size) := by
  induction count with
  | zero => rw [Nat.add_zero, part, part, List.drop_take_self, List.drop_take_self]
  | succ count ih =>
      have front := ih (fun index low high => same index low (by omega))
      have last := same (start + count) (by omega) (by omega)
      have first : start * size ≤ (start + count) * size :=
        Nat.mul_le_mul_right size (by omega)
      have second : (start + count) * size ≤ (start + count + 1) * size :=
        Nat.mul_le_mul_right size (by omega)
      rw [← Nat.add_assoc, ← part_append_part first second, ← part_append_part first second, front]
      exact congrArg _ last

/-- Byte strings of one length with the same sectors are the same. -/
theorem eq_of_sectors {one other : Bytes} (positive : 0 < size)
    (length : one.length = other.length)
    (same : ∀ index, sector size one index = sector size other index) : one = other := by
  have region : part one (0 * size) ((0 + one.length) * size) =
      part other (0 * size) ((0 + one.length) * size) :=
    part_of_sectors (fun index _ _ => same index)
  rw [Nat.zero_mul, Nat.zero_add, part_zero, part_zero] at region
  have enough : one.length ≤ one.length * size := Nat.le_mul_of_pos_right _ positive
  rw [List.take_of_length_le enough, List.take_of_length_le (by omega)] at region
  exact region

namespace Mixed

variable {one other image : Bytes}

theorem old (length : other.length = one.length) : Mixed size one other one ∧
    Mixed size one other other := by
  constructor
  · exact ⟨rfl, fun _ => Or.inl rfl⟩
  · exact ⟨length, fun _ => Or.inr rfl⟩

theorem eq_of_same (mixed : Mixed size one one image) (positive : 0 < size) : image = one := by
  apply eq_of_sectors positive mixed.length
  intro index
  exact (mixed.sectors index).elim id id

/-- A range that is the same in both is the same in every mixture. -/
theorem region (mixed : Mixed size one other image) {start count : Nat}
    (same : part one (start * size) ((start + count) * size) =
      part other (start * size) ((start + count) * size)) :
    part image (start * size) ((start + count) * size) =
      part one (start * size) ((start + count) * size) := by
  apply part_of_sectors
  intro index low high
  rcases mixed.sectors index with old | new
  · exact old
  · have place : start + (index - start) = index := by omega
    have inside : index - start < count := by omega
    have first := sector_part size one start inside
    have second := sector_part size other start inside
    rw [place] at first second
    rw [new, ← second, ← same, first]

/-- Writing whole sectors of the new state over a mixture gives a mixture. -/
theorem write (mixed : Mixed size one other image) {start count : Nat} {text : Bytes}
    (length : text.length = count * size)
    (within : (start + count) * size ≤ one.length)
    (new : part other (start * size) ((start + count) * size) = text) :
    Mixed size one other (overwrite image (start * size) text) := by
  have room : start * size + text.length ≤ image.length := by
    rw [length, mixed.length, ← Nat.add_mul]
    exact within
  constructor
  · rw [overwrite_length room, mixed.length]
  · intro index
    rw [sector_overwrite length (by rw [mixed.length]; exact within)]
    split
    · rename_i inside
      right
      have place : start + (index - start) = index := by omega
      have there := sector_part size other start (by omega : index - start < count)
      rw [place] at there
      rw [← new, there]
    · exact mixed.sectors index

end Mixed

/-! ### The cache -/

structure Cached where
  seen : Bytes
  /-- The states since the last barrier, the one it settled among them. -/
  earlier : List Bytes

namespace Cached

def settled (disk : Bytes) : Cached := { seen := disk, earlier := [] }

def states (cached : Cached) : List Bytes := cached.seen :: cached.earlier

def write (cached : Cached) (next : Bytes) : Cached := { seen := next, earlier := cached.states }

def barrier (cached : Cached) : Cached := settled cached.seen

/-- A power loss may leave the image: each of its sectors stood there since the
last barrier. -/
def Leaves (size : Nat) (cached : Cached) (image : Bytes) : Prop :=
  image.length = cached.seen.length ∧
    ∀ index, ∃ state ∈ cached.states, sector size image index = sector size state index

variable {cached : Cached} {image : Bytes}

/-- Every state since the last barrier is a mixture. -/
def Within (size : Nat) (one other : Bytes) (cached : Cached) : Prop :=
  ∀ state ∈ cached.states, Mixed size one other state

theorem leaves_seen (size : Nat) (cached : Cached) : cached.Leaves size cached.seen :=
  ⟨rfl, fun _ => ⟨cached.seen, List.mem_cons_self, rfl⟩⟩

theorem within_settled {one other disk : Bytes} (mixed : Mixed size one other disk) :
    (settled disk).Within size one other := by
  intro state member
  rw [List.mem_singleton.mp member]
  exact mixed

theorem Within.write {one other next : Bytes} (within : cached.Within size one other)
    (mixed : Mixed size one other next) : (cached.write next).Within size one other := by
  intro state member
  rcases List.mem_cons.mp member with same | before
  · rw [same]
    exact mixed
  · exact within state before

theorem Within.seen {one other : Bytes} (within : cached.Within size one other) :
    Mixed size one other cached.seen :=
  within cached.seen List.mem_cons_self

/-- What a power loss leaves between two states is a mixture of them. -/
theorem Within.leaves {one other : Bytes} (within : cached.Within size one other)
    (left : cached.Leaves size image) : Mixed size one other image := by
  constructor
  · rw [left.1]
    exact within.seen.length
  · intro index
    obtain ⟨state, member, same⟩ := left.2 index
    rw [same]
    exact (within state member).sectors index

/-- A settled disk survives. -/
theorem leaves_settled {disk : Bytes} (positive : 0 < size)
    (left : (settled disk).Leaves size image) : image = disk := by
  have within : (settled disk).Within size disk disk := within_settled (Mixed.old rfl).1
  exact (within.leaves left).eq_of_same positive

end Cached

end Liuqin.Library.Barrier
