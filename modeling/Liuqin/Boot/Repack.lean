/-
What a repacked boot image is made of.

An image is a header page and three blocks, each padded to a page, and a rest.
The header page holds the sizes of the blocks; everything else in it is copied.
-/

import Liuqin.Boot.Image

namespace Liuqin.Boot

open Library Library.Bytes

/-- A number of the header page. -/
def word (head : Bytes) (offset : Nat) : Nat := fromLittle (part head offset (offset + 4))

def page (block : Bytes) : Bytes := padTo pageSize block

def blocks (kernel ramdisk signature : Bytes) : Bytes :=
  page kernel ++ (page ramdisk ++ page signature)

/-- The header page with the sizes of the blocks written in. -/
def sized (version : Nat) (head : Bytes) (kernel ramdisk signature : Nat) : Bytes :=
  let head := overwrite head 8 ([kernel, ramdisk].flatMap (little 4))
  if version ≥ 4 then overwrite head 1580 ([signature].flatMap (little 4)) else head

/-! ### The header page -/

section Head

variable {version : Nat} {head : Bytes} {kernel ramdisk signature : Nat}

theorem sizes_length (kernel ramdisk : Nat) :
    ([kernel, ramdisk].flatMap (little 4)).length = 8 := by
  simp only [List.flatMap_cons, List.flatMap_nil, List.length_append, little_length,
    List.length_nil]

theorem size_length (signature : Nat) : ([signature].flatMap (little 4)).length = 4 := by
  simp only [List.flatMap_cons, List.flatMap_nil, List.length_append, little_length,
    List.length_nil]

variable (whole : head.length = pageSize)

include whole

theorem sized_length : (sized version head kernel ramdisk signature).length = pageSize := by
  have room : 8 + ([kernel, ramdisk].flatMap (little 4)).length ≤ head.length := by
    rw [sizes_length, whole]
    decide
  have first := (overwrite_length room).trans whole
  rw [sized]
  split
  · rw [overwrite_length, first]
    rw [size_length, first]
    decide
  · exact first

/-- The header page outside the sizes is as it was. -/
theorem sized_part {start stop : Nat} (apart : stop ≤ 8 ∨ 16 ≤ start)
    (apartSignature : stop ≤ 1580 ∨ 1584 ≤ start) :
    part (sized version head kernel ramdisk signature) start stop = part head start stop := by
  have room : 8 + ([kernel, ramdisk].flatMap (little 4)).length ≤ head.length := by
    rw [sizes_length, whole]
    decide
  have first := (overwrite_length room).trans whole
  have early : part (overwrite head 8 ([kernel, ramdisk].flatMap (little 4))) start stop =
      part head start stop := by
    rcases apart with before | after
    · exact part_overwrite_before room before
    · apply part_overwrite_after room
      rw [sizes_length]
      exact after
  rw [sized]
  split
  · have roomLater : 1580 + ([signature].flatMap (little 4)).length ≤
        (overwrite head 8 ([kernel, ramdisk].flatMap (little 4))).length := by
      rw [size_length, first]
      decide
    rcases apartSignature with before | after
    · rw [part_overwrite_before roomLater before, early]
    · rw [part_overwrite_after roomLater (by rw [size_length]; exact after), early]
  · exact early

theorem sized_word {offset : Nat} (apart : offset + 4 ≤ 8 ∨ 16 ≤ offset)
    (apartSignature : offset + 4 ≤ 1580 ∨ 1584 ≤ offset) :
    word (sized version head kernel ramdisk signature) offset = word head offset := by
  rw [word, sized_part whole apart apartSignature, word]

/-- The sizes are where a reader looks for them. -/
theorem sized_sizes : part (sized version head kernel ramdisk signature) 8 16 =
    [kernel, ramdisk].flatMap (little 4) := by
  have room : 8 + ([kernel, ramdisk].flatMap (little 4)).length ≤ head.length := by
    rw [sizes_length, whole]
    decide
  have first := (overwrite_length room).trans whole
  have written := part_overwrite room
  rw [sizes_length] at written
  rw [sized]
  split
  · have roomLater : 1580 + ([signature].flatMap (little 4)).length ≤
        (overwrite head 8 ([kernel, ramdisk].flatMap (little 4))).length := by
      rw [size_length, first]
      decide
    rw [part_overwrite_before roomLater (by decide)]
    exact written
  · exact written

theorem sized_kernel (small : kernel < 2 ^ 32) :
    word (sized version head kernel ramdisk signature) 8 = kernel := by
  have split : part (part (sized version head kernel ramdisk signature) 8 16) 0 4 =
      little 4 kernel := by
    rw [sized_sizes whole, List.flatMap_cons]
    exact part_front (little_length 4 kernel) _
  have inner : part (part (sized version head kernel ramdisk signature) 8 16) 0 4 =
      part (sized version head kernel ramdisk signature) 8 (8 + 4) :=
    part_part _ (by decide)
  rw [word, ← inner, split, fromLittle_little small]

theorem sized_ramdisk (small : ramdisk < 2 ^ 32) :
    word (sized version head kernel ramdisk signature) 12 = ramdisk := by
  have split : part (part (sized version head kernel ramdisk signature) 8 16) 4 8 =
      little 4 ramdisk := by
    rw [sized_sizes whole, List.flatMap_cons, List.flatMap_cons]
    have next : part (little 4 kernel ++ (little 4 ramdisk ++ [])) 4
        (4 + (little 4 ramdisk).length) = little 4 ramdisk :=
      part_next (little_length 4 kernel) []
    rw [little_length] at next
    exact next
  have inner : part (part (sized version head kernel ramdisk signature) 8 16) 4 8 =
      part (sized version head kernel ramdisk signature) 12 (12 + 4) :=
    part_part _ (by decide)
  rw [word, ← inner, split, fromLittle_little small]

theorem sized_signature (four : version ≥ 4) (small : signature < 2 ^ 32) :
    word (sized version head kernel ramdisk signature) 1580 = signature := by
  have room : 8 + ([kernel, ramdisk].flatMap (little 4)).length ≤ head.length := by
    rw [sizes_length, whole]
    decide
  have first := (overwrite_length room).trans whole
  have roomLater : 1580 + ([signature].flatMap (little 4)).length ≤
      (overwrite head 8 ([kernel, ramdisk].flatMap (little 4))).length := by
    rw [size_length, first]
    decide
  have written := part_overwrite roomLater
  rw [size_length] at written
  rw [word, sized, if_pos four, written, List.flatMap_cons, List.flatMap_nil, List.append_nil,
    fromLittle_little small]

/-- Sizes written in twice are the later ones. -/
theorem sized_twice (other : Nat) :
    sized version (sized version head kernel ramdisk signature) kernel other signature =
      sized version head kernel other signature := by
  have room : ∀ ramdisk : Nat, 8 + ([kernel, ramdisk].flatMap (little 4)).length ≤ head.length := by
    intro ramdisk
    rw [sizes_length, whole]
    decide
  have first := (overwrite_length (room ramdisk)).trans whole
  have second := (overwrite_length (room other)).trans whole
  have again : overwrite (overwrite head 8 ([kernel, ramdisk].flatMap (little 4))) 8
      ([kernel, other].flatMap (little 4)) =
        overwrite head 8 ([kernel, other].flatMap (little 4)) := by
    apply overwrite_twice _ (room ramdisk)
    rw [sizes_length, sizes_length]
  rw [sized, sized, sized]
  split
  · have roomLater : 1580 + ([signature].flatMap (little 4)).length ≤
        (overwrite head 8 ([kernel, ramdisk].flatMap (little 4))).length := by
      rw [size_length, first]
      decide
    have roomFirst : 8 + ([kernel, other].flatMap (little 4)).length ≤
        (overwrite head 8 ([kernel, ramdisk].flatMap (little 4))).length := by
      rw [sizes_length, first]
      decide
    have roomOther : 1580 + ([signature].flatMap (little 4)).length ≤
        (overwrite head 8 ([kernel, other].flatMap (little 4))).length := by
      rw [size_length, second]
      decide
    have apart : 1580 + ([signature].flatMap (little 4)).length ≤ 8 ∨
        8 + ([kernel, other].flatMap (little 4)).length ≤ 1580 := by
      rw [sizes_length]
      exact Or.inr (by decide)
    rw [overwrite_comm roomLater roomFirst apart, again, overwrite_twice rfl roomOther]
  · exact again

end Head

/-! ### The payload -/

theorem page_dvd (block : Bytes) : pageSize ∣ (page block).length :=
  padTo_dvd (by decide) block

theorem page_length (block : Bytes) : (page block).length = aligned block.length pageSize :=
  padTo_length (by decide) block

theorem blocks_dvd (kernel ramdisk signature : Bytes) :
    pageSize ∣ (blocks kernel ramdisk signature).length := by
  rw [blocks, List.length_append, List.length_append]
  exact Nat.dvd_add (page_dvd _) (Nat.dvd_add (page_dvd _) (page_dvd _))

theorem blocks_length (kernel ramdisk signature : Bytes) :
    (blocks kernel ramdisk signature).length = aligned kernel.length pageSize +
      (aligned ramdisk.length pageSize + aligned signature.length pageSize) := by
  rw [blocks, List.length_append, List.length_append, page_length, page_length, page_length]

theorem pack_ok {out : Bytes} {offset : Nat} {values : List Nat}
    (small : ∀ value ∈ values, value < 2 ^ 32) (room : offset + 4 * values.length ≤ out.length) :
    packInto out offset values = .ok (overwrite out offset (values.flatMap (little 4))) := by
  rw [packInto, if_pos ⟨small, room⟩]

theorem pack_inv {out packed : Bytes} {offset : Nat} {values : List Nat}
    (done : packInto out offset values = .ok packed) :
    (∀ value ∈ values, value < 2 ^ 32) ∧ offset + 4 * values.length ≤ out.length ∧
      packed = overwrite out offset (values.flatMap (little 4)) := by
  rw [packInto] at done
  split at done
  · next fits =>
      cases done
      exact ⟨fits.1, fits.2, rfl⟩
  · cases done

theorem little_flatMap_length (values : List Nat) :
    (values.flatMap (little 4)).length = 4 * values.length := by
  induction values with
  | nil => rfl
  | cons value rest ih =>
      rw [List.flatMap_cons, List.length_append, ih, little_length, List.length_cons]
      omega

/-- What is packed is as long as before. -/
theorem pack_length {out packed : Bytes} {offset : Nat} {values : List Nat}
    (done : packInto out offset values = .ok packed) : packed.length = out.length := by
  obtain ⟨_, room, rfl⟩ := pack_inv done
  apply overwrite_length
  rw [little_flatMap_length]
  exact room

section Payload

variable {image : BootImage} {ramdisk : Bytes}

/-- The three blocks that `rebuild` puts behind the header page. -/
theorem padded_blocks {head : Bytes} (whole : head.length = pageSize)
    (kernel ramdisk signature : Bytes) :
    padTo pageSize (padTo pageSize (padTo pageSize (head ++ kernel) ++ ramdisk) ++ signature) =
      head ++ blocks kernel ramdisk signature := by
  have even : pageSize ∣ head.length := by
    rw [whole]
  have evenKernel : pageSize ∣ (head ++ page kernel).length := by
    rw [List.length_append]
    exact Nat.dvd_add even (page_dvd kernel)
  have evenRamdisk : pageSize ∣ (head ++ page kernel ++ page ramdisk).length := by
    rw [List.length_append]
    exact Nat.dvd_add evenKernel (page_dvd ramdisk)
  have first : padTo pageSize (head ++ kernel) = head ++ page kernel :=
    padTo_append (by decide) even kernel
  have second : padTo pageSize (head ++ page kernel ++ ramdisk) =
      head ++ page kernel ++ page ramdisk := padTo_append (by decide) evenKernel ramdisk
  have third : padTo pageSize (head ++ page kernel ++ page ramdisk ++ signature) =
      head ++ page kernel ++ page ramdisk ++ page signature :=
    padTo_append (by decide) evenRamdisk signature
  rw [first, second, third, blocks, List.append_assoc, List.append_assoc]

theorem payload_ok (long : pageSize ≤ image.data.length)
    (smallKernel : image.kernel.length < 2 ^ 32) (smallRamdisk : ramdisk.length < 2 ^ 32)
    (smallSignature : image.headerVersion ≥ 4 → image.signature.length < 2 ^ 32) :
    payload image ramdisk =
      .ok (sized image.headerVersion (part image.data 0 pageSize) image.kernel.length
        ramdisk.length image.signature.length ++
          blocks image.kernel ramdisk image.signature) := by
  have whole : (part image.data 0 pageSize).length = pageSize := part_within long
  have room : 8 + ([image.kernel.length, ramdisk.length].flatMap (little 4)).length ≤
      (part image.data 0 pageSize).length := by
    rw [sizes_length, whole]
    decide
  have first := (overwrite_length room).trans whole
  have sizes : ∀ value ∈ [image.kernel.length, ramdisk.length], value < 2 ^ 32 := by
    intro value member
    rcases List.mem_cons.mp member with rfl | member
    · exact smallKernel
    · rw [List.mem_singleton.mp member]
      exact smallRamdisk
  have fits : 8 + 4 * [image.kernel.length, ramdisk.length].length ≤
      (part image.data 0 pageSize ++ blocks image.kernel ramdisk image.signature).length := by
    rw [List.length_append, whole]
    exact Nat.le_add_right_of_le (by decide : 16 ≤ pageSize)
  have packed := pack_ok sizes fits
  rw [payload]
  simp only [padded_blocks whole]
  rw [packed, overwrite_append room, sized]
  by_cases four : image.headerVersion ≥ 4
  · have roomLater : 1580 + ([image.signature.length].flatMap (little 4)).length ≤
        (overwrite (part image.data 0 pageSize) 8
          ([image.kernel.length, ramdisk.length].flatMap (little 4))).length := by
      rw [size_length, first]
      decide
    have later : ∀ value ∈ [image.signature.length], value < 2 ^ 32 := by
      intro value member
      rw [List.mem_singleton.mp member]
      exact smallSignature four
    simp only [bind, Except.bind, if_pos four]
    rw [pack_ok later, overwrite_append roomLater]
    rw [List.length_append, first]
    exact Nat.le_add_right_of_le (by decide : 1584 ≤ pageSize)
  · simp only [bind, Except.bind, if_neg four]

theorem payload_inv {out : Bytes} (done : payload image ramdisk = .ok out)
    (nonempty : image.data ≠ []) :
    image.kernel.length < 2 ^ 32 ∧ ramdisk.length < 2 ^ 32 ∧
      (image.headerVersion ≥ 4 → image.signature.length < 2 ^ 32) ∧ pageSize ≤ out.length := by
  rw [payload] at done
  simp only [bind, Except.bind] at done
  cases packed : packInto (padTo pageSize (padTo pageSize (padTo pageSize
      (part image.data 0 pageSize ++ image.kernel) ++ ramdisk) ++ image.signature)) 8
        [image.kernel.length, ramdisk.length] with
  | error failure =>
      rw [packed] at done
      cases done
  | ok first =>
      rw [packed] at done
      have small := (pack_inv packed).1
      have long : pageSize ≤ first.length := by
        have some : 0 < (part image.data 0 pageSize).length := by
          have positive := List.length_pos_of_ne_nil nonempty
          rw [part_length, pageSize]
          omega
        have block := aligned_bounds (part image.data 0 pageSize ++ image.kernel).length
          (by decide : 0 < pageSize)
        have even := aligned_dvd (part image.data 0 pageSize ++ image.kernel).length pageSize
        rw [List.length_append] at block even
        have page := Nat.le_of_dvd (by omega) even
        rw [pack_length packed, padTo_length (by decide), List.length_append,
          padTo_length (by decide), List.length_append, padTo_length (by decide),
          List.length_append]
        have second := aligned_bounds (aligned ((part image.data 0 pageSize).length +
          image.kernel.length) pageSize + ramdisk.length) (by decide : 0 < pageSize)
        have third := aligned_bounds (aligned (aligned ((part image.data 0 pageSize).length +
          image.kernel.length) pageSize + ramdisk.length) pageSize + image.signature.length)
            (by decide : 0 < pageSize)
        omega
      refine ⟨small _ List.mem_cons_self, small _ (by simp), ?_, ?_⟩
      · intro four
        dsimp only at done
        rw [if_pos four] at done
        exact (pack_inv done).1 _ (List.mem_singleton_self _)
      · dsimp only at done
        split at done
        · rw [pack_length done]
          exact long
        · cases done
          exact long

end Payload

end Liuqin.Boot
