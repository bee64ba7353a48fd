/-
The AVB structures behind the payload of a boot image: the tail, the vbmeta
block and, in the last 64 bytes, the footer that points at it.
-/

import Liuqin.Boot.Parts

namespace Liuqin.Boot

open Library Library.Bytes

/-- The footer with both of its positions written anew. -/
def pointed (footer : Bytes) (position : Nat) : Bytes :=
  overwrite footer 12 ([position, position].flatMap (big 8))

/-- The structures behind another front. -/
def Avb.moved (avb : Avb) (position : Nat) : Avb :=
  { avb with footer := pointed avb.footer position }

def closing (tail header : Bytes) (gap : Int) (footer : Bytes) : Bytes :=
  tail ++ (header ++ (zeros gap ++ footer))

/-- What a footer must say of the vbmeta block that stands behind `front` bytes and the tail. -/
structure Closes (front : Nat) (tail header footer : Bytes) : Prop where
  size : footer.length = avbFooterSize
  magic : part footer 0 4 = avbFooterMagic
  original : footerOriginalSize footer = front + tail.length
  offset : footerVbmetaOffset footer = front + tail.length
  length : footerVbmetaSize footer = header.length
  vbmeta : part header 0 4 = avbMagic

/-! ### The footer -/

section Footer

variable {footer : Bytes} (position : Nat)

theorem positions_length : ([position, position].flatMap (big 8)).length = 16 := by
  simp only [List.flatMap_cons, List.flatMap_nil, List.length_append, big_length, List.length_nil]

theorem positions_room (size : footer.length = avbFooterSize) :
    12 + ([position, position].flatMap (big 8)).length ≤ footer.length := by
  rw [positions_length, size]
  decide

variable (size : footer.length = avbFooterSize)

include size

theorem pointed_length : (pointed footer position).length = avbFooterSize :=
  (overwrite_length (positions_room position size)).trans size

theorem pointed_magic : part (pointed footer position) 0 4 = part footer 0 4 :=
  part_overwrite_before (positions_room position size) (by decide)

theorem pointed_vbmetaSize :
    footerVbmetaSize (pointed footer position) = footerVbmetaSize footer := by
  have after : 12 + ([position, position].flatMap (big 8)).length ≤ 28 := by
    rw [positions_length]
  rw [footerVbmetaSize, pointed, part_overwrite_after (positions_room position size) after,
    footerVbmetaSize]

theorem pointed_positions : part (pointed footer position) 12 28 =
    big 8 position ++ big 8 position := by
  have written := part_overwrite (positions_room position size)
  rw [positions_length] at written
  rw [pointed, written]
  simp only [List.flatMap_cons, List.flatMap_nil, List.append_nil]

theorem pointed_original (small : position < 2 ^ 64) :
    footerOriginalSize (pointed footer position) = position := by
  have inner : part (part (pointed footer position) 12 28) 0 8 =
      part (pointed footer position) 12 20 := part_part _ (by decide)
  rw [footerOriginalSize, ← inner, pointed_positions position size,
    part_front (big_length 8 position), fromBig_big small]

theorem pointed_offset (small : position < 2 ^ 64) :
    footerVbmetaOffset (pointed footer position) = position := by
  have inner : part (part (pointed footer position) 12 28) 8 16 =
      part (pointed footer position) 20 28 := part_part _ (by decide)
  have next : part (big 8 position ++ (big 8 position ++ [])) 8 (8 + (big 8 position).length) =
      big 8 position := part_next (big_length 8 position) []
  rw [big_length, List.append_nil] at next
  rw [footerVbmetaOffset, ← inner, pointed_positions position size, next, fromBig_big small]

theorem pointed_twice (other : Nat) :
    pointed (pointed footer position) other = pointed footer other := by
  apply overwrite_twice _ (positions_room position size)
  rw [positions_length, positions_length]

end Footer

/-! ### Reading -/

theorem closing_tail (front tail header footer : Bytes) (gap : Int) :
    part (front ++ closing tail header gap footer) front.length
      (front.length + tail.length) = tail :=
  part_next rfl _

theorem closing_header (front tail header footer : Bytes) (gap : Int) :
    part (front ++ closing tail header gap footer) (front.length + tail.length)
      (front.length + tail.length + header.length) = header := by
  have grouped : front ++ closing tail header gap footer =
      front ++ tail ++ (header ++ (zeros gap ++ footer)) := by
    simp only [closing, List.append_assoc]
  rw [grouped, ← List.length_append]
  exact part_next rfl _

theorem readAvb_closing {front tail header footer : Bytes} (gap : Int)
    (closes : Closes front.length tail header footer) :
    readAvb (front ++ closing tail header gap footer) front.length =
      .ok (some { footer, header, tail }) := by
  have length : (front ++ closing tail header gap footer).length =
      (front ++ (tail ++ (header ++ zeros gap))).length + avbFooterSize := by
    rw [closing]
    simp only [List.length_append, closes.size]
    omega
  have behind : (front ++ closing tail header gap footer).drop
      ((front ++ closing tail header gap footer).length - avbFooterSize) = footer := by
    have grouped : front ++ closing tail header gap footer =
        front ++ (tail ++ (header ++ zeros gap)) ++ footer := by
      simp only [closing, List.append_assoc]
    rw [length, Nat.add_sub_cancel, grouped, List.drop_left]
  have tailPart := closing_tail front tail header footer gap
  have headerPart := closing_header front tail header footer gap
  have present : ¬ ((front ++ closing tail header gap footer).length < avbFooterSize ∨
      part footer 0 4 ≠ avbFooterMagic) := by
    rintro (short | other)
    · omega
    · exact other closes.magic
  have enough : ¬ front.length + tail.length < front.length := by omega
  simp only [readAvb]
  rw [behind, if_neg present, closes.original, closes.offset, closes.length, headerPart,
    if_neg (not_not.mpr closes.vbmeta), if_neg enough, tailPart]

/-- An image that ends in zeros has no footer. -/
theorem readAvb_zeros (front : Bytes) (gap payloadEnd : Nat) (free : avbFooterSize ≤ gap) :
    readAvb (front ++ List.replicate gap 0) payloadEnd = .ok none := by
  have length : (front ++ List.replicate gap (0 : UInt8)).length = front.length + gap := by
    rw [List.length_append, List.length_replicate]
  have behind : (front ++ List.replicate gap (0 : UInt8)).drop
      (front.length + gap - avbFooterSize) = List.replicate avbFooterSize 0 := by
    have position : front.length + gap - avbFooterSize =
        front.length + (gap - avbFooterSize) := by omega
    rw [position, List.drop_length_add_append, List.drop_replicate]
    congr 1
    omega
  simp only [readAvb, length, behind]
  rw [if_pos (Or.inr (by decide))]

theorem readAvb_inv {data : Bytes} {payloadEnd : Nat} {avb : Avb}
    (read : readAvb data payloadEnd = .ok (some avb)) :
    avbFooterSize ≤ data.length ∧ avb.footer = data.drop (data.length - avbFooterSize) ∧
      part avb.footer 0 4 = avbFooterMagic ∧
      avb.header = part data (footerVbmetaOffset avb.footer)
        (footerVbmetaOffset avb.footer + footerVbmetaSize avb.footer) ∧
      part avb.header 0 4 = avbMagic ∧ payloadEnd ≤ footerOriginalSize avb.footer ∧
      avb.tail = part data payloadEnd (footerOriginalSize avb.footer) := by
  simp only [readAvb] at read
  split at read
  · cases read
  · next present =>
      rw [not_or, not_not] at present
      split at read
      · cases read
      · next vbmeta =>
          split at read
          · cases read
          · next enough =>
              cases read
              exact ⟨Nat.not_lt.mp present.1, rfl, present.2, rfl, not_not.mp vbmeta,
                Nat.not_lt.mp enough, rfl⟩

/-! ### Writing -/

theorem sealAvb_inv {image : BootImage} {avb : Avb} {out result : Bytes}
    (done : sealAvb image avb out = .ok result) :
    (padTo pageSize (out ++ avb.tail)).length + avb.header.length + avbFooterSize ≤
        image.data.length ∧
      (padTo pageSize (out ++ avb.tail)).length < 2 ^ 64 ∧
      result = padTo pageSize (out ++ avb.tail) ++
        (avb.header ++
          (zeros ((image.data.length : Int) - avbFooterSize -
            (padTo pageSize (out ++ avb.tail) ++ avb.header).length) ++
              pointed avb.footer (padTo pageSize (out ++ avb.tail)).length)) := by
  have even : aligned (padTo pageSize (out ++ avb.tail)).length 4096 =
      (padTo pageSize (out ++ avb.tail)).length :=
    aligned_self (by decide) (padTo_dvd (by decide) _)
  simp only [sealAvb, even, Int.sub_self] at done
  have noZeros : zeros 0 = [] := rfl
  rw [noZeros, List.append_nil] at done
  split at done
  · cases done
  · next fits =>
      obtain ⟨footer, packed, done⟩ := (Checked.bind_eq_ok _ _ _).mp done
      rw [packBigInto] at packed
      split at packed
      · next small =>
          cases packed
          cases done
          rw [List.length_append] at fits
          refine ⟨by omega, small.1 _ List.mem_cons_self, ?_⟩
          rw [List.append_assoc, List.append_assoc]
          rfl
      · cases packed

theorem sealAvb_ok {image : BootImage} {avb : Avb} {out : Bytes}
    (size : avb.footer.length = avbFooterSize) (even : pageSize ∣ (out ++ avb.tail).length)
    (room : (out ++ avb.tail).length + avb.header.length + avbFooterSize ≤ image.data.length)
    (small : (out ++ avb.tail).length < 2 ^ 64) :
    sealAvb image avb out = .ok (out ++ closing avb.tail avb.header
      ((image.data.length : Int) - avbFooterSize - (out ++ avb.tail ++ avb.header).length)
      (pointed avb.footer (out ++ avb.tail).length)) := by
  have padded : padTo pageSize (out ++ avb.tail) = out ++ avb.tail := padTo_self (by decide) even
  have alignedHere : aligned (out ++ avb.tail).length 4096 = (out ++ avb.tail).length :=
    aligned_self (by decide) even
  have noZeros : zeros 0 = [] := rfl
  have fits : ¬ image.data.length < (out ++ avb.tail ++ avb.header).length + avbFooterSize := by
    rw [List.length_append]
    omega
  have packed : packBigInto avb.footer 12 [(out ++ avb.tail).length, (out ++ avb.tail).length] =
      .ok (pointed avb.footer (out ++ avb.tail).length) := by
    rw [packBigInto, if_pos]
    · rfl
    · constructor
      · intro value member
        rcases List.mem_cons.mp member with rfl | member
        · exact small
        · rw [List.mem_singleton.mp member]
          exact small
      · rw [size]
        exact (by decide : 28 ≤ avbFooterSize)
  simp only [sealAvb, padded, alignedHere, Int.sub_self, noZeros, List.append_nil]
  rw [if_neg fits, packed]
  simp only [bind, Except.bind, closing, List.append_assoc]

/-! ### An image that sealing gives back -/

section Restored

variable {image : BootImage} {avb : Avb} {out : Bytes}
  (read : readAvb image.data out.length = .ok (some avb))
  (sealed : sealAvb image avb out = .ok image.data)

include read sealed

/-- The footer in the image is the one that sealing writes. -/
theorem restored_footer :
    avb.footer.length = avbFooterSize ∧
      avb.footer = pointed avb.footer (padTo pageSize (out ++ avb.tail)).length := by
  obtain ⟨sixtyFour, footerAt, _⟩ := readAvb_inv read
  obtain ⟨_, _, whole⟩ := sealAvb_inv sealed
  have size : avb.footer.length = avbFooterSize := by
    rw [footerAt, List.length_drop]
    omega
  have written := pointed_length (padTo pageSize (out ++ avb.tail)).length size
  constructor
  · exact size
  · rw [← List.append_assoc, ← List.append_assoc] at whole
    have last : image.data.drop (image.data.length - avbFooterSize) =
        pointed avb.footer (padTo pageSize (out ++ avb.tail)).length := by
      have length := congrArg List.length whole
      rw [List.length_append, written] at length
      rw [length, Nat.add_sub_cancel]
      have dropped := congrArg (List.drop (padTo pageSize (out ++ avb.tail) ++ avb.header ++
        zeros ((image.data.length : Int) - avbFooterSize -
          (padTo pageSize (out ++ avb.tail) ++ avb.header).length)).length) whole
      rw [List.drop_left] at dropped
      exact dropped
    exact footerAt.trans last

/-- Its tail reaches up to the vbmeta block, which stands where sealing puts it. -/
theorem restored_tail : (padTo pageSize (out ++ avb.tail)).length = (out ++ avb.tail).length := by
  obtain ⟨size, footer⟩ := restored_footer read sealed
  obtain ⟨fits, small, _⟩ := sealAvb_inv sealed
  obtain ⟨_, _, _, _, _, stop, tailAt⟩ := readAvb_inv read
  have original := pointed_original _ size small
  rw [← footer] at original
  have length := congrArg List.length tailAt
  rw [part_length, original] at length
  rw [List.length_append, length]
  omega

theorem restored_closes : Closes out.length avb.tail avb.header avb.footer := by
  obtain ⟨size, footer⟩ := restored_footer read sealed
  obtain ⟨fits, small, _⟩ := sealAvb_inv sealed
  obtain ⟨_, _, magic, headerAt, vbmeta, _, _⟩ := readAvb_inv read
  have original := pointed_original _ size small
  have offset := pointed_offset _ size small
  rw [← footer] at original offset
  have length := congrArg List.length headerAt
  rw [part_length, offset] at length
  have tail := restored_tail read sealed
  rw [List.length_append] at tail
  -- a vbmeta block cut short by the end of the image would leave no room for the footer
  have positive : 0 < avbFooterSize := by decide
  constructor
  · exact size
  · exact magic
  · rw [original, tail]
  · rw [offset, tail]
  · omega
  · exact vbmeta

theorem restored_form (even : pageSize ∣ out.length) :
    pageSize ∣ avb.tail.length ∧
      out.length + avb.tail.length + avb.header.length + avbFooterSize ≤ image.data.length ∧
      out.length + avb.tail.length < 2 ^ 64 ∧
      image.data = out ++ closing avb.tail avb.header ((image.data.length : Int) - avbFooterSize -
        (out ++ avb.tail ++ avb.header).length) avb.footer := by
  obtain ⟨_, footer⟩ := restored_footer read sealed
  obtain ⟨fits, small, whole⟩ := sealAvb_inv sealed
  have length := restored_tail read sealed
  have evenTail : pageSize ∣ (out ++ avb.tail).length := by
    rw [← length]
    exact padTo_dvd (by decide) _
  have padded : padTo pageSize (out ++ avb.tail) = out ++ avb.tail := padTo_self (by decide) evenTail
  rw [← footer, padded, List.append_assoc] at whole
  rw [padded, List.length_append] at fits small
  rw [List.length_append] at evenTail
  exact ⟨(Nat.dvd_add_right even).mp evenTail, fits, small, whole⟩

end Restored

end Liuqin.Boot
