/-
What taking an image apart gives.
-/

import Liuqin.Boot.Repack
import Liuqin.Library.Checked

namespace Liuqin.Boot

open Library Library.Bytes

/-! ### The parts as functions of the bytes -/

def signatureWord (data : Bytes) : Nat := if word data 40 ≥ 4 then word data 1580 else 0

def ramdiskStart (data : Bytes) : Nat := pageSize + aligned (word data 8) pageSize

def signatureStart (data : Bytes) : Nat := ramdiskStart data + aligned (word data 12) pageSize

def payloadStop (data : Bytes) : Nat := signatureStart data + aligned (signatureWord data) pageSize

def taken (data : Bytes) (avb : Option Avb) : BootImage where
  data := data
  headerVersion := word data 40
  kernelSize := word data 8
  ramdiskSize := word data 12
  osVersion := word data 16
  headerSize := word data 20
  cmdline := part data 44 1580
  signatureSize := signatureWord data
  kernel := part data pageSize (pageSize + word data 8)
  ramdiskOffset := ramdiskStart data
  ramdisk := part data (ramdiskStart data) (ramdiskStart data + word data 12)
  signature := part data (signatureStart data) (signatureStart data + signatureWord data)
  payloadEnd := payloadStop data
  avb := avb

theorem unpack_inv {data : Bytes} {offset value : Nat} (done : unpack data offset = .ok value) :
    offset + 4 ≤ data.length ∧ value = word data offset := by
  rw [unpack] at done
  split at done
  · next room =>
      cases done
      exact ⟨room, rfl⟩
  · cases done

theorem unpack_ok {data : Bytes} {offset : Nat} (room : offset + 4 ≤ data.length) :
    unpack data offset = .ok (word data offset) := by
  rw [unpack, if_pos room]
  rfl

/-- A header that names an image of version 3 or 4. -/
structure Headed (data : Bytes) : Prop where
  magic : part data 0 8 = bootMagic
  version : word data 40 = 3 ∨ word data 40 = 4

theorem signature_inv {data : Bytes} {value : Nat}
    (done : (if word data 40 ≥ 4 then unpack data 1580 else .ok 0) = .ok value) :
    value = signatureWord data := by
  rw [signatureWord]
  split at done
  · next four =>
      rw [if_pos four]
      exact (unpack_inv done).2
  · next three =>
      cases done
      rw [if_neg three]

theorem bootImage_inv {data : Bytes} {image : BootImage} (parsed : bootImage data = .ok image) :
    Headed data ∧ 44 ≤ data.length ∧
      ∃ avb, readAvb data (payloadStop data) = .ok avb ∧ image = taken data avb := by
  rw [bootImage] at parsed
  by_cases magic : part data 0 8 ≠ bootMagic
  · rw [if_pos magic] at parsed
    cases parsed
  · rw [if_neg magic] at parsed
    obtain ⟨version, versionRead, parsed⟩ := (Checked.bind_eq_ok _ _ _).mp parsed
    obtain ⟨room, rfl⟩ := unpack_inv versionRead
    by_cases unknown : word data 40 ≠ 3 ∧ word data 40 ≠ 4
    · rw [if_pos unknown] at parsed
      cases parsed
    · rw [if_neg unknown] at parsed
      obtain ⟨kernel, kernelRead, parsed⟩ := (Checked.bind_eq_ok _ _ _).mp parsed
      obtain ⟨ramdisk, ramdiskRead, parsed⟩ := (Checked.bind_eq_ok _ _ _).mp parsed
      obtain ⟨os, osRead, parsed⟩ := (Checked.bind_eq_ok _ _ _).mp parsed
      obtain ⟨header, headerRead, parsed⟩ := (Checked.bind_eq_ok _ _ _).mp parsed
      obtain ⟨signature, signatureRead, parsed⟩ := (Checked.bind_eq_ok _ _ _).mp parsed
      obtain ⟨avb, avbRead, parsed⟩ := (Checked.bind_eq_ok _ _ _).mp parsed
      obtain ⟨_, rfl⟩ := unpack_inv kernelRead
      obtain ⟨_, rfl⟩ := unpack_inv ramdiskRead
      obtain ⟨_, rfl⟩ := unpack_inv osRead
      obtain ⟨_, rfl⟩ := unpack_inv headerRead
      have signed := signature_inv signatureRead
      rw [signed] at avbRead parsed
      refine ⟨⟨not_not.mp magic, by omega⟩, room, avb, avbRead, ?_⟩
      cases parsed
      rfl

theorem bootImage_ok {data : Bytes} {avb : Option Avb} (headed : Headed data)
    (long : pageSize ≤ data.length) (read : readAvb data (payloadStop data) = .ok avb) :
    bootImage data = .ok (taken data avb) := by
  have room : ∀ offset, offset + 4 ≤ pageSize → unpack data offset = .ok (word data offset) := by
    intro offset within
    exact unpack_ok (Nat.le_trans within long)
  have signature : (if word data 40 ≥ 4 then unpack data 1580 else .ok 0) =
      .ok (signatureWord data) := by
    rw [signatureWord]
    split
    · exact room 1580 (by decide)
    · rfl
  have known : ¬ (word data 40 ≠ 3 ∧ word data 40 ≠ 4) := by
    have version := headed.version
    omega
  rw [bootImage, if_neg (not_not.mpr headed.magic), room 40 (by decide)]
  simp only [bind, Except.bind]
  rw [if_neg known, room 8 (by decide), room 12 (by decide), room 16 (by decide),
    room 20 (by decide), signature]
  rw [payloadStop, signatureStart, ramdiskStart] at read
  simp only [read]
  rfl

/-! ### An image that is put together from a header page, blocks and a rest -/

/-- The header page holds the sizes of these blocks. -/
structure Describes (head kernel ramdisk signature : Bytes) : Prop where
  whole : head.length = pageSize
  headed : Headed head
  kernel : word head 8 = kernel.length
  ramdisk : word head 12 = ramdisk.length
  signature : signatureWord head = signature.length

section Assembled

variable {head kernel ramdisk signature : Bytes} (describes : Describes head kernel ramdisk signature)
  (rest : Bytes)

include describes

theorem assembled_part {stop : Nat} (within : stop ≤ pageSize) (start : Nat) :
    part (head ++ (blocks kernel ramdisk signature ++ rest)) start stop = part head start stop := by
  apply part_left
  rw [describes.whole]
  exact within

theorem assembled_word {offset : Nat} (within : offset + 4 ≤ pageSize) :
    word (head ++ (blocks kernel ramdisk signature ++ rest)) offset = word head offset := by
  rw [word, assembled_part describes rest within, word]

theorem assembled_headed : Headed (head ++ (blocks kernel ramdisk signature ++ rest)) := by
  constructor
  · rw [assembled_part describes rest (by decide)]
    exact describes.headed.magic
  · rw [assembled_word describes rest (by decide)]
    exact describes.headed.version

theorem assembled_signatureWord :
    signatureWord (head ++ (blocks kernel ramdisk signature ++ rest)) = signature.length := by
  rw [signatureWord, assembled_word describes rest (by decide),
    assembled_word describes rest (by decide)]
  exact describes.signature

theorem assembled_payloadStop :
    payloadStop (head ++ (blocks kernel ramdisk signature ++ rest)) =
      head.length + (blocks kernel ramdisk signature).length := by
  rw [payloadStop, assembled_signatureWord describes, signatureStart, ramdiskStart,
    assembled_word describes rest (by decide), assembled_word describes rest (by decide),
    describes.kernel, describes.ramdisk, describes.whole, blocks_length]
  omega

theorem assembled_kernel (avb : Option Avb) :
    (taken (head ++ (blocks kernel ramdisk signature ++ rest)) avb).kernel = kernel := by
  have size := assembled_word describes rest (by decide : 8 + 4 ≤ pageSize)
  rw [taken, size, describes.kernel, blocks, page, padTo]
  simp only [List.append_assoc]
  exact part_next describes.whole _

theorem assembled_ramdisk (avb : Option Avb) :
    (taken (head ++ (blocks kernel ramdisk signature ++ rest)) avb).ramdisk = ramdisk := by
  have kernelSize := assembled_word describes rest (by decide : 8 + 4 ≤ pageSize)
  have size := assembled_word describes rest (by decide : 12 + 4 ≤ pageSize)
  have start : (head ++ page kernel).length = pageSize + aligned kernel.length pageSize := by
    rw [List.length_append, describes.whole, page_length]
  rw [taken, ramdiskStart, size, kernelSize, describes.ramdisk, describes.kernel, blocks, ← start]
  have grouped : head ++ (page kernel ++ (page ramdisk ++ page signature) ++ rest) =
      head ++ page kernel ++ (ramdisk ++ (zeros (alignTo ramdisk.length pageSize - ramdisk.length) ++
        (page signature ++ rest))) := by
    simp only [page, padTo, List.append_assoc]
  rw [grouped]
  exact part_next rfl _

theorem assembled_signature (avb : Option Avb) :
    (taken (head ++ (blocks kernel ramdisk signature ++ rest)) avb).signature = signature := by
  have kernelSize := assembled_word describes rest (by decide : 8 + 4 ≤ pageSize)
  have ramdiskSize := assembled_word describes rest (by decide : 12 + 4 ≤ pageSize)
  have start : (head ++ page kernel ++ page ramdisk).length =
      pageSize + aligned kernel.length pageSize + aligned ramdisk.length pageSize := by
    rw [List.length_append, List.length_append, describes.whole, page_length, page_length]
  rw [taken, signatureStart, ramdiskStart, assembled_signatureWord describes, ramdiskSize,
    kernelSize, describes.ramdisk, describes.kernel, blocks, ← start]
  have grouped : head ++ (page kernel ++ (page ramdisk ++ page signature) ++ rest) =
      head ++ page kernel ++ page ramdisk ++
        (signature ++ (zeros (alignTo signature.length pageSize - signature.length) ++ rest)) := by
    simp only [page, padTo, List.append_assoc]
  rw [grouped]
  exact part_next rfl _

end Assembled

theorem little_word {head : Bytes} {offset : Nat} (within : offset + 4 ≤ head.length) :
    little 4 (word head offset) = part head offset (offset + 4) := by
  have four : (part head offset (offset + 4)).length = 4 := by
    rw [part_within within]
    omega
  have same := little_fromLittle (part head offset (offset + 4))
  rw [four] at same
  exact same

/-- Writing in the sizes that are there changes nothing. -/
theorem sized_self {head kernel ramdisk signature : Bytes}
    (describes : Describes head kernel ramdisk signature) :
    sized (word head 40) head kernel.length ramdisk.length signature.length = head := by
  have room : 8 + ([kernel.length, ramdisk.length].flatMap (little 4)).length ≤ head.length := by
    rw [sizes_length, describes.whole]
    decide
  have sizes : overwrite head 8 ([kernel.length, ramdisk.length].flatMap (little 4)) = head := by
    apply overwrite_same room
    have joined : part head 8 12 ++ part head 12 16 = part head 8 16 :=
      part_append_part (by decide) (by decide)
    have first : little 4 (word head 8) = part head 8 12 :=
      little_word (by rw [describes.whole]; decide)
    have second : little 4 (word head 12) = part head 12 16 :=
      little_word (by rw [describes.whole]; decide)
    rw [sizes_length, ← joined, ← first, ← second, describes.kernel, describes.ramdisk]
    simp only [List.flatMap_cons, List.flatMap_nil, List.append_nil]
  rw [sized, sizes]
  split
  · next four =>
      have signature := describes.signature
      rw [signatureWord, if_pos four] at signature
      apply overwrite_same
      · rw [size_length, describes.whole]
        decide
      · rw [size_length, ← signature, List.flatMap_cons, List.flatMap_nil, List.append_nil,
          little_word]
        rw [describes.whole]
        decide
  · rfl

end Liuqin.Boot
