/-
Repacking a boot image changes its ramdisk and nothing else.

An image whose unpatched round trip gives it back is its header page, its
padded blocks and a rest, with every size exact.  A rebuild keeps that form.
-/

import Liuqin.Boot.Sealed

namespace Liuqin.Boot

open Library Library.Bytes

/-! ### What the round trip implies -/

/-- An image in the form in which a rebuild leaves it. -/
structure Exact (data rest : Bytes) (image : BootImage) : Prop where
  same : image.data = data
  version : image.headerVersion = word data 40
  describes : Describes (part data 0 pageSize) image.kernel image.ramdisk image.signature
  form : data = part data 0 pageSize ++
    (blocks image.kernel image.ramdisk image.signature ++ rest)
  smallKernel : image.kernel.length < 2 ^ 32
  smallRamdisk : image.ramdisk.length < 2 ^ 32
  smallSignature : image.headerVersion ≥ 4 → image.signature.length < 2 ^ 32

/-- The header page of a result describes the blocks that were written. -/
theorem sized_describes {head kernel signature : Bytes} (whole : head.length = pageSize)
    (headed : Headed head) (ramdisk : Bytes) (smallKernel : kernel.length < 2 ^ 32)
    (smallRamdisk : ramdisk.length < 2 ^ 32)
    (smallSignature : word head 40 ≥ 4 → signature.length < 2 ^ 32)
    (noSignature : ¬ word head 40 ≥ 4 → signature.length = 0) :
    Describes (sized (word head 40) head kernel.length ramdisk.length signature.length) kernel
      ramdisk signature := by
  have version : word (sized (word head 40) head kernel.length ramdisk.length
      signature.length) 40 = word head 40 := sized_word whole (by decide) (by decide)
  constructor
  · exact sized_length whole
  · constructor
    · rw [sized_part whole (by decide) (by decide)]
      exact headed.magic
    · rw [version]
      exact headed.version
  · exact sized_kernel whole smallKernel
  · exact sized_ramdisk whole smallRamdisk
  · rw [signatureWord, version]
    split
    · next four => exact sized_signature whole four (smallSignature four)
    · next three => exact (noSignature three).symm

theorem head_part (data : Bytes) {stop : Nat} (within : stop ≤ pageSize) (start : Nat) :
    part (part data 0 pageSize) start stop = part data start stop := by
  have inner : part (part data 0 pageSize) start stop = part data (0 + start) (0 + stop) := by
    apply part_part
    rw [Nat.zero_add]
    exact within
  rw [inner, Nat.zero_add, Nat.zero_add]

theorem head_word (data : Bytes) {offset : Nat} (within : offset + 4 ≤ pageSize) :
    word (part data 0 pageSize) offset = word data offset := by
  rw [word, head_part data within, word]

theorem head_headed {data : Bytes} (headed : Headed data) : Headed (part data 0 pageSize) := by
  constructor
  · rw [head_part data (by decide)]
    exact headed.magic
  · rw [head_word data (by decide)]
    exact headed.version

theorem rebuild_inv {image : BootImage} {ramdisk result : Bytes}
    (done : rebuild image ramdisk = .ok result) :
    ∃ out, payload image ramdisk = .ok out ∧
      (image.avb = none → out.length ≤ image.data.length ∧
        result = out ++ zeros ((image.data.length : Int) - out.length)) ∧
      (∀ avb, image.avb = some avb → sealAvb image avb out = .ok result) := by
  obtain ⟨out, built, done⟩ := (Checked.bind_eq_ok _ _ _).mp done
  refine ⟨out, built, ?_, ?_⟩
  · intro plain
    rw [plain] at done
    dsimp only at done
    split at done
    · cases done
    · next fits =>
        cases done
        exact ⟨Nat.not_lt.mp fits, rfl⟩
  · intro avb sealed
    rw [sealed] at done
    exact done

/-- The payload comes first in what a rebuild gives. -/
theorem rebuild_front {image : BootImage} {ramdisk result : Bytes}
    (done : rebuild image ramdisk = .ok result) :
    ∃ out rest, payload image ramdisk = .ok out ∧ result = out ++ rest ∧
      out.length ≤ image.data.length := by
  obtain ⟨out, built, plain, sealed⟩ := rebuild_inv done
  cases avb : image.avb with
  | none =>
      obtain ⟨fits, whole⟩ := plain avb
      exact ⟨out, _, built, whole, fits⟩
  | some found =>
      obtain ⟨fits, _, whole⟩ := sealAvb_inv (sealed found avb)
      have bounds := aligned_bounds (out ++ found.tail).length (by decide : 0 < pageSize)
      rw [padTo_length (by decide)] at fits
      rw [List.length_append] at fits bounds
      rw [padTo, List.append_assoc, List.append_assoc] at whole
      exact ⟨out, _, built, whole, by omega⟩

theorem taken_signature {data : Bytes} (avb : Option Avb) (three : ¬ word data 40 ≥ 4) :
    (taken data avb).signature.length = 0 := by
  rw [taken, signatureWord, if_neg three, Nat.add_zero, part_length]
  omega

theorem exact_of_roundTrip {data : Bytes} {image : BootImage}
    (parsed : bootImage data = .ok image) (roundTrip : rebuild image image.ramdisk = .ok data) :
    ∃ rest, Exact data rest image := by
  obtain ⟨headed, room, avb, _, rfl⟩ := bootImage_inv parsed
  obtain ⟨out, rest, built, whole, fits⟩ := rebuild_front roundTrip
  have nonempty : (taken data avb).data ≠ [] := by
    apply List.ne_nil_of_length_pos
    exact Nat.lt_of_lt_of_le (by decide) room
  obtain ⟨smallKernel, smallRamdisk, smallSignature, paged⟩ := payload_inv built nonempty
  have long : pageSize ≤ (taken data avb).data.length := Nat.le_trans paged fits
  have known := payload_ok long smallKernel smallRamdisk smallSignature
  rw [built] at known
  have written := Except.ok.inj known
  have full : (part data 0 pageSize).length = pageSize := part_within long
  have version : (taken data avb).headerVersion = word (part data 0 pageSize) 40 :=
    (head_word data (by decide)).symm
  rw [version] at written smallSignature
  have grouped : data = sized (word (part data 0 pageSize) 40) (part data 0 pageSize)
      (taken data avb).kernel.length (taken data avb).ramdisk.length
        (taken data avb).signature.length ++
          (blocks (taken data avb).kernel (taken data avb).ramdisk (taken data avb).signature ++
            rest) := by
    apply whole.trans
    rw [written, List.append_assoc]
    rfl
  have head := part_of_form grouped (sized_length full)
  have describes := sized_describes full (head_headed headed) (taken data avb).ramdisk
    smallKernel smallRamdisk smallSignature (by
      rw [head_word data (by decide)]
      exact taken_signature avb)
  rw [← head] at describes grouped
  refine ⟨rest, ⟨rfl, rfl, describes, grouped, smallKernel, smallRamdisk, ?_⟩⟩
  rw [version]
  exact smallSignature

section Exact

variable {data rest : Bytes} {image : BootImage} (exact : Exact data rest image)

include exact

theorem exact_long : pageSize ≤ data.length := by
  have whole := exact.describes.whole
  rw [part_length] at whole
  omega

/-- The payload around another ramdisk. -/
theorem exact_payload {ramdisk : Bytes} (small : ramdisk.length < 2 ^ 32) :
    payload image ramdisk =
      .ok (sized (word (part data 0 pageSize) 40) (part data 0 pageSize) image.kernel.length
        ramdisk.length image.signature.length ++
          blocks image.kernel ramdisk image.signature) := by
  have long : pageSize ≤ image.data.length := by
    rw [exact.same]
    exact exact_long exact
  rw [payload_ok long exact.smallKernel small exact.smallSignature, exact.same, exact.version,
    head_word data (by decide)]

theorem exact_payload_own :
    payload image image.ramdisk =
      .ok (part data 0 pageSize ++ blocks image.kernel image.ramdisk image.signature) := by
  rw [exact_payload exact exact.smallRamdisk, sized_self exact.describes]

theorem exact_payloadStop : payloadStop data =
    (part data 0 pageSize ++ blocks image.kernel image.ramdisk image.signature).length := by
  rw [List.length_append, ← assembled_payloadStop exact.describes rest]
  exact congrArg payloadStop exact.form

end Exact

/-! ### An image around another ramdisk -/

/-- The header page for another ramdisk. -/
def resized (data : Bytes) (image : BootImage) (ramdisk : Bytes) : Bytes :=
  sized (word (part data 0 pageSize) 40) (part data 0 pageSize) image.kernel.length
    ramdisk.length image.signature.length

/-- The image with another ramdisk, up to what follows the payload. -/
def carrying (data : Bytes) (image : BootImage) (ramdisk rest : Bytes) : Bytes :=
  resized data image ramdisk ++ (blocks image.kernel ramdisk image.signature ++ rest)

theorem carrying_length (data : Bytes) (image : BootImage) (ramdisk rest : Bytes) :
    (carrying data image ramdisk rest).length =
      (resized data image ramdisk ++ blocks image.kernel ramdisk image.signature).length +
        rest.length := by
  rw [carrying, ← List.append_assoc, List.length_append]

section Carrying

variable {data rest : Bytes} {image : BootImage} (exact : Exact data rest image)
  {ramdisk : Bytes} (small : ramdisk.length < 2 ^ 32)

include exact small

theorem resized_describes :
    Describes (resized data image ramdisk) image.kernel ramdisk image.signature := by
  have version : image.headerVersion = word (part data 0 pageSize) 40 := by
    rw [exact.version, head_word data (by decide)]
  have smallSignature := exact.smallSignature
  rw [version] at smallSignature
  apply sized_describes exact.describes.whole exact.describes.headed ramdisk exact.smallKernel
    small smallSignature
  intro three
  have signature := exact.describes.signature
  rw [signatureWord, if_neg three] at signature
  exact signature.symm

variable (rest' : Bytes)

/-- Outside the sizes the header page is the same. -/
theorem carrying_part {start stop : Nat} (within : stop ≤ pageSize)
    (apart : stop ≤ 8 ∨ 16 ≤ start) (apartSignature : stop ≤ 1580 ∨ 1584 ≤ start) :
    part (carrying data image ramdisk rest') start stop = part data start stop := by
  rw [carrying, assembled_part (resized_describes exact small) rest' within, resized,
    sized_part exact.describes.whole apart apartSignature, head_part data within]

theorem carrying_word {offset : Nat} (within : offset + 4 ≤ pageSize)
    (apart : offset + 4 ≤ 8 ∨ 16 ≤ offset) (apartSignature : offset + 4 ≤ 1580 ∨ 1584 ≤ offset) :
    word (carrying data image ramdisk rest') offset = word data offset := by
  rw [word, carrying_part exact small rest' within apart apartSignature, word]

theorem carrying_kernelWord :
    word (carrying data image ramdisk rest') 8 = word data 8 := by
  rw [carrying, assembled_word (resized_describes exact small) rest' (by decide),
    (resized_describes exact small).kernel, ← exact.describes.kernel, head_word data (by decide)]

theorem carrying_signatureWord (four : word data 40 ≥ 4) :
    word (carrying data image ramdisk rest') 1580 = word data 1580 := by
  have version := carrying_word exact small rest' (by decide : 40 + 4 ≤ pageSize)
    (by decide) (by decide)
  have after := assembled_signatureWord (resized_describes exact small) rest'
  have before := exact.describes.signature
  rw [signatureWord, head_word data (by decide), if_pos four, head_word data (by decide)] at before
  rw [← carrying, signatureWord, version, if_pos four] at after
  rw [after, before]

theorem carrying_headed : Headed (carrying data image ramdisk rest') :=
  assembled_headed (resized_describes exact small) rest'

theorem carrying_head :
    part (carrying data image ramdisk rest') 0 pageSize = resized data image ramdisk :=
  part_of_form rfl (resized_describes exact small).whole

theorem carrying_payloadStop : payloadStop (carrying data image ramdisk rest') =
    (resized data image ramdisk ++ blocks image.kernel ramdisk image.signature).length := by
  rw [carrying, assembled_payloadStop (resized_describes exact small), List.length_append]

theorem carrying_exact (avb : Option Avb) :
    Exact (carrying data image ramdisk rest') rest'
      (taken (carrying data image ramdisk rest') avb) := by
  have describes := resized_describes exact small
  have kernel : (taken (carrying data image ramdisk rest') avb).kernel = image.kernel :=
    assembled_kernel describes rest' avb
  have ramdiskSame : (taken (carrying data image ramdisk rest') avb).ramdisk = ramdisk :=
    assembled_ramdisk describes rest' avb
  have signature : (taken (carrying data image ramdisk rest') avb).signature = image.signature :=
    assembled_signature describes rest' avb
  have version : (taken (carrying data image ramdisk rest') avb).headerVersion =
      image.headerVersion := by
    rw [exact.version]
    exact carrying_word exact small rest' (by decide) (by decide) (by decide)
  constructor
  · rfl
  · rfl
  · rw [carrying_head exact small, kernel, ramdiskSame, signature]
    exact describes
  · rw [carrying_head exact small, kernel, ramdiskSame, signature]
    rfl
  · rw [kernel]
    exact exact.smallKernel
  · rw [ramdiskSame]
    exact small
  · rw [version, signature]
    exact exact.smallSignature

/-- Put around the first ramdisk again, the payload is the first one. -/
theorem carrying_payload (avb : Option Avb) :
    payload (taken (carrying data image ramdisk rest') avb) image.ramdisk =
      .ok (part data 0 pageSize ++ blocks image.kernel image.ramdisk image.signature) := by
  have describes := resized_describes exact small
  have kernel : (taken (carrying data image ramdisk rest') avb).kernel = image.kernel :=
    assembled_kernel describes rest' avb
  have signature : (taken (carrying data image ramdisk rest') avb).signature = image.signature :=
    assembled_signature describes rest' avb
  have version : word (resized data image ramdisk) 40 = word (part data 0 pageSize) 40 :=
    sized_word exact.describes.whole (by decide) (by decide)
  rw [exact_payload (carrying_exact exact small rest' avb) exact.smallRamdisk,
    carrying_head exact small, kernel, signature, version, resized,
    sized_twice exact.describes.whole, sized_self exact.describes]

end Carrying

end Liuqin.Boot
