/-
What a rebuild changes: the ramdisk, and what has to follow from its size.
-/

import Liuqin.Boot.Repacked

namespace Liuqin.Boot

open Library Library.Bytes

/-- The result of a rebuild beside the image it was made from. -/
structure OnlyRamdisk (image after : BootImage) (ramdisk result : Bytes) : Prop where
  length : result.length = image.data.length
  parsed : bootImage result = .ok after
  ramdisk : after.ramdisk = ramdisk
  kernel : after.kernel = image.kernel
  signature : after.signature = image.signature
  cmdline : after.cmdline = image.cmdline
  fields : ∃ before now, image.headerFields = .ok before ∧ after.headerFields = .ok now ∧
    now.filter (fun field => field.1 ≠ "ramdisk_size") =
      before.filter (fun field => field.1 ≠ "ramdisk_size")
  plain : image.avb = none → after.avb = none
  avb : ∀ avb, image.avb = some avb → ∃ now, after.avb = some now ∧
    part result (footerVbmetaOffset now.footer)
      (footerVbmetaOffset now.footer + footerVbmetaSize now.footer) = avb.header ∧
    footerVbmetaOffset now.footer + footerVbmetaSize now.footer + avbFooterSize ≤ result.length ∧
    after.payloadEnd ≤ footerOriginalSize now.footer ∧
    part result after.payloadEnd (footerVbmetaOffset now.footer) =
      part image.data image.payloadEnd (footerVbmetaOffset avb.footer)
  back : rebuild after image.ramdisk = .ok image.data
  /-- However much of the two images is read. -/
  kind : ∀ length, bootImageKind (result.take length) = bootImageKind (image.data.take length)

/-! ### Header fields and kind -/

theorem fieldTable_within {version : Nat} {field : String × Nat}
    (member : field ∈ fieldTable version) : field.2 + 4 ≤ pageSize := by
  have all : ∀ field ∈ [("kernel_size", 8), ("ramdisk_size", 12), ("os_version", 16),
      ("header_size", 20), ("header_version", 40), ("signature_size", 1580)],
      field.2 + 4 ≤ pageSize := by
    simp [pageSize]
  exact all field (List.mem_filter.mp member).1

theorem headerFields_long {image : BootImage} (long : pageSize ≤ image.data.length) :
    image.headerFields = .ok ((fieldTable image.headerVersion).map (fun field =>
      (field.1, word image.data field.2))) := by
  apply Checked.mapM_ok
  intro field member
  rw [unpack_ok (Nat.le_trans (fieldTable_within member) long)]
  rfl

theorem part_take {data : Bytes} {stop length : Nat} (within : stop ≤ length) (start : Nat) :
    part (data.take length) start stop = part data start stop := by
  rw [part, part, List.take_take, Nat.min_eq_left within]

/-- The kind is decided by the magic and six numbers. -/
theorem kind_of_words {one other : Bytes} (length : one.length = other.length)
    (magic : part one 0 8 = part other 0 8)
    (words : ∀ offset ∈ [8, 40, 36, 1644, 1648, 20], word one offset = word other offset) :
    bootImageKind one = bootImageKind other := by
  have same : ∀ offset ∈ [8, 40, 36, 1644, 1648, 20],
      fromLittle (part one offset (offset + 4)) = fromLittle (part other offset (offset + 4)) := words
  rw [bootImageKind, bootImageKind]
  simp only [length, magic, same 8 (by decide), same 40 (by decide), same 36 (by decide),
    same 1644 (by decide), same 1648 (by decide), same 20 (by decide)]

section Carrying

variable {data rest : Bytes} {image : BootImage} (exact : Exact data rest image)
  {ramdisk : Bytes} (small : ramdisk.length < 2 ^ 32) (rest' : Bytes)

include exact small

theorem carrying_kind (length : (carrying data image ramdisk rest').length = data.length)
    (count : Nat) :
    bootImageKind ((carrying data image ramdisk rest').take count) =
      bootImageKind (data.take count) := by
  have lengths : ((carrying data image ramdisk rest').take count).length =
      (data.take count).length := by
    rw [List.length_take, List.length_take, length]
  by_cases short : (data.take count).length < 1652
  · rw [bootImageKind, bootImageKind, if_pos (Or.inl short), if_pos (Or.inl (by omega))]
  · have count : 1652 ≤ count := by
      rw [List.length_take] at short
      omega
    apply kind_of_words lengths
    · rw [part_take (by omega), part_take (by omega)]
      exact carrying_part exact small rest' (by decide) (by decide) (by decide)
    · have same : ∀ offset ∈ [8, 40, 36, 1644, 1648, 20],
          word (carrying data image ramdisk rest') offset = word data offset := by
        have other : ∀ offset, offset + 4 ≤ pageSize → (offset + 4 ≤ 8 ∨ 16 ≤ offset) →
            (offset + 4 ≤ 1580 ∨ 1584 ≤ offset) →
              word (carrying data image ramdisk rest') offset = word data offset :=
          fun offset => carrying_word exact small rest'
        simp only [List.mem_cons, List.not_mem_nil, or_false]
        rintro offset (rfl | rfl | rfl | rfl | rfl | rfl)
        · exact carrying_kernelWord exact small rest'
        · exact other 40 (by decide) (by decide) (by decide)
        · exact other 36 (by decide) (by decide) (by decide)
        · exact other 1644 (by decide) (by decide) (by decide)
        · exact other 1648 (by decide) (by decide) (by decide)
        · exact other 20 (by decide) (by decide) (by decide)
      have near : ∀ offset ∈ [8, 40, 36, 1644, 1648, 20], offset + 4 ≤ 1652 := by decide
      intro offset member
      have within := near offset member
      rw [word, word, part_take (by omega), part_take (by omega)]
      exact same offset member

theorem carrying_fields (avb : Option Avb)
    (long : pageSize ≤ (carrying data image ramdisk rest').length) :
    ∃ before now, image.headerFields = .ok before ∧
      (taken (carrying data image ramdisk rest') avb).headerFields = .ok now ∧
      now.filter (fun field => field.1 ≠ "ramdisk_size") =
        before.filter (fun field => field.1 ≠ "ramdisk_size") := by
  have longBefore : pageSize ≤ image.data.length := by
    rw [exact.same]
    exact exact_long exact
  have version : (taken (carrying data image ramdisk rest') avb).headerVersion =
      image.headerVersion := by
    rw [exact.version]
    exact carrying_word exact small rest' (by decide) (by decide) (by decide)
  refine ⟨_, _, headerFields_long longBefore, headerFields_long long, ?_⟩
  rw [version, exact.same, List.filter_map, List.filter_map]
  apply List.map_congr_left
  intro field member
  have inTable := List.mem_filter.mp (List.mem_filter.mp member).1
  have notRamdisk := (List.mem_filter.mp member).2
  have other : ∀ offset, offset + 4 ≤ pageSize → (offset + 4 ≤ 8 ∨ 16 ≤ offset) →
      (offset + 4 ≤ 1580 ∨ 1584 ≤ offset) →
        word (carrying data image ramdisk rest') offset = word data offset :=
    fun offset => carrying_word exact small rest'
  apply Prod.ext
  · rfl
  · have listed := inTable.1
    simp only [List.mem_cons, List.not_mem_nil, or_false] at listed
    rcases listed with rfl | rfl | rfl | rfl | rfl | rfl
    · exact carrying_kernelWord exact small rest'
    · simp at notRamdisk
    · exact other 16 (by decide) (by decide) (by decide)
    · exact other 20 (by decide) (by decide) (by decide)
    · exact other 40 (by decide) (by decide) (by decide)
    · have four : word data 40 ≥ 4 := by
        have condition := inTable.2
        rw [exact.version] at condition
        simp at condition
        omega
      exact carrying_signatureWord exact small rest' four

end Carrying

/-! ### Both kinds of image -/

section Rebuilt

variable {data rest : Bytes} {avb : Option Avb} (exact : Exact data rest (taken data avb))
  {ramdisk result : Bytes} (small : ramdisk.length < 2 ^ 32)

include exact small

/-- What the form of the result gives; the rest is about what follows the payload. -/
theorem only_of_carrying {rest' : Bytes} {now : Option Avb}
    (form : result = carrying data (taken data avb) ramdisk rest')
    (length : result.length = data.length)
    (read : readAvb result (payloadStop result) = .ok now)
    (plain : avb = none → now = none)
    (sealed : ∀ before, avb = some before → ∃ after, now = some after ∧
      part result (footerVbmetaOffset after.footer)
        (footerVbmetaOffset after.footer + footerVbmetaSize after.footer) = before.header ∧
      footerVbmetaOffset after.footer + footerVbmetaSize after.footer + avbFooterSize ≤
        result.length ∧
      payloadStop result ≤ footerOriginalSize after.footer ∧
      part result (payloadStop result) (footerVbmetaOffset after.footer) =
        part data (payloadStop data) (footerVbmetaOffset before.footer))
    (back : rebuild (taken result now) (taken data avb).ramdisk = .ok data) :
    OnlyRamdisk (taken data avb) (taken result now) ramdisk result := by
  have describes := resized_describes exact small
  have long : pageSize ≤ result.length := by
    rw [length]
    exact exact_long exact
  subst form
  constructor
  · exact length
  · exact bootImage_ok (carrying_headed exact small rest') long read
  · exact assembled_ramdisk describes rest' now
  · exact assembled_kernel describes rest' now
  · exact assembled_signature describes rest' now
  · exact carrying_part exact small rest' (by decide) (by decide) (by decide)
  · exact carrying_fields exact small rest' now long
  · exact plain
  · exact sealed
  · exact back
  · exact carrying_kind exact small rest' length

end Rebuilt

theorem zeros_nat (count : Nat) : zeros (count : Int) = List.replicate count 0 := by
  rw [zeros, Int.toNat_natCast]

theorem rebuilt_plain {data rest ramdisk result : Bytes} (exact : Exact data rest (taken data none))
    (small : ramdisk.length < 2 ^ 32)
    (roundTrip : rebuild (taken data none) (taken data none).ramdisk = .ok data)
    (rebuilt : rebuild (taken data none) ramdisk = .ok result)
    (free : ∀ out, payload (taken data none) ramdisk = .ok out →
      out.length + avbFooterSize ≤ data.length) :
    ∃ after, OnlyRamdisk (taken data none) after ramdisk result := by
  obtain ⟨out, built, plain, _⟩ := rebuild_inv rebuilt
  have room := free out built
  obtain ⟨fits, whole⟩ := plain rfl
  obtain ⟨gap, gapLength⟩ := Nat.le.dest (Nat.le_of_add_right_le room)
  have gapInt : ((taken data none).data.length : Int) - out.length = (gap : Nat) := by
    have same : (taken data none).data.length = data.length := rfl
    omega
  rw [gapInt, zeros_nat] at whole
  have length : result.length = data.length := by
    rw [whole, List.length_append, List.length_replicate, gapLength]
  have own := exact_payload exact small
  rw [built] at own
  have form : result = carrying data (taken data none) ramdisk (List.replicate gap 0) := by
    rw [whole, carrying, ← List.append_assoc]
    exact congrArg (fun front => front ++ _) (Except.ok.inj own)
  have read : readAvb result (payloadStop result) = .ok none := by
    rw [whole]
    exact readAvb_zeros out gap _ (by omega)
  obtain ⟨before, builtBefore, plainBefore, _⟩ := rebuild_inv roundTrip
  obtain ⟨fitsBefore, wholeBefore⟩ := plainBefore rfl
  have back : rebuild (taken result none) (taken data none).ramdisk = .ok data := by
    have payloadBack := carrying_payload exact small (List.replicate gap 0) none
    rw [← form, ← exact_payload_own exact, builtBefore] at payloadBack
    rw [rebuild, payloadBack]
    have same : (taken result none).data.length = (taken data none).data.length := length
    simp only [bind, Except.bind]
    change (if (taken result none).data.length < before.length then _ else _) = _
    rw [same, if_neg (Nat.not_lt.mpr fitsBefore), ← wholeBefore]
  refine ⟨taken result none, only_of_carrying exact small form length read ?_ ?_ back⟩
  · intro _
    rfl
  · intro avb impossible
    cases impossible

/-- A footer that is pointed at the vbmeta block behind another front. -/
theorem pointed_closes {before front : Nat} {tail header footer : Bytes}
    (closes : Closes before tail header footer) (small : front + tail.length < 2 ^ 64) :
    Closes front tail header (pointed footer (front + tail.length)) := by
  constructor
  · exact pointed_length _ closes.size
  · rw [pointed_magic _ closes.size]
    exact closes.magic
  · exact pointed_original _ closes.size small
  · exact pointed_offset _ closes.size small
  · rw [pointed_vbmetaSize _ closes.size]
    exact closes.length
  · exact closes.vbmeta

/-- What sealing gives fills the image. -/
theorem closing_fills {size : Nat} {front tail header footer : Bytes}
    (sixtyFour : footer.length = avbFooterSize)
    (room : front.length + tail.length + header.length + avbFooterSize ≤ size) :
    (front ++ closing tail header ((size : Int) - avbFooterSize -
      (front ++ tail ++ header).length) footer).length = size := by
  rw [closing, zeros]
  simp only [List.length_append, List.length_replicate, sixtyFour]
  omega

theorem rebuilt_sealed {data rest ramdisk result : Bytes} {avb : Avb}
    (parsed : readAvb data (payloadStop data) = .ok (some avb))
    (exact : Exact data rest (taken data (some avb))) (small : ramdisk.length < 2 ^ 32)
    (roundTrip : rebuild (taken data (some avb)) (taken data (some avb)).ramdisk = .ok data)
    (rebuilt : rebuild (taken data (some avb)) ramdisk = .ok result) :
    ∃ after, OnlyRamdisk (taken data (some avb)) after ramdisk result := by
  obtain ⟨before, builtBefore, _, sealedBefore⟩ := rebuild_inv roundTrip
  obtain ⟨out, built, _, sealedNow⟩ := rebuild_inv rebuilt
  have sealBefore := sealedBefore avb rfl
  have sealNow := sealedNow avb rfl
  have own := exact_payload_own exact
  have other := exact_payload exact small
  rw [builtBefore] at own
  rw [built] at other
  have ownForm := Except.ok.inj own
  have form := Except.ok.inj other
  have stopBefore : payloadStop data = before.length := by
    rw [ownForm]
    exact exact_payloadStop exact
  have evenBefore : pageSize ∣ before.length := by
    rw [ownForm, List.length_append, exact.describes.whole]
    exact Nat.dvd_add (Nat.dvd_refl _) (blocks_dvd _ _ _)
  have even : pageSize ∣ out.length := by
    rw [form, List.length_append, sized_length exact.describes.whole]
    exact Nat.dvd_add (Nat.dvd_refl _) (blocks_dvd _ _ _)
  rw [stopBefore] at parsed
  -- the structures of the image as it was
  have closes := restored_closes parsed sealBefore
  obtain ⟨evenTail, roomBefore, smallBefore, wholeBefore⟩ :=
    restored_form parsed sealBefore evenBefore
  have footerBefore := (restored_footer parsed sealBefore).2
  rw [restored_tail parsed sealBefore] at footerBefore
  -- and behind the new payload
  have evenNow : pageSize ∣ (out ++ avb.tail).length := by
    rw [List.length_append]
    exact Nat.dvd_add even evenTail
  obtain ⟨room, smallNow, _⟩ := sealAvb_inv sealNow
  rw [padTo_self (by decide) evenNow] at room smallNow
  have whole := sealAvb_ok closes.size evenNow room smallNow
  rw [sealNow] at whole
  have whole := Except.ok.inj whole
  rw [List.length_append] at room smallNow
  have closesNow : Closes out.length avb.tail avb.header
      (avb.moved (out.length + avb.tail.length)).footer := pointed_closes closes smallNow
  have carried : result = carrying data (taken data (some avb)) ramdisk
      (closing avb.tail avb.header (((taken data (some avb)).data.length : Int) - avbFooterSize -
        (out ++ avb.tail ++ avb.header).length) (pointed avb.footer (out ++ avb.tail).length)) := by
    rw [carrying, ← List.append_assoc, resized, ← form]
    exact whole
  have stop : payloadStop result = out.length := by
    rw [carried, carrying_payloadStop exact small, form]
    rfl
  have span : (out ++ avb.tail).length = out.length + avb.tail.length := List.length_append
  rw [span] at whole
  have length : result.length = data.length := by
    rw [whole]
    exact closing_fills closesNow.size room
  have read : readAvb result (payloadStop result) =
      .ok (some (avb.moved (out.length + avb.tail.length))) := by
    rw [stop, whole]
    exact readAvb_closing _ closesNow
  have back : rebuild (taken result (some (avb.moved (out.length + avb.tail.length))))
      (taken data (some avb)).ramdisk = .ok data := by
    have payloadBack := carrying_payload exact small
      (closing avb.tail avb.header (((taken data (some avb)).data.length : Int) - avbFooterSize -
        (out ++ avb.tail ++ avb.header).length) (pointed avb.footer (out ++ avb.tail).length))
      (some (avb.moved (out.length + avb.tail.length)))
    rw [← carried, ← ownForm] at payloadBack
    have evenTailBefore : pageSize ∣ (before ++ avb.tail).length := by
      rw [List.length_append]
      exact Nat.dvd_add evenBefore evenTail
    have spanBefore : (before ++ avb.tail).length = before.length + avb.tail.length :=
      List.length_append
    rw [rebuild, payloadBack]
    simp only [bind, Except.bind]
    change sealAvb _ _ before = _
    rw [sealAvb_ok closesNow.size evenTailBefore]
    · change Except.ok (before ++ closing avb.tail avb.header ((result.length : Int) -
        avbFooterSize - (before ++ avb.tail ++ avb.header).length)
          (pointed (pointed avb.footer (out.length + avb.tail.length))
            (before ++ avb.tail).length)) = _
      rw [pointed_twice _ closes.size, ← footerBefore, length]
      exact congrArg Except.ok wholeBefore.symm
    · change (before ++ avb.tail).length + avb.header.length + avbFooterSize ≤ result.length
      rw [spanBefore, length]
      exact roomBefore
    · change (before ++ avb.tail).length < 2 ^ 64
      rw [spanBefore]
      exact smallBefore
  refine ⟨_, only_of_carrying exact small carried length read ?_ ?_ back⟩
  · intro impossible
    cases impossible
  · intro found same
    cases same
    refine ⟨_, rfl, ?_, ?_, ?_, ?_⟩
    · rw [closesNow.offset, closesNow.length, whole]
      exact closing_header _ _ _ _ _
    · rw [closesNow.offset, closesNow.length, length]
      exact room
    · rw [closesNow.original, stop]
      exact Nat.le_add_right _ _
    · rw [closesNow.offset, closes.offset, stop, stopBefore, whole, closing_tail]
      have tailBefore := closing_tail before avb.tail avb.header avb.footer
        (((taken data (some avb)).data.length : Int) - avbFooterSize -
          (before ++ avb.tail ++ avb.header).length)
      rw [← wholeBefore] at tailBefore
      exact tailBefore.symm

/-- Rebuilding an image whose unpatched round trip gives it back changes only its ramdisk. -/
theorem rebuild_only_ramdisk {data ramdisk result : Bytes} {image : BootImage}
    (parsed : bootImage data = .ok image) (roundTrip : rebuild image image.ramdisk = .ok data)
    (small : ramdisk.length < 2 ^ 32) (rebuilt : rebuild image ramdisk = .ok result)
    (free : image.avb = none → ∀ out, payload image ramdisk = .ok out →
      out.length + avbFooterSize ≤ data.length) :
    image.data = data ∧ ∃ after, OnlyRamdisk image after ramdisk result := by
  obtain ⟨rest, exact⟩ := exact_of_roundTrip parsed roundTrip
  obtain ⟨_, _, avb, read, rfl⟩ := bootImage_inv parsed
  constructor
  · rfl
  · cases avb with
    | none => exact rebuilt_plain exact small roundTrip rebuilt (free rfl)
    | some avb => exact rebuilt_sealed read exact small roundTrip rebuilt

/-! ### A smallest image -/

/-- A header page of version 3 without blocks. -/
def bareHead : Bytes :=
  (bootMagic ++ List.replicate 32 0 ++ [3, 0, 0, 0]) ++ List.replicate 4052 0

def bareImage : Bytes := bareHead ++ List.replicate 8192 0

theorem bareHead_word {offset : Nat} (within : offset + 4 ≤ 44) : word bareHead offset =
    word (bootMagic ++ List.replicate 32 0 ++ [3, 0, 0, 0]) offset := by
  rw [word, bareHead, part_left within, word]

theorem bareHead_describes : Describes bareHead [] [] [] := by
  constructor
  · rw [bareHead, List.length_append, List.length_replicate]
    rfl
  · constructor
    · rw [bareHead, part_left (by decide)]
      decide
    · rw [bareHead_word (by decide)]
      decide
  · rw [bareHead_word (by decide)]
    decide
  · rw [bareHead_word (by decide)]
    decide
  · rw [signatureWord, bareHead_word (by decide), if_neg (by decide)]
    rfl

theorem bare_form : bareImage = bareHead ++ (blocks [] [] [] ++ List.replicate 8192 0) := rfl

theorem bare_parsed : bootImage bareImage = .ok (taken bareImage none) := by
  apply bootImage_ok
  · exact assembled_headed bareHead_describes _
  · rw [bareImage, List.length_append, bareHead_describes.whole]
    exact Nat.le_add_right _ _
  · exact readAvb_zeros bareHead 8192 _ (by decide)

theorem bare_exact : Exact bareImage (List.replicate 8192 0) (taken bareImage none) := by
  have head : part bareImage 0 pageSize = bareHead := part_of_form rfl bareHead_describes.whole
  have kernel : (taken bareImage none).kernel = [] := assembled_kernel bareHead_describes _ none
  have ramdisk : (taken bareImage none).ramdisk = [] := assembled_ramdisk bareHead_describes _ none
  have signature : (taken bareImage none).signature = [] :=
    assembled_signature bareHead_describes _ none
  constructor
  · rfl
  · rfl
  · rw [head, kernel, ramdisk, signature]
    exact bareHead_describes
  · rw [head, kernel, ramdisk, signature]
    exact bare_form
  · rw [kernel]
    decide
  · rw [ramdisk]
    decide
  · rw [signature]
    intro _
    decide

theorem rebuild_plain {image : BootImage} {ramdisk out : Bytes} (plain : image.avb = none)
    (built : payload image ramdisk = .ok out) (fits : out.length ≤ image.data.length) :
    rebuild image ramdisk = .ok (out ++ zeros ((image.data.length : Int) - out.length)) := by
  rw [rebuild, built]
  simp only [bind, Except.bind, plain]
  rw [if_neg (Nat.not_lt.mpr fits)]

theorem bare_length : bareImage.length = 12288 := by
  rw [bareImage, List.length_append, bareHead_describes.whole, List.length_replicate]
  rfl

/-- The bare image around a ramdisk of one byte. -/
def barePayload : Bytes := sized 3 bareHead 0 1 0 ++ blocks [] [1] []

theorem barePayload_length : barePayload.length = 8192 := by
  rw [barePayload, List.length_append, sized_length bareHead_describes.whole, blocks_length]
  rfl

theorem bare_payload : payload (taken bareImage none) [1] = .ok barePayload := by
  have head : part bareImage 0 pageSize = bareHead := part_of_form rfl bareHead_describes.whole
  have version : word bareHead 40 = 3 := by
    rw [bareHead_word (by decide)]
    decide
  have kernel : (taken bareImage none).kernel = [] := assembled_kernel bareHead_describes _ none
  have signature : (taken bareImage none).signature = [] :=
    assembled_signature bareHead_describes _ none
  rw [exact_payload bare_exact (by decide), head, version, kernel, signature]
  rfl

theorem bare_roundTrip :
    rebuild (taken bareImage none) (taken bareImage none).ramdisk = .ok bareImage := by
  have head : part bareImage 0 pageSize = bareHead := part_of_form rfl bareHead_describes.whole
  have kernel : (taken bareImage none).kernel = [] := assembled_kernel bareHead_describes _ none
  have ramdisk : (taken bareImage none).ramdisk = [] := assembled_ramdisk bareHead_describes _ none
  have signature : (taken bareImage none).signature = [] :=
    assembled_signature bareHead_describes _ none
  have own := exact_payload_own bare_exact
  rw [head, kernel, ramdisk, signature] at own
  have same : (taken bareImage none).data.length = 12288 := bare_length
  have front : (bareHead ++ blocks [] [] []).length = 4096 := by
    rw [List.length_append, bareHead_describes.whole]
    rfl
  rw [ramdisk, rebuild_plain rfl own (by rw [front, same]; decide), same, front]
  exact congrArg Except.ok (List.append_assoc _ _ _)

theorem rebuild_only_ramdisk_bare : ∃ after, OnlyRamdisk (taken bareImage none) after [1]
    (barePayload ++ zeros ((bareImage.length : Int) - barePayload.length)) := by
  have fits : barePayload.length ≤ bareImage.length := by
    rw [barePayload_length, bare_length]
    decide
  have rebuilt := rebuild_plain rfl bare_payload fits
  have free : ∀ out, payload (taken bareImage none) [1] = .ok out →
      out.length + avbFooterSize ≤ bareImage.length := by
    intro out built
    rw [bare_payload] at built
    cases built
    rw [barePayload_length, bare_length]
    decide
  exact (rebuild_only_ramdisk bare_parsed bare_roundTrip (by decide) rebuilt (fun _ => free)).2

end Liuqin.Boot
