/-
What marking does to one copy of the table.

The attributes of one entry and the two sums change, and the sums are right
afterwards.  The checks of a header read nothing else, and the search for an
entry reads names and sectors only.
-/

import Liuqin.Slot.Gpt

namespace Liuqin.Slot

open Liuqin.Library Liuqin.Library.Bytes

/-! ### Attributes -/

section Attributes

variable (attributes : Attributes)

theorem successful_bit (index : Nat) : successfulBit.getLsbD index = decide (index = 54) := by
  have same : successfulBit = BitVec.twoPow 64 54 := rfl
  rw [same, BitVec.getLsbD_twoPow]
  simp only [eq_comm]
  rfl

theorem unbootable_bit (index : Nat) : unbootableBit.getLsbD index = decide (index = 55) := by
  have same : unbootableBit = BitVec.twoPow 64 55 := rfl
  rw [same, BitVec.getLsbD_twoPow]
  simp only [eq_comm]
  rfl

/-- Bit 54 is set, bit 55 is cleared, and no other bit changes. -/
theorem marked_bits (index : Nat) :
    (marked attributes).getLsbD index =
      if index = 54 then true else if index = 55 then false else attributes.getLsbD index := by
  rw [marked, BitVec.getLsbD_and, BitVec.getLsbD_or, BitVec.getLsbD_not, successful_bit,
    unbootable_bit]
  by_cases set : index = 54
  · subst set
    simp
  · by_cases cleared : index = 55
    · subst cleared
      simp
    · by_cases inside : index < 64
      · simp [set, cleared, inside]
      · have outside : attributes.getLsbD index = false := BitVec.getLsbD_of_ge _ _ (by omega)
        simp [set, cleared, inside, outside]

theorem has_successful : (attributes &&& successfulBit != 0#64) = attributes.getLsbD 54 := by
  have same : successfulBit = BitVec.twoPow 64 54 := rfl
  rw [same, BitVec.and_twoPow]
  cases attributes.getLsbD 54 <;> rfl

/-- A mask without the two bits sees no difference. -/
theorem marked_mask (mask : Attributes) (set : mask.getLsbD 54 = false)
    (cleared : mask.getLsbD 55 = false) : marked attributes &&& mask = attributes &&& mask := by
  apply BitVec.eq_of_getLsbD_eq
  intro index _
  rw [BitVec.getLsbD_and, BitVec.getLsbD_and, marked_bits]
  split
  · rename_i same
    rw [same, set, Bool.and_false, Bool.and_false]
  · split
    · rename_i same
      rw [same, cleared, Bool.and_false, Bool.and_false]
    · rfl

theorem chosen_marked (looks : chosen attributes = true) : chosen (marked attributes) = true := by
  rw [chosen, Bool.and_eq_true, Bool.and_eq_true] at looks ⊢
  rw [marked_mask attributes priorityMask rfl rfl,
    marked_mask attributes activeBit rfl rfl]
  constructor
  · exact looks.1
  · rw [has_successful, marked_bits, if_pos rfl, Bool.or_true]

end Attributes

/-! ### Numbers -/

theorem le32_part {one other : Bytes} {offset : Nat}
    (same : part one offset (offset + 4) = part other offset (offset + 4)) :
    le32 one offset = le32 other offset := by
  rw [le32, le32, same]

theorem le64_part {one other : Bytes} {offset : Nat}
    (same : part one offset (offset + 8) = part other offset (offset + 8)) :
    le64 one offset = le64 other offset := by
  rw [le64, le64, same]

theorem crc_bound (data : Bytes) : crc32Bytes data < 256 ^ 4 := by
  have bound := (~~~(data.foldl crcByte (~~~0#32))).isLt
  rw [crc32Bytes]
  exact lt_of_lt_of_le bound (by decide)

theorem le32_put {data : Bytes} {offset value : Nat} (within : offset + 4 ≤ data.length)
    (fits : value < 256 ^ 4) : le32 (putLe32 data offset value) offset = value := by
  have room : offset + (little 4 value).length ≤ data.length := by
    rw [little_length]
    exact within
  have stands := part_overwrite room
  rw [little_length] at stands
  rw [le32, putLe32, stands, fromLittle_little fits]

theorem le64_put {data : Bytes} {offset value : Nat} (within : offset + 8 ≤ data.length)
    (fits : value < 256 ^ 8) : le64 (putLe64 data offset value) offset = value := by
  have room : offset + (little 8 value).length ≤ data.length := by
    rw [little_length]
    exact within
  have stands := part_overwrite room
  rw [little_length] at stands
  rw [le64, putLe64, stands, fromLittle_little fits]

theorem putLe32_length {data : Bytes} {offset : Nat} (within : offset + 4 ≤ data.length)
    (value : Nat) : (putLe32 data offset value).length = data.length := by
  apply overwrite_length
  rw [little_length]
  exact within

theorem putLe64_length {data : Bytes} {offset : Nat} (within : offset + 8 ≤ data.length)
    (value : Nat) : (putLe64 data offset value).length = data.length := by
  apply overwrite_length
  rw [little_length]
  exact within

theorem putLe32_part {data : Bytes} {offset : Nat} (within : offset + 4 ≤ data.length)
    (value : Nat) {start stop : Nat} (apart : stop ≤ offset ∨ offset + 4 ≤ start) :
    part (putLe32 data offset value) start stop = part data start stop := by
  have room : offset + (little 4 value).length ≤ data.length := by
    rw [little_length]
    exact within
  rcases apart with before | after
  · exact part_overwrite_before room before
  · apply part_overwrite_after room
    rw [little_length]
    exact after

theorem putLe64_part {data : Bytes} {offset : Nat} (within : offset + 8 ≤ data.length)
    (value : Nat) {start stop : Nat} (apart : stop ≤ offset ∨ offset + 8 ≤ start) :
    part (putLe64 data offset value) start stop = part data start stop := by
  have room : offset + (little 8 value).length ≤ data.length := by
    rw [little_length]
    exact within
  rcases apart with before | after
  · exact part_overwrite_before room before
  · apply part_overwrite_after room
    rw [little_length]
    exact after

theorem putLe32_twice {data : Bytes} {offset : Nat} (within : offset + 4 ≤ data.length)
    (first second : Nat) :
    putLe32 (putLe32 data offset first) offset second = putLe32 data offset second := by
  apply overwrite_twice
  · rw [little_length, little_length]
  · rw [little_length]
    exact within

theorem putLe32_comm {data : Bytes} {offset place : Nat} (within : offset + 4 ≤ data.length)
    (room : place + 4 ≤ data.length) (apart : offset + 4 ≤ place ∨ place + 4 ≤ offset)
    (first second : Nat) :
    putLe32 (putLe32 data offset first) place second =
      putLe32 (putLe32 data place second) offset first := by
  apply overwrite_comm
  · rw [little_length]
    exact within
  · rw [little_length]
    exact room
  · rw [little_length, little_length]
    exact apart

/-! ### Headers -/

structure GptCopy.Whole (copy : GptCopy) : Prop where
  header : copy.header.length = sectorSize
  entries : copy.entries.length = entriesBytes

section Refresh

variable {copy : GptCopy}

/-- The sums apart, two headers are the same. -/
def SameHeader (one other : Bytes) : Prop :=
  ∀ start stop, stop ≤ 16 ∨ (20 ≤ start ∧ stop ≤ 88) ∨ 92 ≤ start →
    part one start stop = part other start stop

theorem SameHeader.symm {one other : Bytes} (same : SameHeader one other) :
    SameHeader other one :=
  fun start stop apart => (same start stop apart).symm

theorem SameHeader.trans {one other third : Bytes} (first : SameHeader one other)
    (second : SameHeader other third) : SameHeader one third :=
  fun start stop apart => (first start stop apart).trans (second start stop apart)

theorem refresh_lengths (whole : copy.Whole) :
    (putLe32 copy.header 88 (crc32Bytes copy.entries)).length = sectorSize ∧
      (putLe32 (putLe32 copy.header 88 (crc32Bytes copy.entries)) 16 0).length = sectorSize ∧
      (refreshCrcs copy).header.length = sectorSize := by
  have first : (putLe32 copy.header 88 (crc32Bytes copy.entries)).length = sectorSize := by
    rw [putLe32_length (by rw [whole.header]; decide), whole.header]
  have second : (putLe32 (putLe32 copy.header 88 (crc32Bytes copy.entries)) 16 0).length =
      sectorSize := by
    rw [putLe32_length (by rw [first]; decide), first]
  constructor
  · exact first
  · constructor
    · exact second
    · rw [refreshCrcs, putLe32_length (by rw [second]; decide), second]

theorem refresh_whole (whole : copy.Whole) : (refreshCrcs copy).Whole :=
  ⟨(refresh_lengths whole).2.2, whole.entries⟩

theorem refresh_header (whole : copy.Whole) : SameHeader (refreshCrcs copy).header copy.header := by
  intro start stop apart
  obtain ⟨first, second, _⟩ := refresh_lengths whole
  rw [refreshCrcs, putLe32_part (by rw [second]; decide) _ (by omega),
    putLe32_part (by rw [first]; decide) _ (by omega),
    putLe32_part (by rw [whole.header]; decide) _ (by omega)]

theorem refresh_entries_sum (whole : copy.Whole) :
    le32 (refreshCrcs copy).header 88 = crc32Bytes copy.entries := by
  obtain ⟨first, second, _⟩ := refresh_lengths whole
  have outer : part (refreshCrcs copy).header 88 92 =
      part (putLe32 copy.header 88 (crc32Bytes copy.entries)) 88 92 := by
    rw [refreshCrcs, putLe32_part (by rw [second]; decide) _ (by omega),
      putLe32_part (by rw [first]; decide) _ (by omega)]
  rw [le32_part outer]
  exact le32_put (by rw [whole.header]; decide) (crc_bound _)

theorem refresh_header_sum (whole : copy.Whole) :
    headerSum (refreshCrcs copy).header = le32 (refreshCrcs copy).header 16 := by
  obtain ⟨first, second, _⟩ := refresh_lengths whole
  have cleared : putLe32 (refreshCrcs copy).header 16 0 =
      putLe32 (putLe32 copy.header 88 (crc32Bytes copy.entries)) 16 0 := by
    rw [refreshCrcs, putLe32_twice (by rw [second]; decide),
      putLe32_twice (by rw [first]; decide)]
  rw [headerSum, cleared]
  exact (le32_put (by rw [second]; decide) (crc_bound _)).symm

/-- The header with both sums, that of the entries given. -/
def sealedHeader (header : Bytes) (sum : Nat) : Bytes :=
  putLe32 (putLe32 (putLe32 header 88 sum) 16 0) 16
    (crc32Bytes ((putLe32 (putLe32 header 88 sum) 16 0).take headerSize))

theorem refresh_sealed (copy : GptCopy) :
    refreshCrcs copy =
      { copy with header := sealedHeader copy.header (crc32Bytes copy.entries) } := rfl

/-- A header that was sealed for other entries is sealed to the same. -/
theorem sealed_again {header : Bytes} (long : header.length = sectorSize) (one other : Nat) :
    sealedHeader (sealedHeader header one) other = sealedHeader header other := by
  have inside : ∀ {data : Bytes} {offset : Nat}, data.length = sectorSize → offset ≤ 88 →
      offset + 4 ≤ data.length := by
    intro data offset size low
    rw [size, sectorSize]
    omega
  have put : ∀ {data : Bytes} {offset : Nat} (value : Nat), data.length = sectorSize →
      offset ≤ 88 → (putLe32 data offset value).length = sectorSize := by
    intro data offset value size low
    rw [putLe32_length (inside size low), size]
  have first := put one long (Nat.le_refl 88)
  have cleared := put 0 first (by omega : 16 ≤ 88)
  generalize sum : crc32Bytes ((putLe32 (putLe32 header 88 one) 16 0).take headerSize) = value
  have sealedOne : sealedHeader header one = putLe32 (putLe32 header 88 one) 16 value := by
    rw [sealedHeader, sum, putLe32_twice (inside first (by omega))]
  -- the sum of the header is put away before the new sum of the entries
  have moved : putLe32 (putLe32 (sealedHeader header one) 88 other) 16 0 =
      putLe32 (putLe32 header 88 other) 16 0 := by
    rw [sealedOne, putLe32_comm (inside first (by omega)) (inside first (by omega)) (by omega),
      putLe32_twice (inside long (by omega)),
      putLe32_twice (inside (put other long (by omega)) (by omega))]
  rw [sealedHeader, moved]
  rfl

/-- The checks of a header look at nothing but its sum. -/
theorem placed_same {one other : Bytes} (same : SameHeader one other) (diskLbas headerLba : Nat) :
    headerPlaced diskLbas headerLba one = headerPlaced diskLbas headerLba other := by
  have magic := same 0 8 (by omega)
  have size := le32_part (same 12 16 (by omega))
  have own := le64_part (same 24 32 (by omega))
  have alternate := le64_part (same 32 40 (by omega))
  have first := le64_part (same 40 48 (by omega))
  have last := le64_part (same 48 56 (by omega))
  have array := le64_part (same 72 80 (by omega))
  have count := le32_part (same 80 84 (by omega))
  have entry := le32_part (same 84 88 (by omega))
  rw [headerPlaced, headerPlaced, magic, size, own, alternate, first, last, array, count, entry]

theorem accepted_refresh (whole : copy.Whole) {diskLbas headerLba : Nat}
    (placed : headerPlaced diskLbas headerLba copy.header = true) :
    headerAccepted diskLbas headerLba (refreshCrcs copy).header = true := by
  rw [headerAccepted, placed_same (refresh_header whole), placed, refresh_header_sum whole]
  exact beq_self_eq_true _

end Refresh

/-! ### Entries -/

section Entries

variable {copy : GptCopy} {slot : Slot} {own : Nat}

/-- The entries have the same names and sectors. -/
def SameNames (one other : GptCopy) : Prop :=
  ∀ index, index < entryCount →
    part (one.entry index) 32 48 = part (other.entry index) 32 48 ∧
      part (one.entry index) 56 128 = part (other.entry index) 56 128

theorem names_part {one other : Bytes} (same : part one 56 128 = part other 56 128)
    {stop : Nat} (within : stop ≤ 128) : part one 56 stop = part other 56 stop := by
  by_cases low : 56 ≤ stop
  · have first : part (part one 56 128) 0 (stop - 56) = part one 56 stop := by
      rw [part_part one (by omega)]
      congr 1
      omega
    have second : part (part other 56 128) 0 (stop - 56) = part other 56 stop := by
      rw [part_part other (by omega)]
      congr 1
      omega
    rw [← first, ← second, same]
  · rw [part, part, List.drop_eq_nil_of_le, List.drop_eq_nil_of_le]
    · rw [List.length_take]
      omega
    · rw [List.length_take]
      omega

theorem bootName_length (slot : Slot) : (bootName slot).length = 6 := by
  cases slot with
  | a => rfl
  | b => rfl

/-- The search reads names and sectors. -/
theorem findBoot_same {one other : GptCopy} (same : SameNames one other) (slot : Slot) :
    findBoot one slot = findBoot other slot := by
  have names : ∀ index, index < entryCount →
      nameIs (one.entry index) (bootName slot) = nameIs (other.entry index) (bootName slot) := by
    intro index inside
    rw [nameIs, nameIs, bootName_length]
    rw [names_part (same index inside).2 (by omega)]
  have sectors : ∀ index, index < entryCount →
      le64 (one.entry index) 32 = le64 (other.entry index) 32 ∧
        le64 (one.entry index) 40 = le64 (other.entry index) 40 := by
    intro index inside
    have both := (same index inside).1
    constructor
    · apply le64_part
      have inner : ∀ data : Bytes, part (part data 32 48) 0 8 = part data (32 + 0) (32 + 8) :=
        fun data => part_part data (by omega : 32 + 8 ≤ 48)
      rw [Nat.add_zero] at inner
      rw [← inner, ← inner, both]
    · apply le64_part
      have inner : ∀ data : Bytes, part (part data 32 48) 8 16 = part data (32 + 8) (32 + 16) :=
        fun data => part_part data (by omega : 32 + 16 ≤ 48)
      rw [← inner, ← inner, both]
  have filtered : (List.range entryCount).filter
        (fun index => nameIs (one.entry index) (bootName slot)) =
      (List.range entryCount).filter (fun index => nameIs (other.entry index) (bootName slot)) := by
    apply List.filter_congr
    intro index member
    exact names index (List.mem_range.mp member)
  have found : (List.range entryCount).find?
        (fun index => nameIs (one.entry index) (bootName slot)) =
      (List.range entryCount).find? (fun index => nameIs (other.entry index) (bootName slot)) := by
    rw [← List.head?_filter, ← List.head?_filter, filtered]
  rw [findBoot, findBoot, found]
  cases search : (List.range entryCount).find?
      (fun index => nameIs (other.entry index) (bootName slot)) with
  | none => rfl
  | some index =>
      have inside := List.mem_range.mp (List.mem_of_find?_eq_some search)
      obtain ⟨start, stop⟩ := sectors index inside
      rw [Option.filter_some, Option.filter_some, start, stop]

theorem names_entries {one other : GptCopy} (same : one.entries = other.entries) :
    SameNames one other := by
  intro index _
  rw [GptCopy.entry, GptCopy.entry, same]
  exact ⟨rfl, rfl⟩

theorem findBoot_entries {one other : GptCopy} (same : one.entries = other.entries) (slot : Slot) :
    findBoot one slot = findBoot other slot :=
  findBoot_same (names_entries same) slot

theorem findBoot_inside (found : findBoot copy slot = some own) : own < entryCount := by
  rw [findBoot] at found
  cases search : (List.range entryCount).find?
      (fun index => nameIs (copy.entry index) (bootName slot)) with
  | none =>
      rw [search] at found
      cases found
  | some index =>
      rw [search, Option.filter_some] at found
      split at found
      · cases found
        exact List.mem_range.mp (List.mem_of_find?_eq_some search)
      · cases found

theorem attributes_within (long : copy.entries.length = entriesBytes) (inside : own < entryCount) :
    own * entrySize + 48 + 8 ≤ copy.entries.length := by
  rw [long, entriesBytes, entrySize]
  rw [entryCount] at inside ⊢
  omega

theorem setAttributes_length (long : copy.entries.length = entriesBytes) (inside : own < entryCount)
    (attributes : Attributes) :
    (copy.setAttributes own attributes).entries.length = entriesBytes := by
  rw [GptCopy.setAttributes, putLe64_length (attributes_within long inside), long]

theorem attributes_set (long : copy.entries.length = entriesBytes) (inside : own < entryCount)
    (attributes : Attributes) :
    (copy.setAttributes own attributes).attributes own = attributes := by
  have fits : attributes.toNat < 256 ^ 8 := lt_of_lt_of_le attributes.isLt (by decide)
  rw [GptCopy.attributes, GptCopy.setAttributes, le64_put (attributes_within long inside) fits,
    BitVec.ofNat_toNat, BitVec.setWidth_eq]

/-- Outside the attributes of its own entry the array stays as it is. -/
theorem setAttributes_part (long : copy.entries.length = entriesBytes) (inside : own < entryCount)
    (attributes : Attributes) {start stop : Nat}
    (apart : stop ≤ own * entrySize + 48 ∨ own * entrySize + 56 ≤ start) :
    part (copy.setAttributes own attributes).entries start stop = part copy.entries start stop := by
  apply putLe64_part (attributes_within long inside)
  omega

theorem setAttributes_names (long : copy.entries.length = entriesBytes) (inside : own < entryCount)
    (attributes : Attributes) : SameNames (copy.setAttributes own attributes) copy := by
  intro index _
  have apart : ∀ start stop, stop ≤ 128 → stop ≤ 48 ∨ 56 ≤ start →
      part ((copy.setAttributes own attributes).entry index) start stop =
        part (copy.entry index) start stop := by
    intro start stop low sides
    rw [GptCopy.entry, GptCopy.entry, part_part _ (by rw [entrySize]; omega),
      part_part _ (by rw [entrySize]; omega)]
    apply setAttributes_part long inside
    rw [entrySize]
    rcases Nat.lt_trichotomy index own with before | same | after
    · left
      omega
    · subst same
      omega
    · right
      omega
  constructor
  · exact apart 32 48 (by omega) (by omega)
  · exact apart 56 128 (by omega) (by omega)

end Entries

end Liuqin.Slot
