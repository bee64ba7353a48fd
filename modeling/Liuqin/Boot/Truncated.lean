/-
A ramdisk that was cut short (patch-android-boot-ksu.py, decompress and Cpio.load).

The walk over the archive has no trailer to wait for: it is over where the data is,
and a member's data is whatever the slice finds.  So a cut is noticed in a header
or a name and nowhere else, and the blocks of an lz4-legacy stream are taken up to
the last whole one.
-/

import Liuqin.Boot.Decompress
import Liuqin.Boot.Newc

namespace Liuqin.Boot

open Library Library.Bytes

/-! ### One step past a prefix -/

theorem slice_behind (front seen : Bytes) (start stop : Nat) :
    slice (front ++ seen) ((front.length + start : Nat) : Int)
      ((front.length + stop : Nat) : Int) = (seen.take stop).drop start := by
  rw [slice_nat, List.take_append, List.take_of_length_le (by omega),
    Nat.add_sub_cancel_left, List.drop_append, List.drop_eq_nil_of_le (by omega),
    Nat.add_sub_cancel_left, List.nil_append]

theorem stands_behind {front seen : Bytes} {text : Bytes} (start : text <+: seen) :
    Stands (front ++ seen) front.length text := by
  rw [Stands, List.drop_left]
  exact start

theorem Member.last_byte (member : Member) :
    ¬(encode member.name ++ [0]).getLast? ≠ some 0 := by
  rw [List.getLast?_append]
  simp

/-- A header and a name in full are read as they stand. -/
theorem loadStep_head {front seen : Bytes} {member : Member} (entries : Entries)
    (whole : member.head <+: seen) :
    loadStep (front ++ seen) front.length entries =
      .ok (loadMember (front ++ seen) member.values member.name
        (alignTo ((front.length + member.head.length : Nat) : Int) 4) entries) := by
  have stands : Stands (front ++ seen) front.length member.head := stands_behind whole
  rw [Member.head] at stands
  have magic : slice (front ++ seen) front.length ((front.length : Int) + 6) = cpioMagic :=
    slice_stands (stands_left stands)
  have behind := stands_right stands
  have read : readFields (front ++ seen) 13 ((front.length : Int) + 6) = some member.values := by
    have fields := readFields_texts (stands_left behind) 0
    rw [member.thirteen, readFields, Option.map_some, List.append_nil] at fields
    exact fields
  have named := stands_right behind
  rw [fields_width, member.thirteen] at named
  have raw : slice (front ++ seen) ((front.length : Int) + 110)
      ((front.length : Int) + 110 + (((encode member.name).length + 1 : Nat) : Int)) =
        encode member.name ++ [0] := by
    have found := slice_stands named
    rw [List.length_append, List.length_singleton] at found
    exact found
  have next : (front.length : Int) + 110 + (((encode member.name).length + 1 : Nat) : Int) =
      ((front.length + member.head.length : Nat) : Int) := by
    rw [member.head_length]
    omega
  rw [loadStep, if_neg (not_not.mpr magic), read]
  simp only [member.value_at, member.nameSize, raw]
  rw [if_neg member.last_byte, rstrip_name member.nulFree, decode_encode]
  simp only [next]

theorem Member.head_drop (member : Member) : member.head.drop 110 = encode member.name ++ [0] := by
  have width : (cpioMagic ++ member.fields.flatMap Field.text).length = 110 := by
    rw [List.length_append, fields_width, member.thirteen]
    rfl
  rw [Member.head, ← List.append_assoc]
  exact List.drop_left' width

/-- Twelve fields are there when the cut is in the thirteenth or behind it. -/
theorem Member.torn_nameSize (member : Member) {front : Bytes} {cut : Nat} (late : 102 ≤ cut)
    {fields : List Int}
    (read : readFields (front ++ member.head.take cut) 13 ((front.length : Int) + 6) =
      some fields) :
    fields.getD 11 0 = (((encode member.name).length + 1 : Nat) : Int) := by
  have twelve : (member.fields.take 12).length = 12 := by
    rw [List.length_take, member.thirteen]
    rfl
  have split : member.head = (cpioMagic ++ (member.fields.take 12).flatMap Field.text) ++
      ((member.fields.drop 12).flatMap Field.text ++ (encode member.name ++ [0])) := by
    rw [Member.head]
    conv_lhs => rw [← List.take_append_drop 12 member.fields]
    rw [List.flatMap_append]
    simp only [List.append_assoc]
  have width : (cpioMagic ++ (member.fields.take 12).flatMap Field.text).length = 102 := by
    rw [List.length_append, fields_width, twelve]
    rfl
  have front_part : cpioMagic ++ (member.fields.take 12).flatMap Field.text <+:
      member.head.take cut := by
    apply List.prefix_take_iff.mpr
    constructor
    · rw [split]
      exact List.prefix_append _ _
    · omega
  have stands : Stands (front ++ member.head.take cut) front.length
      (cpioMagic ++ (member.fields.take 12).flatMap Field.text) := stands_behind front_part
  have behind := stands_right stands
  have texts := readFields_texts behind 1
  rw [twelve] at texts
  have thirteen : readFields (front ++ member.head.take cut) 13 ((front.length : Int) + 6) =
      (readFields (front ++ member.head.take cut) 1
        ((front.length + cpioMagic.length + 8 * 12 : Nat) : Int)).map
          (fun rest => (member.fields.take 12).map (fun field => (field.value : Int)) ++ rest) :=
    texts
  rw [thirteen] at read
  cases last : readFields (front ++ member.head.take cut) 1
      ((front.length + cpioMagic.length + 8 * 12 : Nat) : Int) with
  | none =>
      rw [last] at read
      cases read
  | some rest =>
      rw [last] at read
      injection read with same
      have taken : (member.fields.take 12).map (fun field => (field.value : Int)) =
          member.values.take 12 := by
        rw [Member.values, List.map_take]
      have inside : 11 < (member.values.take 12).length := by
        rw [← taken, List.length_map, twelve]
        decide
      rw [← same, taken, List.getD_eq_getElem?_getD, List.getElem?_append_left inside,
        List.getElem?_take_of_lt (by decide), ← List.getD_eq_getElem?_getD, member.value_at,
        member.nameSize]

/-- The name as far as it goes. -/
theorem Member.torn_name (member : Member) (front : Bytes) {cut : Nat}
    (before : cut < member.head.length) :
    slice (front ++ member.head.take cut) ((front.length : Int) + 110)
      ((front.length : Int) + 110 + (((encode member.name).length + 1 : Nat) : Int)) =
        (encode member.name).take (cut - 110) := by
  have found := slice_behind front (member.head.take cut) 110
    (110 + ((encode member.name).length + 1))
  have stop : ((front.length + (110 + ((encode member.name).length + 1)) : Nat) : Int) =
      (front.length : Int) + 110 + (((encode member.name).length + 1 : Nat) : Int) := by
    omega
  have length := member.head_length
  rw [stop] at found
  rw [List.take_take, Nat.min_eq_right (by omega), List.drop_take, member.head_drop,
    List.take_append_of_le_length (by omega)] at found
  exact found

/-- A header or a name that the data ends in is refused. -/
theorem loadStep_torn {front : Bytes} {member : Member} (entries : Entries) {cut : Nat}
    (before : cut < member.head.length) :
    ∃ failure, loadStep (front ++ member.head.take cut) front.length entries =
      .error failure := by
  have start : slice (front ++ member.head.take cut) front.length ((front.length : Int) + 6) =
      (member.head.take cut).take 6 := slice_behind front (member.head.take cut) 0 6
  have words : member.head.take 6 = cpioMagic := rfl
  by_cases magic : (member.head.take cut).take 6 = cpioMagic
  · have six : 6 ≤ cut := by
      have length := congrArg List.length magic
      rw [List.length_take, List.length_take] at length
      have magicLength : cpioMagic.length = 6 := rfl
      omega
    have total : (front ++ member.head.take cut).length = front.length + cut := by
      rw [List.length_append, List.length_take, Nat.min_eq_left (by omega)]
    rw [loadStep, if_neg (not_not.mpr (start.trans magic))]
    by_cases early : cut ≤ 102
    · have fields : readFields (front ++ member.head.take cut) 13 ((front.length : Int) + 6) =
          none := by
        have short : (front ++ member.head.take cut).length ≤ (front.length + 6) + 8 * 12 := by
          rw [total]
          omega
        exact readFields_short short
      rw [fields]
      exact ⟨_, rfl⟩
    · cases read : readFields (front ++ member.head.take cut) 13 ((front.length : Int) + 6) with
      | none => exact ⟨_, rfl⟩
      | some fields =>
          have nameLen := member.torn_nameSize (by omega) read
          have raw := member.torn_name front (by omega : cut < member.head.length)
          have unended : ((encode member.name).take (cut - 110)).getLast? ≠ some 0 := by
            intro ended
            exact member.nulFree (List.mem_of_mem_take (List.mem_of_getLast? ended))
          simp only [nameLen, raw]
          rw [if_pos unended]
          exact ⟨_, rfl⟩
  · rw [loadStep, if_pos]
    · exact ⟨_, rfl⟩
    · rw [start]
      exact magic

/-- Behind a member that is not the trailer the walk goes on at the next one. -/
theorem loadMember_next (data : Bytes) (entries : Entries) {member : Member} {position : Nat}
    (even : 4 ∣ position) (named : member.name ≠ trailer) :
    ∃ more, loadMember data member.values member.name
        (alignTo ((position + member.head.length : Nat) : Int) 4) entries =
      (some ((position + member.bytes.length : Nat) : Int), more) := by
  have headed : alignTo ((position + member.head.length : Nat) : Int) 4 =
      ((position + aligned member.head.length 4 : Nat) : Int) := by
    rw [alignTo_four, aligned_add (by decide) even]
  rw [headed, loadMember, member.bytes_length]
  by_cases dots : member.name = ['.'] ∨ member.name = ['.', '.']
  · rw [if_pos dots, member.dots dots]
    exact ⟨entries, rfl⟩
  · rw [if_neg dots, if_neg named]
    have evenData : 4 ∣ position + aligned member.head.length 4 :=
      Nat.dvd_add even (aligned_dvd _ _)
    have size : member.values.getD 6 0 = ((member.data.length : Nat) : Int) := by
      rw [member.value_at, member.fileSize]
    have next : alignTo (((position + aligned member.head.length 4 : Nat) : Int) +
        ((member.data.length : Nat) : Int)) 4 =
          ((position + (aligned member.head.length 4 + aligned member.data.length 4) : Nat) : Int) := by
      rw [← Int.natCast_add, alignTo_four, aligned_add (by decide) evenData, Nat.add_assoc]
    simp only [size, next]
    exact ⟨_, rfl⟩

/-! ### The walk past a prefix -/

theorem loadLoop_over {data : Bytes} {offset : Nat} (entries : Entries)
    (past : data.length ≤ offset) : loadLoop data 1 offset entries = some (.ok entries) := by
  rw [loadLoop, if_neg (by omega)]

theorem loadLoop_torn {front : Bytes} {member : Member} (entries : Entries) {cut : Nat}
    (after : 0 < cut) (before : cut < member.head.length) :
    ∃ failure, loadLoop (front ++ member.head.take cut) 1 front.length entries =
      some (.error failure) := by
  obtain ⟨failure, step⟩ := loadStep_torn entries before
  have within : (front.length : Int) < ((front ++ member.head.take cut).length : Int) := by
    rw [List.length_append, List.length_take]
    omega
  refine ⟨failure, ?_⟩
  rw [loadLoop, if_pos within, step]

theorem take_head {member : Member} {rest : Bytes} {cut : Nat}
    (before : cut ≤ member.head.length) :
    (member.bytes ++ rest).take cut = member.head.take cut := by
  rw [Member.bytes, padTo, List.append_assoc, List.append_assoc,
    List.take_append_of_le_length before]

/-- The walk past a prefix that lacks a part of the trailer at least: it ends in
an error when the prefix ends in a header or a name, and well otherwise. -/
theorem walk_cut {members : List Member} {last : Member}
    (named : ∀ member ∈ members, member.name ≠ trailer) {front : Bytes} (entries : Entries)
    {cut : Nat} (even : 4 ∣ front.length)
    (short : cut < (members.flatMap Member.bytes).length + last.head.length) :
    ∃ fuel result, loadLoop (front ++ ((members ++ [last]).flatMap Member.bytes).take cut) fuel
        front.length entries = some result ∧
      (CutsHead (members ++ [last]) cut ↔ ∃ failure, result = .error failure) := by
  induction members generalizing front entries cut with
  | nil =>
      rw [List.flatMap_nil, List.length_nil, Nat.zero_add] at short
      have taken : (([] ++ [last]).flatMap Member.bytes).take cut = last.head.take cut := by
        rw [List.nil_append, List.flatMap_singleton, ← List.append_nil last.bytes]
        exact take_head (by omega)
      rw [taken, List.nil_append, cutsHead_cons]
      by_cases nothing : cut = 0
      · subst nothing
        refine ⟨1, .ok entries, ?_, ?_⟩
        · apply loadLoop_over
          rw [List.take_zero, List.append_nil]
        · constructor
          · rintro (⟨positive, _⟩ | ⟨_, found, member, back, same, _⟩)
            · omega
            · exact absurd same (by simp)
          · rintro ⟨failure, impossible⟩
            cases impossible
      · obtain ⟨failure, torn⟩ := loadLoop_torn entries (by omega : 0 < cut) short
        refine ⟨1, .error failure, torn, ?_⟩
        constructor
        · intro _
          exact ⟨failure, rfl⟩
        · intro _
          exact Or.inl ⟨by omega, short⟩
  | cons member members ih =>
      have namedHere := named member List.mem_cons_self
      have later := fun other inside => named other (List.mem_cons_of_mem member inside)
      have within := member.head_within
      have positive : 0 < member.head.length := by
        rw [member.head_length]
        omega
      rw [List.flatMap_cons, List.length_append] at short
      rw [List.cons_append, List.flatMap_cons, cutsHead_cons]
      by_cases nothing : cut = 0
      · subst nothing
        refine ⟨1, .ok entries, ?_, ?_⟩
        · apply loadLoop_over
          rw [List.take_zero, List.append_nil]
        · constructor
          · rintro (⟨_, _⟩ | ⟨_, _⟩) <;> omega
          · rintro ⟨failure, impossible⟩
            cases impossible
      by_cases torn : cut < member.head.length
      · obtain ⟨failure, refused⟩ := loadLoop_torn entries (by omega : 0 < cut) torn
        refine ⟨1, .error failure, ?_, ?_⟩
        · rw [take_head (by omega)]
          exact refused
        · constructor
          · intro _
            exact ⟨failure, rfl⟩
          · intro _
            exact Or.inl ⟨by omega, torn⟩
      · have whole : member.head <+: (member.bytes ++
            ((members ++ [last]).flatMap Member.bytes)).take cut := by
          apply List.prefix_take_iff.mpr
          constructor
          · rw [Member.bytes, padTo, List.append_assoc, List.append_assoc]
            exact List.prefix_append _ _
          · omega
        have step : loadStep (front ++ (member.bytes ++
            ((members ++ [last]).flatMap Member.bytes)).take cut) front.length entries = _ :=
          loadStep_head entries whole
        obtain ⟨more, next⟩ := loadMember_next (front ++ (member.bytes ++
          ((members ++ [last]).flatMap Member.bytes)).take cut) entries even namedHere
        rw [next] at step
        have inside : front.length < (front ++ (member.bytes ++
            ((members ++ [last]).flatMap Member.bytes)).take cut).length := by
          have reach := whole.length_le
          rw [List.length_append]
          omega
        by_cases past : member.bytes.length ≤ cut
        · have split : (member.bytes ++ ((members ++ [last]).flatMap Member.bytes)).take cut =
              member.bytes ++ ((members ++ [last]).flatMap Member.bytes).take
                (cut - member.bytes.length) := by
            rw [List.take_append, List.take_of_length_le past]
          have evenNext : 4 ∣ (front ++ member.bytes).length := by
            rw [List.length_append]
            exact Nat.dvd_add even member.bytes_aligned
          have room : cut - member.bytes.length <
              (members.flatMap Member.bytes).length + last.head.length := by
            omega
          obtain ⟨fuel, result, ended, judged⟩ := ih later more evenNext room
          refine ⟨fuel + 1, result, ?_, ?_⟩
          · rw [loadLoop_step inside step, split, ← List.append_assoc, ← List.length_append]
            exact ended
          · rw [← judged]
            constructor
            · rintro (⟨_, _⟩ | ⟨_, cuts⟩)
              · omega
              · exact cuts
            · intro cuts
              exact Or.inr ⟨past, cuts⟩
        · refine ⟨2, .ok more, ?_, ?_⟩
          · rw [loadLoop_step inside step]
            apply loadLoop_over
            rw [List.length_append, List.length_take]
            omega
          · constructor
            · rintro (⟨_, _⟩ | ⟨_, _⟩) <;> omega
            · rintro ⟨failure, impossible⟩
              cases impossible

/-! ### A ramdisk cut short -/

theorem loadLoop_more {data : Bytes} {fuel : Nat} {offset : Int} {entries : Entries}
    {result : Except Failure Entries} (ended : loadLoop data fuel offset entries = some result)
    (more : Nat) : loadLoop data (fuel + more) offset entries = some result := by
  induction fuel generalizing offset entries with
  | zero => cases ended
  | succ fuel ih =>
      rw [Nat.add_right_comm]
      rw [loadLoop] at ended ⊢
      by_cases within : offset < data.length
      · rw [if_pos within] at ended ⊢
        cases step : loadStep data offset entries with
        | error failure =>
            rw [step] at ended
            exact ended
        | ok outcome =>
            obtain ⟨next, later⟩ := outcome
            rw [step] at ended
            cases next with
            | none => exact ended
            | some next => exact ih ended
      · rw [if_neg within] at ended ⊢
        exact ended

theorem loads_unique {data : Bytes} {one other : Except Failure Entries} (first : Loads data one)
    (second : Loads data other) : one = other := by
  obtain ⟨fuel, ended⟩ := first
  obtain ⟨more, endedToo⟩ := second
  have left := loadLoop_more ended more
  have right := loadLoop_more endedToo fuel
  rw [Nat.add_comm, left] at right
  injection right

theorem Newc.content_within (archive : Newc) :
    archive.content ≤ (archive.items.flatMap Member.bytes).length := by
  have within := archive.last.head_within
  rw [Newc.content, Newc.items, List.flatMap_append, List.flatMap_singleton, List.length_append]
  omega

/-- A front of the archive that lacks more than padding. -/
theorem Newc.load_cut (archive : Newc) {cut : Nat} (short : cut < archive.content) :
    ∃ result, Loads (archive.bytes.take cut) result ∧
      (CutsHead archive.items cut ↔ ∃ failure, result = .error failure) := by
  have within := archive.content_within
  have taken : archive.bytes.take cut = (archive.items.flatMap Member.bytes).take cut := by
    rw [Newc.bytes, List.take_append_of_le_length (by omega)]
  have even : 4 ∣ ([] : Bytes).length := Nat.dvd_zero 4
  obtain ⟨fuel, result, ended, judged⟩ := walk_cut archive.named [] even short
  refine ⟨result, ⟨fuel, ?_⟩, judged⟩
  rw [taken]
  exact ended

theorem Newc.load_refused (archive : Newc) {cut : Nat} (short : cut < archive.content) :
    (∃ failure, Loads (archive.bytes.take cut) (.error failure)) ↔
      CutsHead archive.items cut := by
  obtain ⟨result, loads, judged⟩ := archive.load_cut short
  rw [judged]
  constructor
  · rintro ⟨failure, refused⟩
    exact ⟨failure, loads_unique loads refused⟩
  · rintro ⟨failure, same⟩
    rw [same] at loads
    exact ⟨failure, loads⟩

section Stream

variable {codecs : Codecs}

theorem decompress_cut (blocks : List (Block codecs)) (cut : Nat) :
    lz4Loop codecs ((Stream.lz4Legacy blocks).bytes.take cut) lz4LegacyMagic.length [] =
      .ok ((wholeBlocks blocks (cut - lz4LegacyMagic.length)).flatMap Block.chunk) := by
  have magicLength : lz4LegacyMagic.length = 4 := rfl
  rw [Stream.bytes, List.take_append]
  by_cases there : lz4LegacyMagic.length ≤ cut
  · rw [List.take_of_length_le there]
    exact lz4Loop_cut blocks lz4LegacyMagic [] _
  · have none : wholeBlocks blocks 0 = [] := by
      cases blocks with
      | nil => rfl
      | cons block rest =>
          rw [wholeBlocks, if_neg]
          have length := block.bytes_length
          omega
    have nothing : cut - lz4LegacyMagic.length = 0 := by omega
    rw [nothing, none, List.take_zero, List.append_nil, List.flatMap_nil]
    apply lz4Loop_over
    rw [List.length_take]
    omega

/-- What survives is a front of the archive. -/
theorem survived_front {archive : Newc} {blocks : List (Block codecs)}
    (holds : (Stream.lz4Legacy blocks).plain = archive.bytes) (cut : Nat) :
    (wholeBlocks blocks cut).flatMap Block.chunk =
      archive.bytes.take ((wholeBlocks blocks cut).flatMap Block.chunk).length := by
  obtain ⟨rest, split⟩ := wholeBlocks_prefix blocks cut
  have form : (wholeBlocks blocks cut).flatMap Block.chunk ++ rest.flatMap Block.chunk =
      archive.bytes := by
    rw [← List.flatMap_append, split]
    exact holds
  rw [← form, List.take_left]

/-- More than zeros behind the trailer is gone. -/
def Loses (archive : Newc) : Option Bytes → Prop
  | none => True
  | some seen => seen.length < archive.content

/-- Nothing is left, or what is left ends in a header or a name. -/
def Noticed (archive : Newc) : Option Bytes → Prop
  | none => True
  | some seen => seen = [] ∨ CutsHead archive.items seen.length

def Refused (codecs : Codecs) (data : Bytes) (format : Format) : Prop :=
  ∃ raised, Unpacks codecs data format (.error raised)

theorem gzip_refused {stream : Gzip codecs} {cut : Nat} (short : cut < stream.data.length) :
    Refused codecs (stream.data.take cut) .gzip := by
  refine ⟨.library, .packed ?_⟩
  rw [decompress, stream.truncated cut short]

theorem lz4_refused {archive : Newc} {blocks : List (Block codecs)}
    (holds : (Stream.lz4Legacy blocks).plain = archive.bytes) {cut : Nat} {seen : Bytes}
    (left : (Stream.lz4Legacy blocks).survived cut = some seen)
    (short : seen.length < archive.content) :
    Refused codecs ((Stream.lz4Legacy blocks).bytes.take cut) .lz4Legacy ↔
      seen = [] ∨ CutsHead archive.items seen.length := by
  injection left with survived
  have loop := decompress_cut blocks cut
  have front := survived_front holds (cut - lz4LegacyMagic.length)
  rw [survived] at loop front
  cases seen with
  | nil =>
      constructor
      · intro _
        exact Or.inl rfl
      · intro _
        refine ⟨.own (.patch "the lz4-legacy ramdisk decompressed to nothing"), .packed ?_⟩
        rw [decompress, loop]
  | cons byte rest =>
      have done : decompress codecs ((Stream.lz4Legacy blocks).bytes.take cut) .lz4Legacy =
          .ok (byte :: rest) := by
        rw [decompress, loop]
      have judged := archive.load_refused short
      rw [← front] at judged
      constructor
      · rintro ⟨raised, unpacked⟩
        right
        apply judged.mp
        cases unpacked with
        | packed failed =>
            rw [done] at failed
            cases failed
        | refused same failed =>
            rw [done] at same
            injection same with same
            rw [← same] at failed
            exact ⟨_, failed⟩
      · rintro (nothing | cuts)
        · cases nothing
        · obtain ⟨failure, failed⟩ := judged.mpr cuts
          exact ⟨.own failure, .refused done failed⟩

end Stream

/-- What a truncated ramdisk meets, as a stream and as an archive. -/
structure TruncatedRefused (codecs : Codecs) (archive : Newc) : Prop where
  plain : ∀ cut < archive.content,
    ((∃ failure, Loads (archive.bytes.take cut) (.error failure)) ↔ CutsHead archive.items cut)
  stream : ∀ stream : Stream codecs, stream.plain = archive.bytes →
    ∀ cut < stream.bytes.length, Loses archive (stream.survived cut) →
      (Refused codecs (stream.bytes.take cut) stream.format ↔
        Noticed archive (stream.survived cut))

theorem truncated_refused (codecs : Codecs) (archive : Newc) :
    TruncatedRefused codecs archive := by
  constructor
  · intro cut short
    exact archive.load_refused short
  · intro stream holds cut short loses
    cases stream with
    | gzip stream =>
        constructor
        · intro _
          exact trivial
        · intro _
          exact gzip_refused short
    | lz4Legacy blocks => exact lz4_refused holds rfl loses

/-! ### A file that lost its second half -/

def Field.number (value : Nat) (bound : value < 4294967296) : Field where
  text := digits 8 value
  value := value
  width := digits_length 8 value
  read := by
    rw [← hexField_small bound]
    exact hexField_read bound

def numbered (values : List Nat) (bound : ∀ value ∈ values, value < 4294967296) : List Field :=
  values.attach.map (fun value => Field.number value.1 (bound value.1 value.2))

def halved : Newc where
  members := [{
    fields := numbered [1, 33188, 0, 0, 1, 0, 4, 0, 0, 0, 0, 2, 0] (by decide)
    name := ['a']
    data := [1, 2, 3, 4]
    thirteen := rfl
    nameSize := rfl
    fileSize := rfl
    nulFree := by decide
    dots := by decide }]
  last := {
    fields := numbered [2, 493, 0, 0, 1, 0, 0, 0, 0, 0, 0, 11, 0] (by decide)
    name := trailer
    data := []
    thirteen := rfl
    nameSize := rfl
    fileSize := rfl
    nulFree := by decide
    dots := by decide }
  named := by decide
  ends := rfl
  empty := rfl
  padding := 0

theorem halved_accepted : 114 < halved.content ∧
    Loads (halved.bytes.take 114) (.ok [(['a'], { mode := 33188, data := [1, 2] })]) := by
  constructor
  · have name : (encode halved.last.name).length = 10 := by decide
    rw [Newc.content, halved.last.head_length, name]
    omega
  · exact ⟨2, by decide +kernel⟩

end Liuqin.Boot
