/-
Reading an archive back: one step for each member, then the whole walk.
-/

import Liuqin.Boot.Archive

namespace Liuqin.Boot

open Library Library.Bytes

/-! ### The fields of a header -/

/-- What eight characters hold, a sign among them. -/
def Held (field : Int) : Prop := -268435456 < field ∧ field < 4294967296

/-- A member that an archive can carry, whoever wrote it. -/
structure Carried (name : Name) (entry : CpioEntry) : Prop where
  notDot : name ≠ ['.']
  notDots : name ≠ ['.', '.']
  notTrailer : name ≠ trailer
  unended : (encode name).getLast? ≠ some 0
  mode : Held entry.mode
  uid : Held entry.uid
  gid : Held entry.gid
  rdevMajor : Held entry.rdevMajor
  rdevMinor : Held entry.rdevMinor
  data : entry.data.length < 4294967296

theorem word_held {field : Int} (word : Word field) : Held field := by
  have lower := word.1
  constructor
  · omega
  · exact word.2

theorem carried_of_fitting {name : Name} {entry : CpioEntry} (proper : Proper name)
    (fitting : Fitting entry) : Carried name entry where
  notDot := proper.notDot
  notDots := proper.notDots
  notTrailer := proper.notTrailer
  unended := fun ended => encode_nonzero proper.nulFree (List.mem_of_getLast? ended)
  mode := word_held fitting.mode
  uid := word_held fitting.uid
  gid := word_held fitting.gid
  rdevMajor := word_held fitting.rdevMajor
  rdevMinor := word_held fitting.rdevMinor
  data := fitting.data

theorem number_held {value : Nat} (bound : value < 4294967296) : Held value := by
  constructor <;> omega

theorem hexField_held {field : Int} (held : Held field) :
    (hexField field).length = 8 ∧ readInt (hexField field) = some field := by
  by_cases negative : field < 0
  · have bound : field.natAbs < 16 ^ (6 + 1) := by
      have lower := held.1
      omega
    rw [hexField_negative negative bound]
    constructor
    · rw [List.length_cons, digits_length]
    · rw [readInt_negative, Nat.mod_eq_of_lt bound]
      congr 1
      omega
  · obtain ⟨value, rfl⟩ := Int.eq_ofNat_of_zero_le (by omega : 0 ≤ field)
    have bound : value < 4294967296 := by
      have upper := held.2
      omega
    constructor
    · rw [hexField_small bound, digits_length]
    · exact hexField_read bound

theorem fields_length {fields : List Int} (held : ∀ field ∈ fields, Held field) :
    (fields.flatMap hexField).length = 8 * fields.length := by
  induction fields with
  | nil => rfl
  | cons field rest ih =>
      have first := (hexField_held (held field List.mem_cons_self)).1
      have others := ih (fun other member => held other (List.mem_cons_of_mem _ member))
      rw [List.flatMap_cons, List.length_append, first, others, List.length_cons]
      omega

theorem readFields_held {data : Bytes} {position : Nat} {fields : List Int}
    (held : ∀ field ∈ fields, Held field) (stands : Stands data position (fields.flatMap hexField))
    (more : Nat) :
    readFields data (fields.length + more) position =
      (readFields data more ((position + 8 * fields.length : Nat) : Int)).map
        (fun rest => fields ++ rest) := by
  induction fields generalizing position with
  | nil =>
      rw [List.length_nil, Nat.zero_add, Nat.mul_zero, Nat.add_zero]
      cases readFields data more position with
      | none => rfl
      | some rest => rfl
  | cons field fields ih =>
      obtain ⟨eight, read⟩ := hexField_held (held field List.mem_cons_self)
      rw [List.flatMap_cons] at stands
      have here := slice_stands (stands_left stands)
      have there := stands_right stands
      rw [eight] at here there
      have others := ih (fun other member => held other (List.mem_cons_of_mem _ member)) there
      have count : (field :: fields).length + more = fields.length + more + 1 := by
        rw [List.length_cons]
        omega
      have next : ((position : Nat) : Int) + 8 = ((position + 8 : Nat) : Int) := by omega
      have after : position + 8 + 8 * fields.length = position + 8 * (field :: fields).length := by
        rw [List.length_cons]
        omega
      rw [count, readFields, next, here, read, Option.bind_some, others, after]
      cases readFields data more ((position + 8 * (field :: fields).length : Nat) : Int) with
      | none => rfl
      | some rest => rfl

theorem headerFields_held {inode : Nat} {entry : CpioEntry} {name : Name}
    (small : inode < 4294967296) (carried : Carried name entry)
    (room : name.length + 1 < 4294967296) : ∀ field ∈ headerFields inode entry name, Held field := by
  intro field member
  simp only [headerFields, List.mem_cons, List.not_mem_nil, or_false] at member
  rcases member with rfl | rfl | rfl | rfl | rfl | rfl | rfl | rfl | rfl | rfl | rfl | rfl | rfl
  · exact number_held small
  · exact carried.mode
  · exact carried.uid
  · exact carried.gid
  · exact number_held (by decide : 1 < 4294967296)
  · exact number_held (by decide : 0 < 4294967296)
  · exact number_held carried.data
  · exact number_held (by decide : 0 < 4294967296)
  · exact number_held (by decide : 0 < 4294967296)
  · exact carried.rdevMajor
  · exact carried.rdevMinor
  · exact number_held room
  · exact number_held (by decide : 0 < 4294967296)

theorem header_length {inode : Nat} {entry : CpioEntry} {name : Name}
    (held : ∀ field ∈ headerFields inode entry name, Held field) :
    (header inode entry name).length = 110 := by
  rw [header, List.length_append, fields_length held]
  rfl

/-! ### Names -/

theorem rstrip_unended {raw : Bytes} (unended : raw.getLast? ≠ some 0) :
    rstrip (raw ++ [0]) = raw := by
  rw [rstrip, List.reverse_append, List.reverse_singleton, List.singleton_append,
    List.dropWhile_cons, if_pos (by decide)]
  have kept : raw.reverse.dropWhile (fun byte => decide (byte = 0)) = raw.reverse := by
    cases reversed : raw.reverse with
    | nil => rfl
    | cons byte rest =>
        have different : byte ≠ 0 := by
          intro zero
          apply unended
          rw [← List.head?_reverse, reversed, zero]
          rfl
        rw [List.dropWhile_cons, if_neg (by simp [different])]
  rw [kept, List.reverse_reverse]

theorem rstrip_name {raw : Bytes} (nonzero : (0 : UInt8) ∉ raw) : rstrip (raw ++ [0]) = raw :=
  rstrip_unended (fun ended => nonzero (List.mem_of_getLast? ended))

/-! ### One step -/

/-- A header with a plain name is read as it was written. -/
theorem loadStep_header {data : Bytes} {position inode : Nat} {entry : CpioEntry} {name : Name}
    (entries : Entries) (even : 4 ∣ position)
    (held : ∀ field ∈ headerFields inode entry name, Held field) (ascii : Ascii name)
    (unended : (encode name).getLast? ≠ some 0)
    (stands : Stands data position (dumpHead [] inode entry name)) :
    loadStep data position entries =
      .ok (loadMember data (headerFields inode entry name) name
        ((position + (dumpHead [] inode entry name).length : Nat) : Int) entries) := by
  have bytes := (encode_length_ascii name).mpr ascii
  have total : (dumpHead [] inode entry name).length = aligned (110 + name.length + 1) 4 := by
    rw [dumpHead, padTo_length (by decide), List.nil_append, List.length_append, List.length_append,
      header_length held, bytes]
    rfl
  rw [total]
  rw [dumpHead, padTo, List.nil_append, List.append_assoc] at stands
  have headed := stands_left stands
  have named := stands_left (stands_right stands)
  rw [header_length held] at named
  rw [header] at headed
  have magic : slice data position ((position : Int) + 6) = cpioMagic :=
    slice_stands (stands_left headed)
  have read : readFields data 13 ((position : Int) + 6) = some (headerFields inode entry name) := by
    have fields := readFields_held held (stands_right headed) 0
    rw [readFields, Option.map_some, List.append_nil] at fields
    exact fields
  have nameLen : (headerFields inode entry name).getD 11 0 = ((name.length + 1 : Nat) : Int) := rfl
  have raw : slice data ((position : Int) + 110)
      ((position : Int) + 110 + ((name.length + 1 : Nat) : Int)) = encode name ++ [0] := by
    have whole := slice_stands named
    rw [List.length_append, bytes] at whole
    exact whole
  have ends : ¬ (encode name ++ [0]).getLast? ≠ some 0 := by
    rw [List.getLast?_append]
    simp
  have next : alignTo ((position : Int) + 110 + ((name.length + 1 : Nat) : Int)) 4 =
      ((position + aligned (110 + name.length + 1) 4 : Nat) : Int) := by
    have sum : (position : Int) + 110 + ((name.length + 1 : Nat) : Int) =
        ((position + (110 + name.length + 1) : Nat) : Int) := by
      omega
    rw [sum, alignTo_four, aligned_add (by decide) even]
  rw [loadStep, if_neg (not_not.mpr magic), read]
  simp only [nameLen, raw]
  rw [if_neg ends, rstrip_unended unended, decode_encode]
  simp only [next]

theorem loadStep_member {data : Bytes} {position inode : Nat} {entry : CpioEntry} {name : Name}
    (entries : Entries) (even : 4 ∣ position) (small : inode < 4294967296)
    (carried : Carried name entry) (plain : Plain name)
    (stands : Stands data position (member inode entry name)) :
    loadStep data position entries =
      .ok (some ((position + (member inode entry name).length : Nat) : Int),
        put entries name entry) := by
  rw [member_eq] at stands
  have held := headerFields_held small carried plain.2
  have head := loadStep_header entries even held plain.1 carried.unended
    (stands_left stands)
  have dataStands := stands_right stands
  rw [padTo] at dataStands
  have size : (headerFields inode entry name).getD 6 0 = ((entry.data.length : Nat) : Int) := rfl
  have content := slice_stands (stands_left dataStands)
  have whole : dumpHead [] inode entry name ++ padTo 4 entry.data = member inode entry name :=
    (member_eq _ _ _).symm
  have total : (member inode entry name).length =
      (dumpHead [] inode entry name).length + aligned entry.data.length 4 := by
    rw [← whole, List.length_append, padTo_length (by decide)]
  have evenData : 4 ∣ position + (dumpHead [] inode entry name).length :=
    Nat.dvd_add even (dumpHead_aligned _ _ _ _)
  have next : alignTo (((position + (dumpHead [] inode entry name).length : Nat) : Int) +
      ((entry.data.length : Nat) : Int)) 4 =
        ((position + (member inode entry name).length : Nat) : Int) := by
    rw [← Int.natCast_add, alignTo_four, aligned_add (by decide) evenData, total, Nat.add_assoc]
  have notDots : ¬ (name = ['.'] ∨ name = ['.', '.']) := by
    rintro (dot | dots)
    · exact carried.notDot dot
    · exact carried.notDots dots
  rw [head, loadMember]
  simp only [size, next]
  rw [if_neg notDots, if_neg carried.notTrailer, ← Int.natCast_add, content]
  rfl

theorem loadStep_last {data : Bytes} {position inode : Nat} (entries : Entries)
    (aligned : 4 ∣ position) (small : inode < 4294967296)
    (stands : Stands data position (last inode))
    (ends : data.length = position + (last inode).length) :
    loadStep data position entries = .ok (none, entries) := by
  have held : ∀ field ∈ headerFields inode { mode := 0o755 } trailer, Held field := by
    intro field member
    have parts : headerFields inode { mode := 0o755 } trailer =
        (inode : Int) :: [0o755, 0, 0, 1, 0, 0, 0, 0, 0, 0, 11, 0] := rfl
    rw [parts, List.mem_cons] at member
    rcases member with rfl | member
    · exact number_held small
    · have bounds : ∀ field ∈ [0o755, 0, 0, 1, 0, 0, 0, 0, 0, 0, 11, 0],
          (-268435456 : Int) < field ∧ field < 4294967296 := by
        decide
      exact bounds field member
  have head := loadStep_header entries aligned held (by decide) (by decide) stands
  have nothing : find data cpioMagic ((position + (last inode).length : Nat) : Int) = none := by
    rw [← ends]
    exact find_end data cpioMagic (by decide)
  rw [last] at nothing
  rw [head, loadMember, if_neg (by decide), if_pos rfl, nothing]
  rfl

/-! ### The whole walk -/

theorem loadLoop_step {data : Bytes} {position next : Nat} {entries more : Entries} {fuel : Nat}
    (within : position < data.length)
    (step : loadStep data position entries = .ok (some (next : Int), more)) :
    loadLoop data (fuel + 1) position entries = loadLoop data fuel next more := by
  rw [loadLoop, if_pos (by omega), step]

theorem dumpHead_positive (out : Bytes) (inode : Nat) (entry : CpioEntry) (name : Name) :
    0 < (dumpHead out inode entry name).length := by
  have byte : 0 < (encode name ++ [0]).length := by
    rw [List.length_append, List.length_singleton]
    omega
  have bounds := aligned_bounds (out ++ header inode entry name ++ (encode name ++ [0])).length
    (by decide : 0 < 4)
  rw [dumpHead, padTo_length (by decide)]
  rw [List.length_append] at bounds ⊢
  omega

/-- Members with plain names are read one after another, then the trailer ends the walk. -/
theorem loadLoop_members {data : Bytes} {items : Entries} {position inode : Nat}
    (entries : Entries) (aligned : 4 ∣ position) (small : inode + items.length < 4294967296)
    (carried : ∀ item ∈ items, Carried item.1 item.2) (plain : ∀ item ∈ items, Plain item.1)
    (stands : Stands data position (members inode items ++ last (inode + items.length)))
    (ends : data.length =
      position + (members inode items ++ last (inode + items.length)).length) :
    loadLoop data (items.length + 1) position entries = some (.ok (putAll entries items)) := by
  induction items generalizing position inode entries with
  | nil =>
      rw [members, List.nil_append] at stands ends
      have step := loadStep_last entries aligned small stands ends
      have positive : 0 < (last (inode + ([] : Entries).length)).length :=
        dumpHead_positive _ _ _ _
      rw [List.length_nil, loadLoop, if_pos (by omega), step]
      rfl
  | cons item rest ih =>
      obtain ⟨name, entry⟩ := item
      rw [members, List.append_assoc] at stands ends
      have inodes : inode + ((name, entry) :: rest).length = inode + 1 + rest.length := by
        rw [List.length_cons]
        omega
      rw [inodes] at stands ends small
      have carriedEntry : Carried name entry := carried (name, entry) List.mem_cons_self
      have plainName : Plain name := plain (name, entry) List.mem_cons_self
      have step := loadStep_member entries aligned (by omega) carriedEntry plainName
        (stands_left stands)
      have positive : 0 < (member inode entry name).length := by
        rw [member_eq, List.length_append]
        have head := dumpHead_positive [] inode entry name
        omega
      rw [List.length_append] at ends
      rw [List.length_cons, loadLoop_step (by omega) step]
      apply ih
      · exact Nat.dvd_add aligned (member_aligned _ _ _)
      · exact small
      · intro item later
        exact carried item (List.mem_cons_of_mem _ later)
      · intro item later
        exact plain item (List.mem_cons_of_mem _ later)
      · exact stands_right stands
      · omega

/-! ### Names that are cut short -/

/-- The header's first eleven fields, then the name length and the checksum. -/
theorem header_parts (inode : Nat) (entry : CpioEntry) (name : Name) :
    header inode entry name =
      cpioMagic ++ (((headerFields inode entry name).take 11).flatMap hexField ++
        (hexField ((name.length + 1 : Nat) : Int) ++ hexField 0)) := by
  rw [header, headerFields]
  simp only [List.take_succ_cons, List.take_zero, List.flatMap_cons, List.flatMap_nil,
    List.append_assoc, List.append_nil, Nat.cast_add, Nat.cast_one]

theorem firstFields_held {inode : Nat} {entry : CpioEntry} {name : Name}
    (small : inode < 4294967296) (carried : Carried name entry) :
    ∀ field ∈ (headerFields inode entry name).take 11, Held field := by
  intro field member
  simp only [headerFields, List.take_succ_cons, List.take_zero, List.mem_cons, List.not_mem_nil,
    or_false] at member
  rcases member with rfl | rfl | rfl | rfl | rfl | rfl | rfl | rfl | rfl | rfl | rfl
  · exact number_held small
  · exact carried.mode
  · exact carried.uid
  · exact carried.gid
  · exact number_held (by decide : 1 < 4294967296)
  · exact number_held (by decide : 0 < 4294967296)
  · exact number_held carried.data
  · exact number_held (by decide : 0 < 4294967296)
  · exact number_held (by decide : 0 < 4294967296)
  · exact carried.rdevMajor
  · exact carried.rdevMinor

/-- The length that a reader takes for a name that is not plain falls short of its bytes. -/
theorem nameField_short {name : Name} (notPlain : ¬ Plain name) (back : Bytes) :
    ∃ value : Nat, readInt ((hexField ((name.length + 1 : Nat) : Int) ++ back).take 8) =
      some (value : Int) ∧ value ≤ (encode name).length := by
  have bytes := encode_length_le name
  have long := hexField_length (Int.natCast_nonneg (name.length + 1))
  rw [List.take_append_of_le_length long]
  by_cases room : name.length + 1 < 4294967296
  · have wide : (encode name).length ≠ name.length := by
      intro same
      exact notPlain ⟨(encode_length_ascii name).mp same, room⟩
    have eight : (hexField ((name.length + 1 : Nat) : Int)).length = 8 := by
      rw [hexField_small room, digits_length]
    refine ⟨name.length + 1, ?_, by omega⟩
    rw [List.take_of_length_le (by omega), hexField_read room]
  · have length : ((hexField ((name.length + 1 : Nat) : Int)).take 8).length = 8 := by
      rw [List.length_take]
      omega
    have digit : ∀ byte ∈ (hexField ((name.length + 1 : Nat) : Int)).take 8, Digit byte := by
      intro byte member
      exact hexField_digit (Int.natCast_nonneg _) byte (List.mem_of_mem_take member)
    have nonempty : (hexField ((name.length + 1 : Nat) : Int)).take 8 ≠ [] := by
      intro empty
      rw [empty] at length
      cases length
    obtain ⟨value, read, bound⟩ := readInt_bound digit nonempty
    rw [length] at bound
    exact ⟨value, read, by omega⟩

theorem header_nonzero (inode : Nat) (entry : CpioEntry) (name : Name) :
    (0 : UInt8) ∉ header inode entry name := by
  rw [header]
  intro member
  rcases List.mem_append.mp member with magic | member
  · revert magic
    decide
  · obtain ⟨value, _, byte⟩ := List.mem_flatMap.mp member
    exact hexField_nonzero value byte

/-- The header of such a member, as a reader takes it. -/
theorem readFields_cut {data : Bytes} {position inode : Nat} {entry : CpioEntry} {name : Name}
    (small : inode < 4294967296) (carried : Carried name entry) (notPlain : ¬ Plain name)
    (stands : Stands data position (header inode entry name)) (fields : List Int)
    (read : readFields data 13 ((position : Int) + 6) = some fields) :
    ∃ value : Nat, fields.getD 11 0 = (value : Int) ∧ value ≤ (encode name).length := by
  rw [header_parts] at stands
  have held := firstFields_held small carried
  have behind := stands_right stands
  have split : readFields data 13 ((position : Int) + 6) =
      (readFields data 2 ((position + 94 : Nat) : Int)).map
        (fun rest => (headerFields inode entry name).take 11 ++ rest) :=
    readFields_held held (stands_left behind) 2
  have lengthAt : Stands data (position + 94)
      (hexField ((name.length + 1 : Nat) : Int) ++ hexField 0) := by
    have after := stands_right behind
    rw [fields_length held] at after
    exact after
  have eight : 8 ≤ (hexField ((name.length + 1 : Nat) : Int) ++ hexField 0).length := by
    have long := hexField_length (Int.natCast_nonneg (name.length + 1))
    rw [List.length_append]
    omega
  have sliced : slice data ((position + 94 : Nat) : Int) (((position + 94 : Nat) : Int) + 8) =
      (hexField ((name.length + 1 : Nat) : Int) ++ hexField 0).take 8 :=
    slice_within lengthAt eight
  obtain ⟨value, number, short⟩ := nameField_short notPlain (hexField 0)
  have last : readFields data 2 ((position + 94 : Nat) : Int) =
      (readFields data 1 (((position + 94 : Nat) : Int) + 8)).map
        (fun rest => (value : Int) :: rest) := by
    rw [readFields, sliced, number, Option.bind_some]
  rw [split, last] at read
  cases rest : readFields data 1 (((position + 94 : Nat) : Int) + 8) with
  | none =>
      rw [rest] at read
      cases read
  | some others =>
      rw [rest] at read
      cases read
      exact ⟨value, rfl, short⟩

/-- A reader stops with an error at a member whose name is not plain. -/
theorem loadStep_cut {data : Bytes} {position inode : Nat} {entry : CpioEntry} {name : Name}
    (entries : Entries) (small : inode < 4294967296) (carried : Carried name entry)
    (nulFree : ∀ char ∈ name, char.val.toNat ≠ 0) (notPlain : ¬ Plain name)
    (stands : Stands data position (member inode entry name)) :
    ∃ failure, loadStep data position entries = .error failure := by
  have named : Stands data position (header inode entry name ++ encode name) := by
    rw [member_eq, dumpHead, padTo, List.nil_append, ← List.append_assoc (header _ _ _)] at stands
    exact stands_left (stands_left (stands_left stands))
  have headed := stands_left named
  have magic : slice data position ((position : Int) + 6) = cpioMagic := by
    rw [header_parts] at headed
    exact slice_stands (stands_left headed)
  rw [loadStep, if_neg (not_not.mpr magic)]
  cases read : readFields data 13 ((position : Int) + 6) with
  | none => exact ⟨.value, rfl⟩
  | some fields =>
      obtain ⟨value, nameLen, short⟩ :=
        readFields_cut small carried notPlain headed fields read
      -- the slice ends inside the name, and no byte up to there is NUL
      have long : 110 ≤ (header inode entry name).length := by
        have first := hexField_length (Int.natCast_nonneg (name.length + 1))
        have width := fields_length (firstFields_held small carried)
        rw [header_parts, List.length_append, List.length_append, List.length_append, width]
        have count : ((headerFields inode entry name).take 11).length = 11 := rfl
        have check : 8 ≤ (hexField 0).length := hexField_length (Int.le_refl 0)
        have start : cpioMagic.length = 6 := rfl
        omega
      have behind : Stands data (position + 110)
          ((header inode entry name).drop 110 ++ encode name) := by
        have parts := named
        rw [← List.take_append_drop 110 (header inode entry name), List.append_assoc] at parts
        have after := stands_right parts
        rw [List.length_take, Nat.min_eq_left long] at after
        exact after
      have raw : slice data ((position : Int) + 110) ((position : Int) + 110 + (value : Int)) =
          ((header inode entry name).drop 110 ++ encode name).take value := by
        apply slice_within behind
        rw [List.length_append]
        omega
      have unended : (((header inode entry name).drop 110 ++ encode name).take value).getLast? ≠
          some 0 := by
        intro ended
        have member := List.mem_of_mem_take (List.mem_of_getLast? ended)
        rcases List.mem_append.mp member with inHeader | inName
        · exact header_nonzero inode entry name (List.mem_of_mem_drop inHeader)
        · exact encode_nonzero nulFree inName
      simp only [nameLen, raw]
      rw [if_pos unended]
      exact ⟨_, rfl⟩

/-- A walk that comes to a name that is not plain never ends well. -/
theorem loadLoop_cut {data : Bytes} {items : Entries} {position inode : Nat}
    (entries : Entries) (aligned : 4 ∣ position) (small : inode + items.length < 4294967296)
    (carried : ∀ item ∈ items, Carried item.1 item.2)
    (sane : ∀ item ∈ items, Plain item.1 ∨ ∀ char ∈ item.1, char.val.toNat ≠ 0)
    (cut : ∃ item ∈ items, ¬ Plain item.1) (stands : Stands data position (members inode items))
    (fuel : Nat) (loaded : Entries) : loadLoop data fuel position entries ≠ some (.ok loaded) := by
  induction items generalizing position inode entries fuel with
  | nil =>
      obtain ⟨item, member, _⟩ := cut
      cases member
  | cons item rest ih =>
      obtain ⟨name, entry⟩ := item
      have carriedEntry : Carried name entry := carried (name, entry) List.mem_cons_self
      rw [List.length_cons] at small
      rw [members] at stands
      cases fuel with
      | zero =>
          intro ended
          cases ended
      | succ fuel =>
          have within : position < data.length := by
            have bound := (stands_left stands).length_le
            have positive : 0 < (member inode entry name).length := by
              rw [member_eq, List.length_append]
              have head := dumpHead_positive [] inode entry name
              omega
            rw [List.length_drop] at bound
            omega
          by_cases plainName : Plain name
          · have step := loadStep_member entries aligned (by omega) carriedEntry plainName
              (stands_left stands)
            rw [loadLoop_step within step]
            apply ih
            · exact Nat.dvd_add aligned (member_aligned _ _ _)
            · show inode + 1 + rest.length < 4294967296
              omega
            · intro item later
              exact carried item (List.mem_cons_of_mem _ later)
            · intro item later
              exact sane item (List.mem_cons_of_mem _ later)
            · obtain ⟨item, member, notPlain⟩ := cut
              rcases List.mem_cons.mp member with here | later
              · rw [here] at notPlain
                exact absurd plainName notPlain
              · exact ⟨item, later, notPlain⟩
            · exact stands_right stands
          · have nulFree : ∀ char ∈ name, char.val.toNat ≠ 0 := by
              rcases sane (name, entry) List.mem_cons_self with isPlain | free
              · exact absurd isPlain plainName
              · exact free
            obtain ⟨failure, step⟩ := loadStep_cut entries (by omega) carriedEntry nulFree
              plainName (stands_left stands)
            rw [loadLoop, if_pos (by omega), step]
            intro ended
            cases ended

end Liuqin.Boot
