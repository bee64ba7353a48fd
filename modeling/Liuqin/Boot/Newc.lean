/-
A newc archive as any writer may leave it, and a reader that sees only its front.

A member's header fields are eight characters each, whatever their case; the name
is followed by NUL, name and data by padding.  A reader of a prefix of the
archive stops with an error only when the prefix ends inside a header or a name.
-/

import Liuqin.Boot.ReadBack

namespace Liuqin.Boot

open Library Library.Bytes

/-! ### Members -/

/-- A header field: eight characters that read as a number. -/
structure Field where
  text : Bytes
  value : Nat
  width : text.length = 8
  read : readInt text = some (value : Int)

structure Member where
  fields : List Field
  name : Name
  data : Bytes
  thirteen : fields.length = 13
  nameSize : (fields.map Field.value).getD 11 0 = (encode name).length + 1
  fileSize : (fields.map Field.value).getD 6 0 = data.length
  nulFree : (0 : UInt8) ∉ encode name
  /-- These are directories, which have no data. -/
  dots : name = ['.'] ∨ name = ['.', '.'] → data = []

/-- Header and name. -/
def Member.head (member : Member) : Bytes :=
  cpioMagic ++ (member.fields.flatMap Field.text ++ (encode member.name ++ [0]))

def Member.bytes (member : Member) : Bytes := padTo 4 member.head ++ padTo 4 member.data

/-- What a reader takes the fields for. -/
def Member.values (member : Member) : List Int := member.fields.map (fun field => (field.value : Int))

structure Newc where
  members : List Member
  last : Member
  named : ∀ member ∈ members, member.name ≠ trailer
  ends : last.name = trailer
  empty : last.data = []
  /-- Zero bytes behind the trailer. -/
  padding : Nat

def Newc.items (archive : Newc) : List Member := archive.members ++ [archive.last]

def Newc.bytes (archive : Newc) : Bytes :=
  archive.items.flatMap Member.bytes ++ List.replicate archive.padding 0

/-- Everything up to the end of the trailer's name. -/
def Newc.content (archive : Newc) : Nat :=
  (archive.members.flatMap Member.bytes).length + archive.last.head.length

/-- The cut is behind the first byte of a header and before the end of its name. -/
def CutsHead (items : List Member) (cut : Nat) : Prop :=
  ∃ front member back, items = front ++ member :: back ∧
    (front.flatMap Member.bytes).length < cut ∧
    cut < (front.flatMap Member.bytes).length + member.head.length

theorem fields_width {fields : List Field} :
    (fields.flatMap Field.text).length = 8 * fields.length := by
  induction fields with
  | nil => rfl
  | cons field rest ih =>
      rw [List.flatMap_cons, List.length_append, field.width, ih, List.length_cons]
      omega

theorem Member.head_length (member : Member) :
    member.head.length = 110 + ((encode member.name).length + 1) := by
  have start : cpioMagic.length = 6 := rfl
  rw [Member.head, List.length_append, List.length_append, fields_width, member.thirteen,
    List.length_append, List.length_singleton]
  omega

theorem Member.bytes_length (member : Member) :
    member.bytes.length = aligned member.head.length 4 + aligned member.data.length 4 := by
  rw [Member.bytes, List.length_append, padTo_length (by decide), padTo_length (by decide)]

theorem Member.bytes_aligned (member : Member) : 4 ∣ member.bytes.length := by
  rw [member.bytes_length]
  exact Nat.dvd_add (aligned_dvd _ _) (aligned_dvd _ _)

theorem Member.head_within (member : Member) : member.head.length ≤ member.bytes.length := by
  have bounds := aligned_bounds member.head.length (by decide : 0 < 4)
  rw [member.bytes_length]
  omega

theorem Member.value_at (member : Member) (index : Nat) :
    member.values.getD index 0 = (((member.fields.map Field.value).getD index 0 : Nat) : Int) := by
  rw [Member.values]
  have mapped : member.fields.map (fun field => (field.value : Int)) =
      (member.fields.map Field.value).map (fun value : Nat => (value : Int)) := by
    rw [List.map_map]
    rfl
  rw [mapped, List.getD_eq_getElem?_getD, List.getElem?_map, List.getD_eq_getElem?_getD]
  cases (member.fields.map Field.value)[index]? with
  | none => rfl
  | some value => rfl

theorem cutsHead_cons {member : Member} {rest : List Member} {cut : Nat} :
    CutsHead (member :: rest) cut ↔
      (0 < cut ∧ cut < member.head.length) ∨
        (member.bytes.length ≤ cut ∧ CutsHead rest (cut - member.bytes.length)) := by
  constructor
  · rintro ⟨front, found, back, same, after, before⟩
    cases front with
    | nil =>
        injection same with first
        rw [first]
        rw [List.flatMap_nil, List.length_nil] at after before
        left
        omega
    | cons first front =>
        rw [List.cons_append] at same
        injection same with first later
        rw [List.flatMap_cons, List.length_append, ← first] at after before
        right
        refine ⟨by omega, front, found, back, later, ?_, ?_⟩
        · omega
        · omega
  · rintro (⟨after, before⟩ | ⟨past, front, found, back, same, after, before⟩)
    · refine ⟨[], member, rest, rfl, ?_, ?_⟩
      · exact after
      · rw [List.flatMap_nil, List.length_nil]
        omega
    · refine ⟨member :: front, found, back, ?_, ?_, ?_⟩
      · rw [same]
        rfl
      · rw [List.flatMap_cons, List.length_append]
        omega
      · rw [List.flatMap_cons, List.length_append]
        omega

/-! ### Reading the fields -/

theorem readFields_texts {data : Bytes} {position : Nat} {fields : List Field}
    (stands : Stands data position (fields.flatMap Field.text)) (more : Nat) :
    readFields data (fields.length + more) position =
      (readFields data more ((position + 8 * fields.length : Nat) : Int)).map
        (fun rest => fields.map (fun field => (field.value : Int)) ++ rest) := by
  induction fields generalizing position with
  | nil =>
      rw [List.length_nil, Nat.zero_add, Nat.mul_zero, Nat.add_zero]
      cases readFields data more position with
      | none => rfl
      | some rest => rfl
  | cons field fields ih =>
      rw [List.flatMap_cons] at stands
      have here := slice_stands (stands_left stands)
      have there := stands_right stands
      rw [field.width] at here there
      have count : (field :: fields).length + more = fields.length + more + 1 := by
        rw [List.length_cons]
        omega
      have next : ((position : Nat) : Int) + 8 = ((position + 8 : Nat) : Int) := by omega
      have after : position + 8 + 8 * fields.length = position + 8 * (field :: fields).length := by
        rw [List.length_cons]
        omega
      rw [count, readFields, next, here, field.read, Option.bind_some, ih there, after]
      cases readFields data more ((position + 8 * (field :: fields).length : Nat) : Int) with
      | none => rfl
      | some rest => rfl

/-- A last field that the data does not reach has no digits. -/
theorem readFields_short {data : Bytes} {offset count : Nat}
    (short : data.length ≤ offset + 8 * count) : readFields data (count + 1) offset = none := by
  have next : ((offset : Nat) : Int) + 8 = ((offset + 8 : Nat) : Int) := by omega
  rw [readFields, next]
  induction count generalizing offset with
  | zero =>
      have nothing : slice data offset ((offset + 8 : Nat) : Int) = [] := by
        rw [slice_nat]
        apply List.drop_eq_nil_of_le
        rw [List.length_take]
        omega
      rw [nothing]
      rfl
  | succ count ih =>
      have later : readFields data (count + 1) ((offset + 8 : Nat) : Int) = none := by
        have following : (((offset + 8 : Nat) : Int)) + 8 = ((offset + 8 + 8 : Nat) : Int) := by omega
        rw [readFields, following]
        apply ih
        · omega
        · exact following
      rw [later]
      cases readInt (slice data offset ((offset + 8 : Nat) : Int)) with
      | none => rfl
      | some field => rfl

end Liuqin.Boot
