/-
Byte strings and the operations a script has on them.

A slice clamps its bounds and counts a negative one from the end.  Numbers are
read and written in base sixteen, text is UTF-8.
-/

import Mathlib.Data.List.Basic
import Mathlib.Data.List.Infix
import Mathlib.Tactic.IntervalCases

namespace Liuqin.Library

abbrev Bytes := List UInt8

namespace Bytes

/-! ### Slices -/

/-- A bound of a slice as a position. -/
def clamp (length : Nat) (bound : Int) : Nat :=
  if bound < 0 then (bound + length).toNat else min bound.toNat length

/-- `data[start:stop]` -/
def slice (data : Bytes) (start stop : Int) : Bytes :=
  (data.take (clamp data.length stop)).drop (clamp data.length start)

/-- The first position from `position` on at which `wanted` begins. -/
def findFrom (wanted : Bytes) : Nat → Bytes → Option Nat
  | position, [] => if wanted = [] then some position else none
  | position, byte :: rest =>
      if wanted.isPrefixOf (byte :: rest) then some position
      else findFrom wanted (position + 1) rest

/-- `data.find(wanted, start)` -/
def find (data wanted : Bytes) (start : Int) : Option Nat :=
  findFrom wanted (clamp data.length start) (data.drop (clamp data.length start))

theorem clamp_nat (length bound : Nat) : clamp length bound = min bound length := by
  rw [clamp, if_neg (by omega), Int.toNat_natCast]

theorem slice_nat (data : Bytes) (start stop : Nat) :
    slice data start stop = (data.take stop).drop start := by
  rw [slice, clamp_nat, clamp_nat]
  apply List.ext_getElem?
  intro index
  rw [List.getElem?_drop, List.getElem?_drop, List.getElem?_take, List.getElem?_take]
  by_cases within : start + index < data.length
  · rw [Nat.min_eq_left (by omega : start ≤ data.length)]
    by_cases early : start + index < stop
    · rw [if_pos (by omega), if_pos early]
    · rw [if_neg (by omega), if_neg early]
  · have beyond : data[start + index]? = none := List.getElem?_eq_none (by omega)
    rw [beyond, ite_self, if_neg (by omega)]

theorem slice_length (data : Bytes) (start stop : Int) :
    (slice data start stop).length ≤ data.length := by
  rw [slice, List.length_drop, List.length_take]
  omega

theorem slice_length_le (data : Bytes) (start : Int) (count : Nat) :
    (slice data start (start + count)).length ≤ count := by
  rw [slice, List.length_drop, List.length_take]
  unfold clamp
  by_cases front : start < 0
  · rw [if_pos front]
    split <;> omega
  · rw [if_neg front, if_neg (by omega : ¬start + count < 0)]
    omega

/-- The text stands in the data at the position. -/
def Stands (data : Bytes) (position : Nat) (text : Bytes) : Prop :=
  text <+: data.drop position

theorem stands_here (front text back : Bytes) :
    Stands (front ++ (text ++ back)) front.length text := by
  rw [Stands, List.drop_left]
  exact List.prefix_append text back

theorem stands_left {data : Bytes} {position : Nat} {one other : Bytes}
    (stands : Stands data position (one ++ other)) : Stands data position one :=
  (List.prefix_append one other).trans stands

theorem stands_right {data : Bytes} {position : Nat} {one other : Bytes}
    (stands : Stands data position (one ++ other)) :
    Stands data (position + one.length) other := by
  obtain ⟨back, whole⟩ := stands
  rw [List.append_assoc] at whole
  rw [Stands, ← List.drop_drop, ← whole, List.drop_left]
  exact List.prefix_append other back

theorem slice_stands {data : Bytes} {position : Nat} {text : Bytes}
    (stands : Stands data position text) :
    slice data position (position + text.length : Nat) = text := by
  obtain ⟨back, whole⟩ := stands
  rw [slice_nat, List.drop_take, Nat.add_sub_cancel_left, ← whole, List.take_left]

/-- What a slice reads of a longer text. -/
theorem slice_within {data : Bytes} {position : Nat} {text : Bytes}
    (stands : Stands data position text) {length : Nat} (within : length ≤ text.length) :
    slice data position (position + length : Nat) = text.take length := by
  obtain ⟨back, whole⟩ := stands
  rw [slice_nat, List.drop_take, Nat.add_sub_cancel_left, ← whole,
    List.take_append_of_le_length within]

theorem find_end (data wanted : Bytes) (nonempty : wanted ≠ []) :
    find data wanted (data.length : Nat) = none := by
  rw [find, clamp_nat, Nat.min_self, List.drop_length, findFrom, if_neg nonempty]

/-! ### Alignment -/

/-- The smallest multiple of the alignment that is not below the value. -/
def alignTo (value alignment : Int) : Int := (value + alignment - 1) / alignment * alignment

/-- The same for lengths. -/
def aligned (length alignment : Nat) : Nat := (length + alignment - 1) / alignment * alignment

theorem alignTo_nat (value : Nat) {alignment : Nat} (positive : 0 < alignment) :
    alignTo value alignment = (aligned value alignment : Nat) := by
  have sum : (value : Int) + alignment - 1 = ((value + alignment - 1 : Nat) : Int) := by omega
  rw [alignTo, aligned, sum]
  push_cast
  rfl

theorem alignTo_four (value : Nat) : alignTo value 4 = (aligned value 4 : Nat) :=
  alignTo_nat value (by decide)

theorem aligned_dvd (value alignment : Nat) : alignment ∣ aligned value alignment :=
  Nat.dvd_mul_left alignment _

theorem aligned_bounds (value : Nat) {alignment : Nat} (positive : 0 < alignment) :
    value ≤ aligned value alignment ∧ aligned value alignment < value + alignment := by
  have parts := Nat.div_add_mod (value + alignment - 1) alignment
  have rest := Nat.mod_lt (value + alignment - 1) positive
  rw [Nat.mul_comm] at parts
  rw [aligned]
  omega

theorem aligned_self {value alignment : Nat} (positive : 0 < alignment)
    (even : alignment ∣ value) : aligned value alignment = value := by
  obtain ⟨count, rfl⟩ := even
  rw [aligned, Nat.add_sub_assoc positive, Nat.mul_add_div positive,
    Nat.div_eq_of_lt (by omega), Nat.add_zero, Nat.mul_comm]

theorem aligned_add {front alignment : Nat} (positive : 0 < alignment)
    (even : alignment ∣ front) (value : Nat) :
    aligned (front + value) alignment = front + aligned value alignment := by
  obtain ⟨count, rfl⟩ := even
  have sum : alignment * count + value + alignment - 1 =
      alignment * count + (value + alignment - 1) := by omega
  rw [aligned, aligned, sum, Nat.mul_add_div positive, Nat.add_mul, Nat.mul_comm count]

def zeros (count : Int) : Bytes := List.replicate count.toNat 0

/-- Zero bytes up to the next multiple, as `bytes(align_to(len(out), n) - len(out))` adds them. -/
def padTo (alignment : Nat) (out : Bytes) : Bytes :=
  out ++ zeros (alignTo out.length alignment - out.length)

section Padding

variable {alignment : Nat} (positive : 0 < alignment)

include positive

theorem padTo_length (out : Bytes) :
    (padTo alignment out).length = aligned out.length alignment := by
  have bounds := aligned_bounds out.length positive
  rw [padTo, List.length_append, zeros, List.length_replicate, alignTo_nat _ positive]
  omega

theorem padTo_dvd (out : Bytes) : alignment ∣ (padTo alignment out).length := by
  rw [padTo_length positive]
  exact aligned_dvd _ _

theorem padTo_self {out : Bytes} (even : alignment ∣ out.length) : padTo alignment out = out := by
  rw [padTo, alignTo_nat _ positive, aligned_self positive even, Int.sub_self]
  exact List.append_nil out

theorem padTo_append {front : Bytes} (even : alignment ∣ front.length) (out : Bytes) :
    padTo alignment (front ++ out) = front ++ padTo alignment out := by
  have same : alignTo (front ++ out).length alignment - (front ++ out).length =
      alignTo out.length alignment - out.length := by
    rw [List.length_append, alignTo_nat _ positive, alignTo_nat _ positive,
      aligned_add positive even]
    omega
  rw [padTo, padTo, same, List.append_assoc]

end Padding

/-! ### Numbers in base sixteen -/

def digitByte (digit : Nat) : UInt8 :=
  if digit < 10 then UInt8.ofNat (48 + digit) else UInt8.ofNat (87 + digit)

def digitValue (byte : UInt8) : Option Nat :=
  if 48 ≤ byte.toNat ∧ byte.toNat ≤ 57 then some (byte.toNat - 48)
  else if 65 ≤ byte.toNat ∧ byte.toNat ≤ 70 then some (byte.toNat - 55)
  else if 97 ≤ byte.toNat ∧ byte.toNat ≤ 102 then some (byte.toNat - 87)
  else none

/-- The last `width` digits of a value, most significant first. -/
def digits : Nat → Nat → Bytes
  | 0, _ => []
  | width + 1, value => digits width (value / 16) ++ [digitByte (value % 16)]

/-- All digits of a value, but at least `width` of them. -/
def digitsAtLeast (width value : Nat) : Bytes :=
  if value < 16 ^ width then digits width value
  else digitsAtLeast width (value / 16) ++ [digitByte (value % 16)]
  termination_by value
  decreasing_by
    have positive : 0 < 16 ^ width := Nat.pow_pos (by omega)
    omega

/-- `b'%08x' % value` -/
def hexField (value : Int) : Bytes :=
  if value < 0 then 45 :: digitsAtLeast 7 value.natAbs else digitsAtLeast 8 value.toNat

def isSpace (byte : UInt8) : Bool := byte = 32 ∨ (9 ≤ byte ∧ byte ≤ 13)

def strip (text : Bytes) : Bytes :=
  ((text.dropWhile isSpace).reverse.dropWhile isSpace).reverse

/-- Digits with single underscores between them; `after` says that a digit came last. -/
def readDigits : Bool → Nat → Bytes → Option Nat
  | after, value, [] => if after then some value else none
  | after, value, byte :: rest =>
      if byte = 95 then (if after then readDigits false value rest else none)
      else (digitValue byte).bind (fun digit => readDigits true (16 * value + digit) rest)

/-- What follows a sign: the base prefix may stand there, with one underscore behind it. -/
def readUnsigned : Bytes → Option Nat
  | 48 :: 120 :: 95 :: rest => readDigits false 0 rest
  | 48 :: 88 :: 95 :: rest => readDigits false 0 rest
  | 48 :: 120 :: rest => readDigits false 0 rest
  | 48 :: 88 :: rest => readDigits false 0 rest
  | text => readDigits false 0 text

/-- `int(text, 16)` -/
def readInt (text : Bytes) : Option Int :=
  match strip text with
  | 45 :: rest => (readUnsigned rest).map (fun value => -(value : Int))
  | 43 :: rest => (readUnsigned rest).map (fun value => (value : Int))
  | rest => (readUnsigned rest).map (fun value => (value : Int))

/-! ### Reading back what was written -/

/-- The bytes that a number is written with. -/
def Digit (byte : UInt8) : Prop := ∃ digit, digit < 16 ∧ byte = digitByte digit

theorem digit_value {digit : Nat} (bound : digit < 16) :
    digitValue (digitByte digit) = some digit := by
  interval_cases digit <;> rfl

/-- A digit is no sign, space, underscore or base letter. -/
theorem digit_plain {byte : UInt8} (digit : Digit byte) :
    isSpace byte = false ∧ byte ≠ 95 ∧ byte ≠ 45 ∧ byte ≠ 43 ∧ byte ≠ 120 ∧ byte ≠ 88 ∧
      byte ≠ 0 := by
  obtain ⟨value, bound, rfl⟩ := digit
  interval_cases value <;> decide

theorem digits_length (width value : Nat) : (digits width value).length = width := by
  induction width generalizing value with
  | zero => rfl
  | succ width ih => rw [digits, List.length_append, ih, List.length_singleton]

theorem digits_digit (width value : Nat) : ∀ byte ∈ digits width value, Digit byte := by
  induction width generalizing value with
  | zero =>
      intro byte member
      cases member
  | succ width ih =>
      intro byte member
      rcases List.mem_append.mp member with early | last
      · exact ih (value / 16) byte early
      · rw [List.mem_singleton.mp last]
        exact ⟨value % 16, Nat.mod_lt _ (by decide), rfl⟩

theorem digitsAtLeast_digit (width value : Nat) :
    ∀ byte ∈ digitsAtLeast width value, Digit byte := by
  induction value using Nat.strongRecOn with
  | ind value ih =>
      intro byte member
      rw [digitsAtLeast] at member
      by_cases small : value < 16 ^ width
      · rw [if_pos small] at member
        exact digits_digit width value byte member
      · rw [if_neg small] at member
        have positive : 0 < 16 ^ width := Nat.pow_pos (by omega)
        rcases List.mem_append.mp member with early | last
        · exact ih (value / 16) (by omega) byte early
        · rw [List.mem_singleton.mp last]
          exact ⟨value % 16, Nat.mod_lt _ (by decide), rfl⟩

theorem digitsAtLeast_length (width value : Nat) :
    width ≤ (digitsAtLeast width value).length := by
  induction value using Nat.strongRecOn with
  | ind value ih =>
      rw [digitsAtLeast]
      by_cases small : value < 16 ^ width
      · rw [if_pos small, digits_length]
      · have positive : 0 < 16 ^ width := Nat.pow_pos (by omega)
        have fewer := ih (value / 16) (by omega)
        rw [if_neg small, List.length_append]
        omega

theorem hexField_digit {value : Int} (positive : 0 ≤ value) :
    ∀ byte ∈ hexField value, Digit byte := by
  rw [hexField, if_neg (by omega)]
  exact digitsAtLeast_digit 8 value.toNat

theorem hexField_length {value : Int} (positive : 0 ≤ value) : 8 ≤ (hexField value).length := by
  rw [hexField, if_neg (by omega)]
  exact digitsAtLeast_length 8 value.toNat

theorem readDigits_append (width : Nat) (before : Nat) (value : Nat) (rest : Bytes)
    (after : Bool) :
    readDigits after before (digits (width + 1) value ++ rest) =
      readDigits true (before * 16 ^ (width + 1) + value % 16 ^ (width + 1)) rest := by
  have last : ∀ (after : Bool) (before value : Nat) (rest : Bytes),
      readDigits after before (digitByte (value % 16) :: rest) =
        readDigits true (16 * before + value % 16) rest := by
    intro after before value rest
    have bound : value % 16 < 16 := Nat.mod_lt _ (by decide)
    rw [readDigits, if_neg (digit_plain ⟨_, bound, rfl⟩).2.1, digit_value bound, Option.bind_some]
  induction width generalizing before value rest with
  | zero =>
      rw [digits, digits, List.nil_append, List.singleton_append, last, Nat.zero_add, Nat.pow_one]
      congr 1
      omega
  | succ width ih =>
      rw [digits, List.append_assoc, ih, List.singleton_append, last]
      congr 1
      have split : value % 16 ^ (width + 1 + 1) =
          16 * (value / 16 % 16 ^ (width + 1)) + value % 16 := by
        rw [Nat.pow_succ, Nat.mul_comm, Nat.mod_mul]
        omega
      rw [split, Nat.pow_succ 16 (width + 1), ← Nat.mul_assoc]
      omega

theorem dropWhile_plain {text : Bytes} (plain : ∀ byte ∈ text, isSpace byte = false) :
    text.dropWhile isSpace = text := by
  cases text with
  | nil => rfl
  | cons byte rest =>
      rw [List.dropWhile_cons, plain byte List.mem_cons_self]
      rfl

theorem strip_plain {text : Bytes} (plain : ∀ byte ∈ text, isSpace byte = false) :
    strip text = text := by
  have reversed : ∀ byte ∈ text.reverse, isSpace byte = false := by
    intro byte member
    exact plain byte (List.mem_reverse.mp member)
  rw [strip, dropWhile_plain plain, dropWhile_plain reversed, List.reverse_reverse]

theorem readUnsigned_digits {text : Bytes} (plain : ∀ byte ∈ text, Digit byte) :
    readUnsigned text = readDigits false 0 text := by
  have letter : ∀ byte ∈ text, byte ≠ 120 ∧ byte ≠ 88 := by
    intro byte member
    exact ⟨(digit_plain (plain byte member)).2.2.2.2.1, (digit_plain (plain byte member)).2.2.2.2.2.1⟩
  unfold readUnsigned
  split
  · exact absurd rfl (letter 120 (by simp)).1
  · exact absurd rfl (letter 88 (by simp)).2
  · exact absurd rfl (letter 120 (by simp)).1
  · exact absurd rfl (letter 88 (by simp)).2
  · rfl

theorem readInt_plain {text : Bytes} (plain : ∀ byte ∈ text, Digit byte) :
    readInt text = (readDigits false 0 text).map (fun value => (value : Int)) := by
  have stripped : strip text = text := by
    apply strip_plain
    intro byte member
    exact (digit_plain (plain byte member)).1
  unfold readInt
  rw [stripped]
  split
  · exact absurd rfl (digit_plain (plain 45 List.mem_cons_self)).2.2.1
  · exact absurd rfl (digit_plain (plain 43 List.mem_cons_self)).2.2.2.1
  · rw [readUnsigned_digits plain]

theorem readInt_digits (width value : Nat) :
    readInt (digits (width + 1) value) = some ((value % 16 ^ (width + 1) : Nat) : Int) := by
  have read := readDigits_append width 0 value [] false
  rw [List.append_nil, Nat.zero_mul, Nat.zero_add] at read
  rw [readInt_plain (digits_digit (width + 1) value), read]
  rfl

theorem readDigits_bound {text : Bytes} (plain : ∀ byte ∈ text, Digit byte) (before : Nat) :
    ∃ value, readDigits true before text = some value ∧
      value < (before + 1) * 16 ^ text.length := by
  induction text generalizing before with
  | nil =>
      refine ⟨before, rfl, ?_⟩
      rw [List.length_nil, Nat.pow_zero]
      omega
  | cons byte rest ih =>
      obtain ⟨digit, bound, same⟩ := plain byte List.mem_cons_self
      have noUnderscore := (digit_plain (plain byte List.mem_cons_self)).2.1
      obtain ⟨value, read, small⟩ :=
        ih (fun other member => plain other (List.mem_cons_of_mem _ member)) (16 * before + digit)
      refine ⟨value, ?_, ?_⟩
      · rw [readDigits, if_neg noUnderscore, same, digit_value bound, Option.bind_some, read]
      · have grown : (16 * before + digit + 1) * 16 ^ rest.length ≤
            (before + 1) * 16 * 16 ^ rest.length :=
          Nat.mul_le_mul_right _ (by omega)
        rw [List.length_cons, Nat.pow_succ, Nat.mul_comm (16 ^ rest.length), ← Nat.mul_assoc]
        omega

/-- Any run of digits is a number that its length bounds. -/
theorem readInt_bound {text : Bytes} (plain : ∀ byte ∈ text, Digit byte) (nonempty : text ≠ []) :
    ∃ value : Nat, readInt text = some (value : Int) ∧ value < 16 ^ text.length := by
  cases text with
  | nil => exact absurd rfl nonempty
  | cons byte rest =>
      obtain ⟨digit, bound, same⟩ := plain byte List.mem_cons_self
      have noUnderscore := (digit_plain (plain byte List.mem_cons_self)).2.1
      obtain ⟨value, read, small⟩ := readDigits_bound
        (fun other member => plain other (List.mem_cons_of_mem _ member)) (16 * 0 + digit)
      refine ⟨value, ?_, ?_⟩
      · rw [readInt_plain plain, readDigits, if_neg noUnderscore, same, digit_value bound,
          Option.bind_some, read]
        rfl
      · have grown : (16 * 0 + digit + 1) * 16 ^ rest.length ≤ 16 * 16 ^ rest.length :=
          Nat.mul_le_mul_right _ (by omega)
        rw [List.length_cons, Nat.pow_succ, Nat.mul_comm (16 ^ rest.length)]
        omega

/-- A field of a value below 2^32 is its eight digits. -/
theorem hexField_small {value : Nat} (bound : value < 4294967296) :
    hexField value = digits 8 value := by
  have room : value < 16 ^ 8 := bound
  rw [hexField, if_neg (by omega), Int.toNat_natCast, digitsAtLeast, if_pos room]

theorem hexField_read {value : Nat} (bound : value < 4294967296) :
    readInt (hexField value) = some (value : Int) := by
  have room : value < 16 ^ (7 + 1) := bound
  rw [hexField_small bound, readInt_digits, Nat.mod_eq_of_lt room]

theorem hexField_negative {value : Int} (negative : value < 0) (bound : value.natAbs < 16 ^ 7) :
    hexField value = 45 :: digits 7 value.natAbs := by
  rw [hexField, if_pos negative, digitsAtLeast, if_pos bound]

theorem readInt_negative (width value : Nat) :
    readInt (45 :: digits (width + 1) value) =
      some (-((value % 16 ^ (width + 1) : Nat) : Int)) := by
  have plain := digits_digit (width + 1) value
  have stripped : strip (45 :: digits (width + 1) value) = 45 :: digits (width + 1) value := by
    apply strip_plain
    intro byte member
    rcases List.mem_cons.mp member with rfl | member
    · rfl
    · exact (digit_plain (plain byte member)).1
  have read := readDigits_append width 0 value [] false
  rw [List.append_nil, Nat.zero_mul, Nat.zero_add] at read
  unfold readInt
  rw [stripped]
  simp only [readUnsigned_digits plain, read]
  rfl

theorem hexField_nonzero (value : Int) : (0 : UInt8) ∉ hexField value := by
  have plain : ∀ byte, Digit byte → byte ≠ 0 :=
    fun _ digit => (digit_plain digit).2.2.2.2.2.2
  rw [hexField]
  intro member
  split at member
  · rcases List.mem_cons.mp member with sign | member
    · exact absurd sign (by decide)
    · exact plain 0 (digitsAtLeast_digit 7 _ 0 member) rfl
  · exact plain 0 (digitsAtLeast_digit 8 _ 0 member) rfl

/-! ### What a text can read as -/

theorem digitValue_bound {byte : UInt8} {digit : Nat} (read : digitValue byte = some digit) :
    digit < 16 := by
  unfold digitValue at read
  split at read
  · injection read with same
    omega
  · split at read
    · injection read with same
      omega
    · split at read
      · injection read with same
        omega
      · cases read

theorem readDigits_lt {after : Bool} {before value : Nat} {text : Bytes}
    (read : readDigits after before text = some value) :
    value < (before + 1) * 16 ^ text.length := by
  induction text generalizing after before with
  | nil =>
      rw [readDigits] at read
      rw [List.length_nil, Nat.pow_zero]
      split at read
      · injection read with same
        omega
      · cases read
  | cons byte rest ih =>
      have positive : 0 < 16 ^ rest.length := Nat.pow_pos (by omega)
      rw [readDigits] at read
      rw [List.length_cons, Nat.pow_succ, Nat.mul_comm (16 ^ rest.length), ← Nat.mul_assoc]
      split at read
      · split at read
        · have later := ih read
          have grown : (before + 1) * 16 ^ rest.length ≤ (before + 1) * 16 * 16 ^ rest.length :=
            Nat.mul_le_mul_right _ (by omega)
          omega
        · cases read
      · obtain ⟨digit, found, later⟩ := Option.bind_eq_some_iff.mp read
        have bound := digitValue_bound found
        have small := ih later
        have grown : (16 * before + digit + 1) * 16 ^ rest.length ≤
            (before + 1) * 16 * 16 ^ rest.length :=
          Nat.mul_le_mul_right _ (by omega)
        omega

theorem readUnsigned_lt {text : Bytes} {value width : Nat} (short : text.length ≤ width)
    (read : readUnsigned text = some value) : value < 16 ^ width := by
  have fits : ∀ rest : Bytes, rest.length ≤ text.length → readDigits false 0 rest = some value →
      value < 16 ^ width := by
    intro rest shorter found
    have bound := readDigits_lt found
    have grown : 16 ^ rest.length ≤ 16 ^ width := Nat.pow_le_pow_right (by omega) (by omega)
    omega
  unfold readUnsigned at read
  split at read
  · exact fits _ (by simp only [List.length_cons]; omega) read
  · exact fits _ (by simp only [List.length_cons]; omega) read
  · exact fits _ (by simp only [List.length_cons]; omega) read
  · exact fits _ (by simp only [List.length_cons]; omega) read
  · exact fits _ (Nat.le_refl _) read

theorem strip_length (text : Bytes) : (strip text).length ≤ text.length := by
  have front : (text.dropWhile isSpace).length ≤ text.length :=
    (List.dropWhile_suffix isSpace).length_le
  have back : ((text.dropWhile isSpace).reverse.dropWhile isSpace).length ≤
      (text.dropWhile isSpace).reverse.length :=
    (List.dropWhile_suffix isSpace).length_le
  rw [strip, List.length_reverse]
  rw [List.length_reverse] at back
  omega

/-- A sign takes one of the characters. -/
theorem readInt_range {text : Bytes} {value : Int} {width : Nat}
    (short : text.length ≤ width + 1) (read : readInt text = some value) :
    -((16 ^ width : Nat) : Int) < value ∧ value < ((16 ^ (width + 1) : Nat) : Int) := by
  have stripped := strip_length text
  have grown : 16 ^ width ≤ 16 ^ (width + 1) := Nat.pow_le_pow_right (by omega) (by omega)
  have positive : 0 < 16 ^ width := Nat.pow_pos (by omega)
  unfold readInt at read
  split at read
  · rename_i rest same
    rw [same, List.length_cons] at stripped
    cases found : readUnsigned rest with
    | none =>
        rw [found] at read
        cases read
    | some number =>
        rw [found] at read
        have negated : -(number : Int) = value := Option.some.inj read
        have bound := readUnsigned_lt (by omega : rest.length ≤ width) found
        omega
  · rename_i rest same
    rw [same, List.length_cons] at stripped
    cases found : readUnsigned rest with
    | none =>
        rw [found] at read
        cases read
    | some number =>
        rw [found] at read
        have kept : (number : Int) = value := Option.some.inj read
        have bound := readUnsigned_lt (by omega : rest.length ≤ width) found
        omega
  · cases found : readUnsigned (strip text) with
    | none =>
        rw [found] at read
        cases read
    | some number =>
        rw [found] at read
        have kept : (number : Int) = value := Option.some.inj read
        have bound := readUnsigned_lt (by omega : (strip text).length ≤ width + 1) found
        omega

/-! ### Text -/

/-- `name.encode()` -/
def encode (name : List Char) : Bytes := name.flatMap String.utf8EncodeChar

/-- `raw.decode()` -/
def decode (raw : Bytes) : Option (List Char) :=
  raw.toByteArray.utf8Decode?.map Array.toList

theorem decode_encode (name : List Char) : decode (encode name) = some name := by
  have whole : (encode name).toByteArray = name.utf8Encode := rfl
  rw [decode, whole, List.utf8Decode?_utf8Encode]
  simp

theorem encode_decode {raw : Bytes} {name : List Char} (read : decode raw = some name) :
    encode name = raw := by
  rw [decode] at read
  obtain ⟨chars, found, same⟩ := Option.map_eq_some_iff.mp read
  have there : raw.toByteArray.utf8Decode?.isSome := by
    rw [found]
    rfl
  have whole : (raw.toByteArray.utf8Decode?.get there).toList.utf8Encode = raw.toByteArray :=
    ByteArray.utf8Encode_get_utf8Decode?
  have got : raw.toByteArray.utf8Decode?.get there = chars := by
    simp only [found, Option.get_some]
  rw [got, same] at whole
  have bytes : (encode name).toByteArray = raw.toByteArray := whole
  have lists := congrArg (fun array : ByteArray => array.data.toList) bytes
  simpa using lists

theorem encode_injective {one other : List Char} (same : encode one = encode other) :
    one = other := by
  have decoded := congrArg decode same
  rw [decode_encode, decode_encode] at decoded
  exact Option.some.inj decoded

def Ascii (name : List Char) : Prop := ∀ char ∈ name, char.val.toNat < 128

instance (name : List Char) : Decidable (Ascii name) :=
  List.decidableBAll (fun char : Char => char.val.toNat < 128) name

theorem encodeChar_ascii {char : Char} (ascii : char.val.toNat < 128) :
    (String.utf8EncodeChar char).length = 1 := by
  unfold String.utf8EncodeChar
  rw [if_pos (by omega : char.val.toNat ≤ 127)]
  rfl

theorem encodeChar_positive (char : Char) : 1 ≤ (String.utf8EncodeChar char).length := by
  have nonempty := List.length_pos_of_ne_nil (String.utf8EncodeChar_ne_nil (c := char))
  omega

theorem encodeChar_wide {char : Char} (wide : ¬ char.val.toNat < 128) :
    2 ≤ (String.utf8EncodeChar char).length := by
  unfold String.utf8EncodeChar
  rw [if_neg (by omega : ¬ char.val.toNat ≤ 127)]
  split
  · exact Nat.le_refl 2
  · split
    · exact Nat.le_succ 2
    · exact Nat.le_add_left 2 2

theorem encode_cons (char : Char) (name : List Char) :
    encode (char :: name) = String.utf8EncodeChar char ++ encode name :=
  List.flatMap_cons

theorem encode_length_le (name : List Char) : name.length ≤ (encode name).length := by
  induction name with
  | nil => exact Nat.le_refl 0
  | cons char name ih =>
      have first := encodeChar_positive char
      rw [encode_cons, List.length_append, List.length_cons]
      omega

/-- The characters and the bytes of a text are as many exactly when it is ASCII. -/
theorem encode_length_ascii (name : List Char) : (encode name).length = name.length ↔ Ascii name := by
  induction name with
  | nil =>
      constructor
      · intro _ char member
        cases member
      · intro _
        rfl
  | cons char name ih =>
      have others := encode_length_le name
      rw [encode_cons, List.length_append, List.length_cons]
      constructor
      · intro same
        have narrow : char.val.toNat < 128 := by
          apply Classical.byContradiction
          intro wide
          have more := encodeChar_wide wide
          omega
        have one := encodeChar_ascii narrow
        have rest := ih.mp (by omega)
        intro other member
        rcases List.mem_cons.mp member with here | later
        · rw [here]
          exact narrow
        · exact rest other later
      · intro ascii
        have one := encodeChar_ascii (ascii char List.mem_cons_self)
        have rest := ih.mpr (fun other member => ascii other (List.mem_cons_of_mem _ member))
        omega

/-- An ASCII byte encodes the character of its value. -/
theorem encodeChar_low {char : Char} {byte : UInt8} (low : byte.toNat < 128)
    (member : byte ∈ String.utf8EncodeChar char) : char.val.toNat = byte.toNat := by
  have value : ∀ value, value < 256 → byte = UInt8.ofNat value → byte.toNat = value := by
    intro value bound same
    rw [same, UInt8.toNat_ofNat', Nat.mod_eq_of_lt bound]
  have high : ∀ value, 128 ≤ value → value < 256 → byte ≠ UInt8.ofNat value := by
    intro number large bound same
    have same := value number bound same
    omega
  unfold String.utf8EncodeChar at member
  dsimp only at member
  split at member
  · rcases List.mem_cons.mp member with same | none
    · exact (value _ (by omega) same).symm
    · cases none
  · split at member
    · rcases List.mem_cons.mp member with same | rest
      · exact absurd same (high _ (by omega) (by omega))
      · rcases List.mem_cons.mp rest with same | none
        · exact absurd same (high _ (by omega) (by omega))
        · cases none
    · split at member
      · simp only [List.mem_cons, List.not_mem_nil, or_false] at member
        rcases member with same | same | same
        · exact absurd same (high _ (by omega) (by omega))
        · exact absurd same (high _ (by omega) (by omega))
        · exact absurd same (high _ (by omega) (by omega))
      · simp only [List.mem_cons, List.not_mem_nil, or_false] at member
        rcases member with same | same | same | same
        · exact absurd same (high _ (by omega) (by omega))
        · exact absurd same (high _ (by omega) (by omega))
        · exact absurd same (high _ (by omega) (by omega))
        · exact absurd same (high _ (by omega) (by omega))

theorem encodeChar_nonzero {char : Char} (nonzero : char.val.toNat ≠ 0) :
    (0 : UInt8) ∉ String.utf8EncodeChar char :=
  fun member => nonzero (encodeChar_low (by decide) member)

theorem encode_nonzero {name : List Char} (plain : ∀ char ∈ name, char.val.toNat ≠ 0) :
    (0 : UInt8) ∉ encode name := by
  intro member
  obtain ⟨char, present, byte⟩ := List.mem_flatMap.mp member
  exact encodeChar_nonzero (plain char present) byte

/-- An ASCII byte of an encoding stands for its character. -/
theorem encode_low {name : List Char} {byte : UInt8} (low : byte.toNat < 128)
    (member : byte ∈ encode name) : ∃ char ∈ name, char.val.toNat = byte.toNat := by
  obtain ⟨char, present, inside⟩ := List.mem_flatMap.mp member
  exact ⟨char, present, encodeChar_low low inside⟩

theorem encode_append (one other : List Char) :
    encode (one ++ other) = encode one ++ encode other := List.flatMap_append

end Bytes

end Liuqin.Library
