/-
Fixed-width hexadecimal text and its reader.

The writer prints a chosen number of upper-case digits; the reader accepts
both cases.  Reading back what was printed gives the value modulo the printed
width, which is the only fact a caller needs.
-/

import Mathlib.Data.Nat.Basic
import Mathlib.Tactic.IntervalCases

namespace Liuqin.Library.Hex

def digitChar (digit : Nat) : Char :=
  if digit < 10 then Char.ofNat (48 + digit) else Char.ofNat (55 + digit)

def digitValue (char : Char) : Option Nat :=
  if 48 ≤ char.toNat ∧ char.toNat ≤ 57 then some (char.toNat - 48)
  else if 65 ≤ char.toNat ∧ char.toNat ≤ 70 then some (char.toNat - 55)
  else if 97 ≤ char.toNat ∧ char.toNat ≤ 102 then some (char.toNat - 87)
  else none

theorem digitValue_digitChar {digit : Nat} (bound : digit < 16) :
    digitValue (digitChar digit) = some digit := by
  interval_cases digit <;> rfl

theorem digitChar_ne_dash {digit : Nat} (bound : digit < 16) :
    digitChar digit ≠ '-' := by
  interval_cases digit <;> decide

/-- The last `width` hexadecimal digits of a value, most significant first. -/
def encode : Nat → Nat → List Char
  | 0, _ => []
  | width + 1, value => encode width (value / 16) ++ [digitChar (value % 16)]

def decodeStep (value : Nat) (char : Char) : Option Nat :=
  (digitValue char).map (fun digit => 16 * value + digit)

def decode (text : List Char) : Option Nat :=
  text.foldlM decodeStep 0

theorem encode_length (width value : Nat) : (encode width value).length = width := by
  induction width generalizing value with
  | zero => rfl
  | succ width ih => simp [encode, ih]

theorem encode_ne_dash (width value : Nat) :
    ∀ char ∈ encode width value, char ≠ '-' := by
  induction width generalizing value with
  | zero => simp [encode]
  | succ width ih =>
      intro char member
      rcases List.mem_append.mp member with early | last
      · exact ih (value / 16) char early
      · rw [List.mem_singleton.mp last]
        exact digitChar_ne_dash (Nat.mod_lt _ (by decide))

theorem decode_encode (width value : Nat) :
    decode (encode width value) = some (value % 16 ^ width) := by
  induction width generalizing value with
  | zero => simp [encode, decode, Nat.mod_one]
  | succ width ih =>
      have tail : value % 16 ^ (width + 1) =
          16 * (value / 16 % 16 ^ width) + value % 16 := by
        rw [Nat.pow_succ, Nat.mul_comm, Nat.mod_mul]
        omega
      have front : (encode width (value / 16)).foldlM decodeStep 0 =
          some (value / 16 % 16 ^ width) := ih (value / 16)
      simp only [encode, decode, List.foldlM_append, front, List.foldlM_cons,
        List.foldlM_nil, decodeStep,
        digitValue_digitChar (Nat.mod_lt value (by decide : 0 < 16)), tail]
      rfl

/-! ### Digit groups -/

/-- The digits cut into groups of the given widths, with a dash between groups. -/
def grouped : List Nat → List Char → List Char
  | [], digits => digits
  | width :: widths, digits => digits.take width ++ '-' :: grouped widths (digits.drop width)

theorem grouped_filter (widths : List Nat) (digits : List Char)
    (plain : ∀ char ∈ digits, char ≠ '-') :
    (grouped widths digits).filter (fun char => char ≠ '-') = digits := by
  induction widths generalizing digits with
  | nil =>
      apply List.filter_eq_self.mpr
      intro char member
      simpa using plain char member
  | cons width widths ih =>
      have front : (digits.take width).filter (fun char => char ≠ '-') = digits.take width := by
        apply List.filter_eq_self.mpr
        intro char member
        simpa using plain char (List.mem_of_mem_take member)
      have back := ih (digits.drop width) (fun char member => plain char (List.mem_of_mem_drop member))
      rw [grouped, List.filter_append, front, List.filter_cons_of_neg (by decide), back,
        List.take_append_drop]

theorem grouped_length (widths : List Nat) (digits : List Char) :
    (grouped widths digits).length = digits.length + widths.length := by
  induction widths generalizing digits with
  | nil => rfl
  | cons width widths ih =>
      have front : (digits.take width ++ digits.drop width).length = digits.length := by
        rw [List.take_append_drop]
      rw [List.length_append] at front
      rw [grouped, List.length_append, List.length_cons, ih, List.length_cons]
      omega

theorem encode_mem (width value : Nat) :
    ∀ char ∈ encode width value, ∃ digit, digit < 16 ∧ char = digitChar digit := by
  induction width generalizing value with
  | zero => simp [encode]
  | succ width ih =>
      intro char member
      rcases List.mem_append.mp member with early | last
      · exact ih (value / 16) char early
      · exact ⟨value % 16, Nat.mod_lt _ (by decide), List.mem_singleton.mp last⟩

theorem grouped_mem {widths : List Nat} {digits : List Char} :
    ∀ char ∈ grouped widths digits, char = '-' ∨ char ∈ digits := by
  induction widths generalizing digits with
  | nil => exact fun char member => .inr member
  | cons width widths ih =>
      intro char member
      rcases List.mem_append.mp member with front | back
      · exact .inr (List.mem_of_mem_take front)
      · rcases List.mem_cons.mp back with dash | rest
        · exact .inl dash
        · rcases ih char rest with dash | inside
          · exact .inl dash
          · exact .inr (List.mem_of_mem_drop inside)

end Liuqin.Library.Hex
