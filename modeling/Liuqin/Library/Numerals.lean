/-
Decimal numbers in texts.

The character classes are those of Unicode: the digits of every script count as
digits.  Python reads a number with a sign, blanks around it and single
underscores between its digits, and writes it with the plain digits.
-/

import Mathlib.Data.Nat.Basic
import Mathlib.Tactic.IntervalCases
import Liuqin.Library.Lines

namespace Liuqin.Library.Numerals

open Liuqin.Library.Lines

/-! ### Characters -/

/-- The zeros of the scripts; nine more digits follow each of them. -/
def digitZeros : List Nat :=
  [0x30, 0x660, 0x6f0, 0x7c0, 0x966, 0x9e6, 0xa66, 0xae6, 0xb66, 0xbe6, 0xc66, 0xce6, 0xd66,
    0xde6, 0xe50, 0xed0, 0xf20, 0x1040, 0x1090, 0x17e0, 0x1810, 0x1946, 0x19d0, 0x1a80, 0x1a90,
    0x1b50, 0x1bb0, 0x1c40, 0x1c50, 0xa620, 0xa8d0, 0xa900, 0xa9d0, 0xa9f0, 0xaa50, 0xabf0,
    0xff10, 0x104a0, 0x10d30, 0x11066, 0x110f0, 0x11136, 0x111d0, 0x112f0, 0x11450, 0x114d0,
    0x11650, 0x116c0, 0x11730, 0x118e0, 0x11950, 0x11c50, 0x11d50, 0x11da0, 0x16a60, 0x16ac0,
    0x16b50, 0x1d7ce, 0x1d7d8, 0x1d7e2, 0x1d7ec, 0x1d7f6, 0x1e140, 0x1e2f0, 0x1e950, 0x1fbf0]

def spaces : List Nat :=
  [0x9, 0xa, 0xb, 0xc, 0xd, 0x1c, 0x1d, 0x1e, 0x1f, 0x20, 0x85, 0xa0, 0x1680, 0x2000, 0x2001,
    0x2002, 0x2003, 0x2004, 0x2005, 0x2006, 0x2007, 0x2008, 0x2009, 0x200a, 0x2028, 0x2029,
    0x202f, 0x205f, 0x3000]

def digitOf (char : Char) : Option Nat :=
  digitZeros.findSome? (fun first =>
    if first ≤ char.toNat ∧ char.toNat < first + 10 then some (char.toNat - first) else none)

def isDigit (char : Char) : Bool := (digitOf char).isSome

def isSpace (char : Char) : Bool := spaces.contains char.toNat

/-- `str.strip` -/
def strip (text : Text) : Text :=
  ((text.dropWhile isSpace).reverse.dropWhile isSpace).reverse

theorem dropWhile_split (text : Text) :
    ∃ lead, text = lead ++ text.dropWhile isSpace ∧ (∀ char ∈ lead, isSpace char = true) ∧
      ∀ char, (text.dropWhile isSpace).head? = some char → isSpace char = false := by
  induction text with
  | nil => exact ⟨[], rfl, fun _ member => (List.not_mem_nil member).elim, fun _ none => nomatch none⟩
  | cons char rest ih =>
      by_cases space : isSpace char = true
      · obtain ⟨lead, same, all, starts⟩ := ih
        rw [List.dropWhile_cons, if_pos space]
        refine ⟨char :: lead, ?_, ?_, starts⟩
        · rw [List.cons_append, ← same]
        · intro other member
          rcases List.mem_cons.mp member with rfl | inside
          · exact space
          · exact all other inside
      · rw [List.dropWhile_cons, if_neg space]
        refine ⟨[], rfl, fun _ member => (List.not_mem_nil member).elim, ?_⟩
        intro other same
        injection same with same
        rw [← same]
        exact Bool.eq_false_iff.mpr space

/-- What is stripped, and what is left of a text. -/
theorem strip_split (text : Text) :
    ∃ lead trail, text = lead ++ strip text ++ trail ∧ (∀ char ∈ lead, isSpace char = true) ∧
      (∀ char ∈ trail, isSpace char = true) ∧
      (∀ char, (strip text).head? = some char → isSpace char = false) ∧
      ∀ char, (strip text).getLast? = some char → isSpace char = false := by
  obtain ⟨lead, same, leading, starts⟩ := dropWhile_split text
  obtain ⟨back, also, trailing, ends⟩ := dropWhile_split (text.dropWhile isSpace).reverse
  have middle : text.dropWhile isSpace = strip text ++ back.reverse := by
    rw [strip, ← List.reverse_append, ← also, List.reverse_reverse]
  refine ⟨lead, back.reverse, ?_, leading, ?_, ?_, ?_⟩
  · rw [List.append_assoc, ← middle]
    exact same
  · intro char member
    exact trailing char (List.mem_reverse.mp member)
  · intro char head
    apply starts
    rw [middle, List.head?_append, head]
    rfl
  · intro char last
    apply ends
    rw [strip, List.getLast?_reverse] at last
    exact last

theorem strip_nil {text : Text} : strip text = [] ↔ ∀ char ∈ text, isSpace char = true := by
  obtain ⟨lead, trail, same, leading, trailing, starts, _⟩ := strip_split text
  constructor
  · intro empty char member
    rw [same, empty, List.append_nil] at member
    rcases List.mem_append.mp member with early | late
    · exact leading char early
    · exact trailing char late
  · intro all
    cases inner : strip text with
    | nil => rfl
    | cons char rest =>
        have solid := starts char (by rw [inner]; rfl)
        have space : isSpace char = true := by
          apply all
          rw [same, inner]
          exact List.mem_append_left _ (List.mem_append_right _ List.mem_cons_self)
        rw [solid] at space
        cases space

theorem isSpace_cases {char : Char} (space : isSpace char = true) :
    char.toNat ≤ 32 ∨ 133 ≤ char.toNat := by
  have listed : char.toNat ∈ spaces := List.contains_iff_mem.mp space
  simp only [spaces, List.mem_cons, List.not_mem_nil, or_false] at listed
  omega

/-! ### Reading -/

/-- Digits with single underscores between them; `after` says that a digit came last. -/
def readDigits : Bool → Nat → Text → Option Nat
  | after, value, [] => if after then some value else none
  | after, value, char :: rest =>
      if char = '_' then (if after then readDigits false value rest else none)
      else (digitOf char).bind (fun digit => readDigits true (10 * value + digit) rest)

/-- `int(text)` -/
def readInt (text : Text) : Option Int :=
  match strip text with
  | '-' :: rest => (readDigits false 0 rest).map (fun value => -(value : Int))
  | '+' :: rest => (readDigits false 0 rest).map (fun value => (value : Int))
  | rest => (readDigits false 0 rest).map (fun value => (value : Int))

/-- `int(text)` of digits alone. -/
def number (digits : Text) : Nat :=
  digits.foldl (fun value char => 10 * value + (digitOf char).getD 0) 0

/-! ### Writing -/

def digitChar (digit : Nat) : Char := Char.ofNat (48 + digit)

/-- `str(value)` -/
def numeral (value : Nat) : Text :=
  if value < 10 then [digitChar value] else numeral (value / 10) ++ [digitChar (value % 10)]

/-- The digits that numbers are written with. -/
def Plain (char : Char) : Prop := ∃ digit, digit < 10 ∧ char = digitChar digit

theorem digitOf_digitChar {digit : Nat} (bound : digit < 10) :
    digitOf (digitChar digit) = some digit := by
  interval_cases digit <;> rfl

theorem Plain.isDigit {char : Char} (plain : Plain char) : isDigit char = true := by
  obtain ⟨digit, bound, rfl⟩ := plain
  rw [Numerals.isDigit, digitOf_digitChar bound]
  rfl

theorem Plain.isSpace {char : Char} (plain : Plain char) : isSpace char = false := by
  obtain ⟨digit, bound, rfl⟩ := plain
  interval_cases digit <;> rfl

theorem Plain.toNat {char : Char} (plain : Plain char) : 48 ≤ char.toNat ∧ char.toNat ≤ 57 := by
  obtain ⟨digit, bound, rfl⟩ := plain
  interval_cases digit <;> decide

theorem numeral_plain (value : Nat) : ∀ char ∈ numeral value, Plain char := by
  induction value using Nat.strongRecOn with
  | ind value ih =>
      intro char member
      rw [numeral] at member
      by_cases small : value < 10
      · rw [if_pos small, List.mem_singleton] at member
        exact ⟨value, small, member⟩
      · rw [if_neg small, List.mem_append, List.mem_singleton] at member
        rcases member with early | last
        · exact ih (value / 10) (by omega) char early
        · exact ⟨value % 10, Nat.mod_lt _ (by decide), last⟩

theorem numeral_nonempty (value : Nat) : numeral value ≠ [] := by
  intro empty
  rw [numeral] at empty
  split at empty
  · cases empty
  · exact absurd (List.append_eq_nil_iff.mp empty).2 (List.cons_ne_nil _ _)

theorem numeral_length {value width : Nat} (positive : 0 < width) (bound : value < 10 ^ width) :
    (numeral value).length ≤ width := by
  induction width generalizing value with
  | zero => omega
  | succ width ih =>
      rw [numeral]
      by_cases small : value < 10
      · rw [if_pos small, List.length_singleton]
        omega
      · rw [if_neg small, List.length_append, List.length_singleton]
        have shorter : value / 10 < 10 ^ width := by
          rw [Nat.pow_succ] at bound
          exact Nat.div_lt_of_lt_mul (by omega)
        cases width with
        | zero =>
            rw [Nat.pow_zero] at shorter
            omega
        | succ width =>
            have front := ih (by omega) shorter
            omega

/-- The numeral is what Lean prints as well. -/
theorem toList_toString (value : Nat) : (toString value).toList = numeral value := by
  have digit : ∀ value, value < 10 → (Nat.repr value).toList = [digitChar value] := by
    intro value small
    interval_cases value <;> decide
  induction value using Nat.strongRecOn with
  | ind value ih =>
      rw [numeral]
      by_cases small : value < 10
      · rw [if_pos small]
        exact digit value small
      · have front : (Nat.repr (value / 10)).toList = numeral (value / 10) :=
          ih (value / 10) (by omega)
        have last := digit (value % 10) (Nat.mod_lt _ (by decide))
        rw [if_neg small, Nat.toString_eq_repr, Nat.repr_eq_repr_append_repr (by omega),
          String.toList_append, front, last]

/-- A number reads back as it was written. -/
theorem number_numeral (value : Nat) : number (numeral value) = value := by
  induction value using Nat.strongRecOn with
  | ind value ih =>
      rw [numeral]
      by_cases small : value < 10
      · rw [if_pos small, number, List.foldl_cons, List.foldl_nil, digitOf_digitChar small]
        show 10 * 0 + value = value
        omega
      · rw [if_neg small, number, List.foldl_append]
        have front := ih (value / 10) (by omega)
        rw [number] at front
        rw [front, List.foldl_cons, List.foldl_nil, digitOf_digitChar (Nat.mod_lt _ (by decide))]
        show 10 * (value / 10) + value % 10 = value
        omega

end Liuqin.Library.Numerals
