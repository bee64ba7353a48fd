/-
Parts of a byte string and the fixed-width numbers that stand in it.
-/

import Liuqin.Library.Bytes
import Mathlib.Tactic.SplitIfs

namespace Liuqin.Library.Bytes

/-! ### Parts -/

/-- `data[start:stop]` for bounds that are not negative. -/
def part (data : Bytes) (start stop : Nat) : Bytes := (data.take stop).drop start

theorem slice_part (data : Bytes) (start stop : Nat) :
    slice data start stop = part data start stop :=
  slice_nat data start stop

theorem part_length (data : Bytes) (start stop : Nat) :
    (part data start stop).length = min stop data.length - start := by
  rw [part, List.length_drop, List.length_take]

theorem part_within {data : Bytes} {start stop : Nat} (within : stop ≤ data.length) :
    (part data start stop).length = stop - start := by
  rw [part_length, Nat.min_eq_left within]

theorem part_left {front : Bytes} {stop : Nat} (within : stop ≤ front.length) (back : Bytes)
    (start : Nat) : part (front ++ back) start stop = part front start stop := by
  rw [part, part, List.take_append_of_le_length within]

/-- A part behind a front. -/
theorem part_right (front back : Bytes) (start stop : Nat) :
    part (front ++ back) (front.length + start) (front.length + stop) = part back start stop := by
  rw [part, part, List.take_length_add_append, List.drop_length_add_append]

theorem part_prefix (front back : Bytes) : part (front ++ back) 0 front.length = front := by
  rw [part, List.take_left, List.drop_zero]

theorem part_front {front : Bytes} {length : Nat} (same : front.length = length)
    (back : Bytes) : part (front ++ back) 0 length = front := by
  rw [← same, part_prefix]

theorem part_of_form {data front back : Bytes} {length : Nat} (form : data = front ++ back)
    (same : front.length = length) : part data 0 length = front := by
  rw [form, part_front same]

/-- The part right behind a front of known length. -/
theorem part_next {front middle : Bytes} {start : Nat} (same : front.length = start)
    (back : Bytes) : part (front ++ (middle ++ back)) start (start + middle.length) = middle := by
  have whole := part_right front (middle ++ back) 0 middle.length
  rw [Nat.add_zero, part_prefix, same] at whole
  exact whole

theorem part_append_part {data : Bytes} {start middle stop : Nat} (first : start ≤ middle)
    (second : middle ≤ stop) : part data start middle ++ part data middle stop =
      part data start stop := by
  apply List.ext_getElem?
  intro index
  rw [List.getElem?_append, part_length]
  simp only [part, List.getElem?_drop, List.getElem?_take]
  by_cases early : index < min middle data.length - start
  · rw [if_pos early, if_pos (by omega), if_pos (by omega)]
  · rw [if_neg early]
    by_cases short : data.length < middle
    · have here : data[start + index]? = none := List.getElem?_eq_none (by omega)
      have there : data[middle + (index - (min middle data.length - start))]? = none :=
        List.getElem?_eq_none (by omega)
      rw [here, there, ite_self, ite_self]
    · have same : middle + (index - (min middle data.length - start)) = start + index := by omega
      rw [same]

/-- A part of a part. -/
theorem part_part (data : Bytes) {start stop inner outer : Nat} (within : start + outer ≤ stop) :
    part (part data start stop) inner outer = part data (start + inner) (start + outer) := by
  rw [part, part, part, List.take_drop, List.take_take, List.drop_drop, Nat.min_eq_left within]

theorem part_zero (data : Bytes) (stop : Nat) : part data 0 stop = data.take stop :=
  List.drop_zero

/-- Two byte strings that agree on the front agree on every part of it. -/
theorem part_of_front {one other : Bytes} {bound : Nat}
    (same : part one 0 bound = part other 0 bound) {stop : Nat} (within : stop ≤ bound)
    (start : Nat) : part one start stop = part other start stop := by
  rw [part_zero, part_zero] at same
  have shorter := congrArg (List.take stop) same
  rw [List.take_take, List.take_take, Nat.min_eq_left within] at shorter
  rw [part, part, shorter]

/-! ### Writing over a part -/

def overwrite (data : Bytes) (offset : Nat) (text : Bytes) : Bytes :=
  data.take offset ++ (text ++ data.drop (offset + text.length))

section Overwrite

variable {data text : Bytes} {offset : Nat}

theorem overwrite_length (within : offset + text.length ≤ data.length) :
    (overwrite data offset text).length = data.length := by
  rw [overwrite, List.length_append, List.length_append, List.length_take, List.length_drop]
  omega

theorem part_overwrite (within : offset + text.length ≤ data.length) :
    part (overwrite data offset text) offset (offset + text.length) = text := by
  apply part_next
  rw [List.length_take]
  omega

theorem part_overwrite_before (within : offset + text.length ≤ data.length) {start stop : Nat}
    (before : stop ≤ offset) :
    part (overwrite data offset text) start stop = part data start stop := by
  rw [overwrite, part_left (by rw [List.length_take]; omega), part, part, List.take_take,
    Nat.min_eq_left before]

theorem part_overwrite_after (within : offset + text.length ≤ data.length) {start stop : Nat}
    (after : offset + text.length ≤ start) :
    part (overwrite data offset text) start stop = part data start stop := by
  apply List.ext_getElem?
  intro index
  simp only [part, overwrite, List.getElem?_drop, List.getElem?_take]
  rw [List.getElem?_append_right (by rw [List.length_take]; omega),
    List.getElem?_append_right (by rw [List.length_take]; omega), List.getElem?_drop,
    List.length_take, Nat.min_eq_left (by omega : offset ≤ data.length)]
  have same : offset + text.length + (start + index - offset - text.length) = start + index := by
    omega
  rw [same]

theorem overwrite_append (within : offset + text.length ≤ data.length) (back : Bytes) :
    overwrite (data ++ back) offset text = overwrite data offset text ++ back := by
  rw [overwrite, overwrite, List.take_append_of_le_length (by omega),
    List.drop_append_of_le_length within, List.append_assoc, List.append_assoc]

theorem overwrite_getElem? (within : offset + text.length ≤ data.length) (index : Nat) :
    (overwrite data offset text)[index]? =
      if index < offset then data[index]?
      else if index < offset + text.length then text[index - offset]?
      else data[index]? := by
  have front : (data.take offset).length = offset := by
    rw [List.length_take]
    omega
  rw [overwrite, List.getElem?_append, front]
  by_cases early : index < offset
  · rw [if_pos early, if_pos early, List.getElem?_take, if_pos early]
  · rw [if_neg early, if_neg early, List.getElem?_append]
    by_cases inside : index < offset + text.length
    · rw [if_pos inside, if_pos (by omega)]
    · rw [if_neg inside, if_neg (by omega), List.getElem?_drop]
      congr 1
      omega

/-- Writes to places that do not overlap can be made in either order. -/
theorem overwrite_comm {other : Bytes} {place : Nat}
    (within : offset + text.length ≤ data.length) (room : place + other.length ≤ data.length)
    (apart : offset + text.length ≤ place ∨ place + other.length ≤ offset) :
    overwrite (overwrite data offset text) place other =
      overwrite (overwrite data place other) offset text := by
  have first := overwrite_length within
  have second := overwrite_length room
  apply List.ext_getElem?
  intro index
  rw [overwrite_getElem? (by omega), overwrite_getElem? within, overwrite_getElem? (by omega),
    overwrite_getElem? room]
  -- no index is in both texts, so at most one of them answers
  split_ifs
  all_goals first | rfl | omega

/-- Writing over what was written there forgets it. -/
theorem overwrite_twice {later : Bytes} (same : later.length = text.length)
    (within : offset + text.length ≤ data.length) :
    overwrite (overwrite data offset text) offset later = overwrite data offset later := by
  have front : (data.take offset).length = offset := by
    rw [List.length_take]
    omega
  rw [overwrite, overwrite, overwrite, same]
  rw [List.take_append_of_le_length (by omega), List.take_of_length_le (by omega)]
  have cut : (data.take offset ++ (text ++ data.drop (offset + text.length))).drop
      (offset + text.length) = data.drop (offset + text.length) := by
    rw [← List.append_assoc, List.drop_left']
    rw [List.length_append, front]
  rw [cut]

/-- Writing what stands there anyway changes nothing. -/
theorem overwrite_same (within : offset + text.length ≤ data.length)
    (same : part data offset (offset + text.length) = text) :
    overwrite data offset text = data := by
  have pieces : part data offset (offset + text.length) ++ data.drop (offset + text.length) =
      data.drop offset := by
    rw [part, ← List.drop_append_of_le_length (by rw [List.length_take]; omega),
      List.take_append_drop]
  rw [same] at pieces
  rw [overwrite, pieces, List.take_append_drop]

end Overwrite

/-! ### Numbers -/

/-- A number as so many little-endian bytes. -/
def little : Nat → Nat → Bytes
  | 0, _ => []
  | width + 1, value => UInt8.ofNat (value % 256) :: little width (value / 256)

def fromLittle (bytes : Bytes) : Nat :=
  bytes.foldr (fun byte rest => byte.toNat + 256 * rest) 0

def big (width value : Nat) : Bytes := (little width value).reverse

def fromBig (bytes : Bytes) : Nat := fromLittle bytes.reverse

theorem little_length (width value : Nat) : (little width value).length = width := by
  induction width generalizing value with
  | zero => rfl
  | succ width ih => rw [little, List.length_cons, ih]

theorem big_length (width value : Nat) : (big width value).length = width := by
  rw [big, List.length_reverse, little_length]

theorem fromLittle_little {width value : Nat} (fits : value < 256 ^ width) :
    fromLittle (little width value) = value := by
  induction width generalizing value with
  | zero =>
      rw [Nat.pow_zero] at fits
      have zero : value = 0 := by omega
      rw [zero]
      rfl
  | succ width ih =>
      have smaller : value / 256 < 256 ^ width := by
        rw [Nat.pow_succ] at fits
        exact Nat.div_lt_of_lt_mul (by omega)
      have rest := ih smaller
      have byte : (UInt8.ofNat (value % 256)).toNat = value % 256 := by
        rw [UInt8.toNat_ofNat', Nat.mod_mod]
      have unfolded : fromLittle (little (width + 1) value) =
          (UInt8.ofNat (value % 256)).toNat + 256 * fromLittle (little width (value / 256)) := rfl
      rw [unfolded, rest, byte]
      omega

theorem little_fromLittle (bytes : Bytes) : little bytes.length (fromLittle bytes) = bytes := by
  induction bytes with
  | nil => rfl
  | cons byte rest ih =>
      have bound := byte.toNat_lt
      have value : fromLittle (byte :: rest) = byte.toNat + 256 * fromLittle rest := rfl
      have low : (byte.toNat + 256 * fromLittle rest) % 256 = byte.toNat := by omega
      have high : (byte.toNat + 256 * fromLittle rest) / 256 = fromLittle rest := by omega
      rw [List.length_cons, little, value, low, high, ih, UInt8.ofNat_toNat]

theorem fromLittle_lt (bytes : Bytes) : fromLittle bytes < 256 ^ bytes.length := by
  induction bytes with
  | nil => decide
  | cons byte rest ih =>
      have value : fromLittle (byte :: rest) = byte.toNat + 256 * fromLittle rest := rfl
      have bound := byte.toNat_lt
      rw [value, List.length_cons, Nat.pow_succ]
      omega

theorem fromBig_big {width value : Nat} (fits : value < 256 ^ width) :
    fromBig (big width value) = value := by
  rw [fromBig, big, List.reverse_reverse, fromLittle_little fits]

end Liuqin.Library.Bytes
