/-
What the loops around the calls come to.

A read gives the whole range or some call failed.  A write of sectors of the new
state keeps the disk between the old state and the new one, and has stored all of
them or some call failed.
-/

import Liuqin.Slot.Stored

namespace Liuqin.Slot

open Liuqin.Library Liuqin.Library.Bytes Liuqin.Library.Program Liuqin.Library.Barrier

section Calls

variable {logical : Nat} {during : Op → Tablet → Prop} {exited : Nat → Tablet → Prop}
  {tablet : Tablet}

/-- Nothing was written, and a failure is not forgotten. -/
structure Seen (before after : Tablet) : Prop where
  cache : after.cache = before.cache
  ro : after.ro = before.ro
  failed : before.failed = true → after.failed = true

theorem Seen.refl (tablet : Tablet) : Seen tablet tablet := ⟨rfl, rfl, id⟩

theorem Seen.trans {first second third : Tablet} (one : Seen first second)
    (two : Seen second third) : Seen first third :=
  ⟨two.cache.trans one.cache, two.ro.trans one.ro, fun failed => two.failed (one.failed failed)⟩

theorem Seen.disk {before after : Tablet} (seen : Seen before after) : after.disk = before.disk := by
  rw [Tablet.disk, Tablet.disk, seen.cache]

theorem seen_note (tablet : Tablet) (works : Bool) : Seen tablet (tablet.note works) := by
  constructor
  · rfl
  · rfl
  · intro failed
    rw [Tablet.note, failed, Bool.true_or]

theorem note_failed (tablet : Tablet) : (tablet.note false).failed = true := by
  rw [Tablet.note]
  exact Bool.or_true _

def Op.transfers : Op → Bool
  | .pread _ _ => true
  | .pwrite _ _ => true
  | _ => false

/-- With this cache any call may be made that neither writes nor reads outside the
disk. -/
structure Bears (during : Op → Tablet → Prop) (cache : Cached) : Prop where
  calls : ∀ operation after, after.cache = cache → operation.transfers = false →
    during operation after
  reads : ∀ length offset after, after.cache = cache → 0 < length →
    offset + length ≤ cache.seen.length → during (.pread length offset) after

theorem wp_call {operation : Op} {returned : Reply operation → Tablet → Prop}
    (asked : during operation tablet)
    (next : ∀ choice, returned (react logical operation choice tablet).1
      (react logical operation choice tablet).2) :
    wp (machine logical) during exited (Prog.perform operation) returned tablet :=
  ⟨asked, next⟩

/-! ### Reads -/

/-- What the rest of a read comes to, the front of the range being read. -/
theorem wp_fullPread {fuel length start offset : Nat} {buffer : Bytes}
    {returned : Option Bytes → Tablet → Prop} (bears : Bears during tablet.cache)
    (enough : length ≤ fuel) (order : start ≤ offset) (room : offset + length ≤ tablet.disk.length)
    (front : buffer = part tablet.disk start offset)
    (next : ∀ result after, Seen tablet after → (result = none → after.failed = true) →
      (∀ data, result = some data → data = part tablet.disk start (offset + length)) →
      returned result after) :
    wp (machine logical) during exited (fullPread fuel buffer length offset) returned tablet := by
  induction fuel generalizing length offset buffer tablet with
  | zero =>
      have empty : length = 0 := by omega
      subst empty
      unfold fullPread
      apply next _ tablet (Seen.refl tablet)
      · intro impossible
        cases impossible
      · intro data same
        cases same
        exact front
  | succ fuel ih =>
      cases length with
      | zero =>
          unfold fullPread
          apply next _ tablet (Seen.refl tablet)
          · intro impossible
            cases impossible
          · intro data same
            cases same
            exact front
      | succ length =>
          unfold fullPread
          rw [Prog.bind_eq, wp_bind]
          apply wp_call
          · exact bears.reads _ _ tablet rfl (Nat.succ_pos length) room
          · intro delivered
            cases delivered with
            | none =>
                apply next none _ (seen_note tablet false)
                · exact fun _ => note_failed tablet
                · exact fun data same => nomatch same
            | some count =>
                generalize got : (part tablet.disk offset (offset + (length + 1))).take count = text
                have reply : (react logical (.pread (length + 1) offset) (some count) tablet).1 =
                    some text := congrArg some got
                have state : (react logical (.pread (length + 1) offset) (some count) tablet).2 =
                    tablet.note (!text.isEmpty) := by
                  rw [← got]
                  rfl
                rw [reply, state]
                cases text with
                | nil =>
                    apply next none _ (seen_note tablet false)
                    · exact fun _ => note_failed tablet
                    · exact fun data same => nomatch same
                | cons byte rest =>
                    have short : rest.length + 1 ≤ length + 1 := by
                      have bound := congrArg List.length got
                      rw [List.length_take, part_length, List.length_cons] at bound
                      omega
                    have piece : byte :: rest =
                        part tablet.disk offset (offset + (rest.length + 1)) := by
                      have own : (byte :: rest).take (rest.length + 1) = byte :: rest :=
                        List.take_of_length_le (by rw [List.length_cons])
                      have cut : (part tablet.disk offset (offset + (length + 1))).take
                          (rest.length + 1) =
                            part tablet.disk offset (offset + (rest.length + 1)) := by
                        rw [← part_zero, part_part _ (by omega), Nat.add_zero]
                      have fewer : rest.length + 1 ≤ count := by
                        have bound := congrArg List.length got
                        rw [List.length_take, List.length_cons] at bound
                        omega
                      rw [← own, ← cut, ← got, List.take_take, Nat.min_eq_left fewer]
                    have seen := seen_note tablet (!(byte :: rest).isEmpty)
                    apply ih
                    · rw [seen.cache]
                      exact bears
                    · omega
                    · omega
                    · rw [seen.disk]
                      omega
                    · rw [seen.disk, front, piece]
                      exact part_append_part order (by omega)
                    · intro result after later failing whole
                      apply next result after (seen.trans later) failing
                      intro data same
                      have stop : offset + (rest.length + 1) + (length + 1 - (rest.length + 1)) =
                          offset + (length + 1) := by omega
                      rw [whole data same, seen.disk, stop]

/-- A read gives the range, or some call failed. -/
theorem wp_readAt {length offset : Nat} {returned : Option Bytes → Tablet → Prop}
    (bears : Bears during tablet.cache) (room : offset + length ≤ tablet.disk.length)
    (next : ∀ result after, Seen tablet after → (result = none → after.failed = true) →
      (∀ data, result = some data → data = part tablet.disk offset (offset + length)) →
      returned result after) :
    wp (machine logical) during exited (readAt length offset) returned tablet := by
  apply wp_fullPread bears (Nat.le_refl length) (Nat.le_refl offset) room
  · rw [part, List.drop_take_self]
  · exact next

/-! ### Writes -/

/-- Between the old state and the new one since the last barrier. -/
structure Held (one other : Bytes) (before after : Tablet) : Prop where
  within : after.cache.Within sectorSize one other
  ro : after.ro = before.ro
  failed : before.failed = true → after.failed = true

theorem overwrite_nil (data : Bytes) (offset : Nat) : overwrite data offset [] = data := by
  rw [overwrite, List.nil_append, List.length_nil, Nat.add_zero, List.take_append_drop]

theorem overwrite_join (data one other : Bytes) (offset : Nat)
    (within : offset + one.length + other.length ≤ data.length) :
    overwrite (overwrite data offset one) (offset + one.length) other =
      overwrite data offset (one ++ other) := by
  have front : (data.take offset).length = offset := by
    rw [List.length_take]
    omega
  have taken : (overwrite data offset one).take (offset + one.length) =
      data.take offset ++ one := by
    rw [overwrite, ← List.append_assoc]
    apply List.take_left'
    rw [List.length_append, front]
  have dropped : (overwrite data offset one).drop (offset + one.length + other.length) =
      data.drop (offset + one.length + other.length) := by
    have rest : (overwrite data offset one).drop (offset + one.length) =
        data.drop (offset + one.length) := by
      rw [overwrite, ← List.append_assoc]
      apply List.drop_left'
      rw [List.length_append, front]
    rw [← List.drop_drop, rest, List.drop_drop]
  rw [overwrite, taken, dropped, overwrite, List.length_append, List.append_assoc,
    List.append_assoc, Nat.add_assoc]

/-- What a write of sectors stores of them. -/
theorem stored_sectors {disk data : Bytes} {start count sectors : Nat}
    (long : data.length = count * sectorSize) (room : (start + count) * sectorSize ≤ disk.length) :
    stored disk data (start * sectorSize) sectors = data.take (min sectors count * sectorSize) := by
  have space : data.length ≤ disk.length - start * sectorSize := by
    rw [Nat.add_mul] at room
    omega
  have shorter : (data.take (sectors * sectorSize)).length ≤ disk.length - start * sectorSize := by
    rw [List.length_take]
    omega
  rw [stored, List.take_of_length_le shorter]
  by_cases few : sectors ≤ count
  · rw [Nat.min_eq_left few]
  · have many : count ≤ sectors := by omega
    rw [Nat.min_eq_right many, List.take_of_length_le, List.take_of_length_le]
    · omega
    · rw [long]
      exact Nat.mul_le_mul_right sectorSize many

theorem Held.trans {one other : Bytes} {first second third : Tablet}
    (early : Held one other first second) (late : Held one other second third) :
    Held one other first third :=
  ⟨late.within, late.ro.trans early.ro, fun failed => late.failed (early.failed failed)⟩

/-- One write stores some of the sectors, and tells how many or failed. -/
theorem wp_pwrite {start count : Nat} {one other data : Bytes}
    {returned : Option Nat → Tablet → Prop} (sized : one.length = diskBytes)
    (within : tablet.cache.Within sectorSize one other) (long : data.length = count * sectorSize)
    (room : start + count ≤ diskLbas)
    (new : part other (start * sectorSize) ((start + count) * sectorSize) = data)
    (asked : during (.pwrite data (start * sectorSize)) tablet)
    (next : ∀ stop reply after, stop ≤ count → Held one other tablet after →
      after.disk = overwrite tablet.disk (start * sectorSize) (data.take (stop * sectorSize)) →
      (reply = none ∧ after.failed = true ∨
        reply = some (stop * sectorSize) ∧ (stop = 0 → after.failed = true)) →
      returned reply after) :
    wp (machine logical) during exited (pwrite data (start * sectorSize)) returned tablet := by
  have seenLength : tablet.disk.length = diskBytes := by
    rw [Tablet.disk, within.seen.length, sized]
  have space : (start + count) * sectorSize ≤ tablet.disk.length := range_within seenLength room
  apply wp_call asked
  rintro ⟨sectors, works⟩
  generalize amount : min sectors count = stop
  have less : stop ≤ count := by omega
  have text : stored tablet.disk data (start * sectorSize) sectors = data.take (stop * sectorSize) := by
    rw [stored_sectors long space, amount]
  have textLength : (data.take (stop * sectorSize)).length = stop * sectorSize := by
    rw [List.length_take, long]
    exact Nat.min_eq_left (Nat.mul_le_mul_right sectorSize less)
  have front : part other (start * sectorSize) ((start + stop) * sectorSize) =
      data.take (stop * sectorSize) := by
    have bound : start * sectorSize + stop * sectorSize ≤ (start + count) * sectorSize := by
      rw [← Nat.add_mul]
      exact Nat.mul_le_mul_right sectorSize (by omega)
    rw [← new, ← part_zero, part_part _ bound, Nat.add_zero, ← Nat.add_mul]
  have mixed : Mixed sectorSize one other
      (overwrite tablet.disk (start * sectorSize) (data.take (stop * sectorSize))) :=
    within.seen.write textLength (range_within sized (by omega)) front
  apply next stop
  · exact less
  · constructor
    · show (tablet.cache.write (overwrite tablet.disk (start * sectorSize)
        (stored tablet.disk data (start * sectorSize) sectors))).Within sectorSize one other
      rw [text]
      exact within.write mixed
    · rfl
    · intro failed
      show (tablet.failed || _) = true
      rw [failed, Bool.true_or]
  · show overwrite tablet.disk (start * sectorSize)
        (stored tablet.disk data (start * sectorSize) sectors) = _
    rw [text]
  · cases works with
    | false =>
        left
        constructor
        · rfl
        · exact Bool.or_true _
    | true =>
        right
        constructor
        · show some (stored tablet.disk data (start * sectorSize) sectors).length = _
          rw [text, textLength]
        · intro none
          show (tablet.failed ||
            !(true && !(stored tablet.disk data (start * sectorSize) sectors).isEmpty)) = true
          rw [text, none, Nat.zero_mul]
          exact Bool.or_true _

theorem wp_fullPwrite {fuel start count : Nat} {one other data : Bytes}
    {returned : Bool → Tablet → Prop} (enough : data.length ≤ fuel)
    (sized : one.length = diskBytes) (within : tablet.cache.Within sectorSize one other)
    (long : data.length = count * sectorSize) (room : start + count ≤ diskLbas)
    (new : part other (start * sectorSize) ((start + count) * sectorSize) = data)
    (asked : ∀ text first after, Held one other tablet after → text ≠ [] → start ≤ first →
      first * sectorSize + text.length ≤ (start + count) * sectorSize →
      during (.pwrite text (first * sectorSize)) after)
    (next : ∀ result after, Held one other tablet after → (result = false → after.failed = true) →
      (result = true → after.disk = overwrite tablet.disk (start * sectorSize) data) →
      returned result after) :
    wp (machine logical) during exited (fullPwrite fuel data (start * sectorSize)) returned
      tablet := by
  induction fuel generalizing start count data tablet with
  | zero =>
      have empty : data = [] := List.length_eq_zero_iff.mp (by omega)
      subst empty
      unfold fullPwrite
      apply next true tablet ⟨within, rfl, id⟩
      · intro impossible
        cases impossible
      · exact fun _ => (overwrite_nil _ _).symm
  | succ fuel ih =>
      cases data with
      | nil =>
          unfold fullPwrite
          apply next true tablet ⟨within, rfl, id⟩
          · intro impossible
            cases impossible
          · exact fun _ => (overwrite_nil _ _).symm
      | cons byte data =>
          unfold fullPwrite
          rw [Prog.bind_eq, wp_bind]
          apply wp_pwrite sized within long room new
          · apply asked _ start tablet ⟨within, rfl, id⟩ (List.cons_ne_nil _ _) (Nat.le_refl start)
            rw [long, ← Nat.add_mul]
          intro stop reply later less held disk outcome
          rcases outcome with ⟨none, failed⟩ | ⟨some, short⟩
          · rw [none]
            apply next false later held
            · exact fun _ => failed
            · intro impossible
              cases impossible
          rw [some]
          cases stop with
          | zero =>
              rw [Nat.zero_mul]
              apply next false later held
              · exact fun _ => short rfl
              · intro impossible
                cases impossible
          | succ stop =>
              have positive : (stop + 1) * sectorSize = (stop * sectorSize + 4095) + 1 := by
                rw [Nat.add_mul, Nat.one_mul, Nat.add_assoc]
                rfl
              rw [positive]
              show wp (machine logical) during exited
                (fullPwrite fuel ((byte :: data).drop (stop * sectorSize + 4095 + 1))
                  (start * sectorSize + (stop * sectorSize + 4095 + 1))) returned later
              rw [← positive, ← Nat.add_mul]
              have rest : ((byte :: data).drop ((stop + 1) * sectorSize)).length =
                  (count - (stop + 1)) * sectorSize := by
                rw [List.length_drop, long, Nat.sub_mul]
              have total : start + (stop + 1) + (count - (stop + 1)) = start + count := by omega
              refine ih ?_ held.within rest ?_ ?_ ?_ ?_
              · rw [List.length_drop]
                omega
              · omega
              · rw [total, ← new, part, part, List.drop_drop, ← Nat.add_mul]
              · intro text first final heldLater nonempty low high
                rw [total] at high
                exact asked text first final (held.trans heldLater) nonempty (by omega) high
              · intro result final heldLater failing done
                apply next result final (held.trans heldLater) failing
                intro whole
                have seenLength : tablet.disk.length = diskBytes := by
                  rw [Tablet.disk, within.seen.length, sized]
                have taken : ((byte :: data).take ((stop + 1) * sectorSize)).length =
                    (stop + 1) * sectorSize := by
                  rw [List.length_take, long]
                  exact Nat.min_eq_left (Nat.mul_le_mul_right sectorSize less)
                have joined := overwrite_join tablet.disk
                  ((byte :: data).take ((stop + 1) * sectorSize))
                  ((byte :: data).drop ((stop + 1) * sectorSize)) (start * sectorSize) (by
                    rw [taken, rest, ← Nat.add_mul, ← Nat.add_mul, total]
                    exact range_within seenLength room)
                rw [taken, ← Nat.add_mul, List.take_append_drop] at joined
                rw [done whole, disk, joined]

theorem wp_writeAt {start count : Nat} {one other data : Bytes} {returned : Bool → Tablet → Prop}
    (sized : one.length = diskBytes) (within : tablet.cache.Within sectorSize one other)
    (long : data.length = count * sectorSize) (room : start + count ≤ diskLbas)
    (new : part other (start * sectorSize) ((start + count) * sectorSize) = data)
    (asked : ∀ text first after, Held one other tablet after → text ≠ [] → start ≤ first →
      first * sectorSize + text.length ≤ (start + count) * sectorSize →
      during (.pwrite text (first * sectorSize)) after)
    (next : ∀ result after, Held one other tablet after → (result = false → after.failed = true) →
      (result = true → after.disk = overwrite tablet.disk (start * sectorSize) data) →
      returned result after) :
    wp (machine logical) during exited (writeAt data (start * sectorSize)) returned tablet :=
  wp_fullPwrite (Nat.le_refl data.length) sized within long room new asked next

end Calls

end Liuqin.Slot
