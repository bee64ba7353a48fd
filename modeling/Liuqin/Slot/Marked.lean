/-
Every run of the slot tool.

Whatever the calls do, the disk is at every moment between two of three states:
as it was, with the new backup, and finished.  A run that ends with 0 has finished
it; any other has met a failing call or a disk it does not accept.
-/

import Liuqin.Slot.Marking

namespace Liuqin.Slot

open Liuqin.Library Liuqin.Library.Bytes Liuqin.Library.Program Liuqin.Library.Barrier

/-- Where the disk is on its way. -/
def Sound (slot : Slot) (disk : Bytes) (cache : Cached) : Prop :=
  cache = Cached.settled disk ∨ ∃ marking : Marking slot disk,
    cache.Within sectorSize disk marking.half ∨
      cache.Within sectorSize marking.half marking.done

/-- A write is in the first sectors or behind the last usable one. -/
def Spares (backup : GptCopy) (offset length : Nat) : Prop :=
  sectorSize ≤ offset ∧ offset + length ≤ firstUsable * sectorSize ∨
    (le64 backup.header 48 + 1) * sectorSize ≤ offset ∧ offset + length ≤ diskBytes

/-- What holds whenever a call is made. -/
structure Guarded (slot : Slot) (disk : Bytes) (operation : Op) (tablet : Tablet) : Prop where
  sound : Sound slot disk tablet.cache
  spares : ∀ data offset, operation = .pwrite data offset → data ≠ [] ∧
    ∃ marking : Marking slot disk, Spares marking.backup offset data.length
  reads : ∀ length offset, operation = .pread length offset →
    0 < length ∧ offset + length ≤ tablet.disk.length

/-- The device can be used; the flags of a test image do not matter. -/
def Ready (testing : Bool) (logical : Nat) (tablet : Tablet) : Prop :=
  testing = false → logical = sectorSize ∧ tablet.ro = true

/-- The run did what it was asked to. -/
def Finished (slot : Slot) (disk : Bytes) : Operation → Cached → Prop
  | .mark, cache => ∃ marking : Marking slot disk, cache = Cached.settled marking.done
  | .check, cache => cache = Cached.settled disk ∧ ∃ marking : Marking slot disk,
      successful (marking.primary.attributes marking.own) = true

/-- The disk is one the tool accepts for this. -/
def Acceptable (slot : Slot) (disk : Bytes) : Operation → Prop
  | .mark => Nonempty (Marking slot disk)
  | .check => ∃ marking : Marking slot disk,
      successful (marking.primary.attributes marking.own) = true

section Run

variable {logical : Nat} {exited : Nat → Tablet → Prop} {slot : Slot} {disk : Bytes}
  {tablet : Tablet}

theorem guarded_bears {cache : Cached} (sound : Sound slot disk cache) :
    Bears (Guarded slot disk) cache := by
  constructor
  · intro operation after same other
    constructor
    · rw [same]
      exact sound
    · intro data offset write
      rw [write] at other
      cases other
    · intro length offset read
      rw [read] at other
      cases other
  · intro length offset after same positive room
    constructor
    · rw [same]
      exact sound
    · exact fun _ _ impossible => nomatch impossible
    · intro otherLength otherOffset read
      cases read
      rw [Tablet.disk, same]
      exact ⟨positive, room⟩

theorem guarded_write {cache : Cached} (sound : Sound slot disk cache) {marking : Marking slot disk}
    {text : Bytes} {offset : Nat} (nonempty : text ≠ [])
    (spares : Spares marking.backup offset text.length) {after : Tablet}
    (same : after.cache = cache) : Guarded slot disk (.pwrite text offset) after := by
  constructor
  · rw [same]
    exact sound
  · intro data other write
    cases write
    exact ⟨nonempty, marking, spares⟩
  · exact fun _ _ impossible => nomatch impossible

/-! ### Writing the copies -/

section Copy

variable {during : Op → Tablet → Prop} {old : Bytes} {copy : GptCopy}

theorem copy_entries_new (placed : copy.Placed) (sized : old.length = diskBytes) :
    part (putCopy old copy) (copy.entriesLba * sectorSize)
      ((copy.entriesLba + entriesSectors) * sectorSize) = copy.entries :=
  (putCopy_stands placed sized).entries

/-- A copy is written whole and settled, or some call failed half-way. -/
theorem wp_writeCopy {returned : Bool → Tablet → Prop} (placed : copy.Placed)
    (sized : old.length = diskBytes) (settled : tablet.cache = Cached.settled old)
    (sync : ∀ after, after.cache.Within sectorSize old (putCopy old copy) → during .fsync after)
    (entries : ∀ text first after, after.cache.Within sectorSize old (putCopy old copy) →
      text ≠ [] → copy.entriesLba ≤ first →
      first * sectorSize + text.length ≤ (copy.entriesLba + entriesSectors) * sectorSize →
      during (.pwrite text (first * sectorSize)) after)
    (header : ∀ text first after, after.cache.Within sectorSize old (putCopy old copy) →
      text ≠ [] → copy.headerLba ≤ first →
      first * sectorSize + text.length ≤ (copy.headerLba + 1) * sectorSize →
      during (.pwrite text (first * sectorSize)) after)
    (next : ∀ result after, after.ro = tablet.ro →
      (tablet.failed = true → after.failed = true) →
      (result = false → after.failed = true ∧ after.cache.Within sectorSize old (putCopy old copy)) →
      (result = true → after.cache = Cached.settled (putCopy old copy)) → returned result after) :
    wp (machine logical) during exited (writeCopy copy) returned tablet := by
  have stands := putCopy_stands placed sized
  have start : tablet.cache.Within sectorSize old (putCopy old copy) := by
    rw [settled]
    apply Cached.within_settled
    apply (Mixed.old _).1
    rw [putCopy_length placed sized, sized]
  unfold writeCopy
  rw [Prog.bind_eq, wp_bind]
  apply wp_writeAt sized start (entries_sectors placed.whole) placed.entries stands.entries
  · intro text first after held nonempty low high
    exact entries text first after held.within nonempty low high
  intro wroteEntries one heldOne failedOne doneOne
  cases wroteEntries with
  | false =>
      apply next false one heldOne.ro heldOne.failed
      · exact fun _ => ⟨failedOne rfl, heldOne.within⟩
      · intro impossible
        cases impossible
  | true =>
      show wp (machine logical) during exited (Prog.bind _ _) returned one
      rw [wp_bind]
      apply wp_writeAt sized heldOne.within (header_sectors placed.whole) placed.header
        stands.header
      · intro text first after held nonempty low high
        exact header text first after held.within nonempty low high
      intro wroteHeader two heldTwo failedTwo doneTwo
      have ro := heldTwo.ro.trans heldOne.ro
      have failed := fun failing => heldTwo.failed (heldOne.failed failing)
      cases wroteHeader with
      | false =>
          apply next false two ro failed
          · exact fun _ => ⟨failedTwo rfl, heldTwo.within⟩
          · intro impossible
            cases impossible
      | true =>
          show wp (machine logical) during exited (Prog.perform Op.fsync) returned two
          apply wp_call
          · exact sync two heldTwo.within
          intro works
          have seen : two.disk = putCopy old copy := by
            have before : tablet.disk = old := by
              rw [Tablet.disk, settled]
              rfl
            rw [doneTwo rfl, doneOne rfl, before]
            rfl
          cases works with
          | false =>
              apply next false
              · exact ro
              · intro _
                exact Bool.or_true _
              · exact fun _ => ⟨Bool.or_true _, heldTwo.within⟩
              · intro impossible
                cases impossible
          | true =>
              apply next true
              · exact ro
              · intro failing
                show (two.failed || !true) = true
                rw [failed failing, Bool.true_or]
              · intro impossible
                cases impossible
              · intro _
                show two.cache.barrier = _
                rw [Cached.barrier]
                exact congrArg Cached.settled seen

end Copy

/-! ### Reading them back -/

/-- On the finished disk the copies are found good, or some call failed. -/
theorem wp_verifyCopies {returned : Bool → Tablet → Prop} (marking : Marking slot disk)
    (settled : tablet.cache = Cached.settled marking.done)
    (bears : Bears (Guarded slot disk) tablet.cache)
    (next : ∀ result after, Seen tablet after → (result = false → after.failed = true) →
      returned result after) :
    wp (machine logical) (Guarded slot disk) exited
      (verifyCopies diskLbas slot marking.attributes) returned tablet := by
  have seenDisk : tablet.disk = marking.done := by
    rw [Tablet.disk, settled]
    rfl
  have primaryThere := marking.loaded_newPrimary marking.done_primary
  have backupThere := marking.loaded_newBackup marking.done_backup
  have found : findBoot marking.newPrimary slot = some marking.own := by
    rw [findBoot_same marking.newPrimary_names]
    exact (examine_some marking.examined).2.2.2.1
  have backupFound : findBoot marking.newBackup slot = some marking.own := by
    rw [findBoot_entries marking.entries_same, found]
  unfold verifyCopies
  rw [Prog.bind_eq, wp_bind]
  apply wp_loadGptCopy (Or.inl rfl) bears (by rw [seenDisk, marking.done_length])
  intro primary one seenOne missing loaded
  rw [seenDisk] at missing loaded
  cases primary with
  | none =>
      apply next false one seenOne
      intro _
      rcases missing rfl with failed | absent
      · exact failed
      · exact absurd primaryThere (absent _)
  | some primary =>
      have samePrimary := (loaded primary rfl).unique primaryThere
      subst samePrimary
      show wp (machine logical) _ exited (Prog.bind _ _) returned one
      rw [wp_bind, lastLba]
      apply wp_loadGptCopy (Or.inr rfl)
      · rw [seenOne.cache]
        exact bears
      · rw [seenOne.disk, seenDisk, marking.done_length]
      intro backup two seenTwo missingTwo loadedTwo
      rw [seenOne.disk, seenDisk] at missingTwo loadedTwo
      have seen := seenOne.trans seenTwo
      cases backup with
      | none =>
          apply next false two seen
          intro _
          rcases missingTwo rfl with failed | absent
          · exact failed
          · exact absurd backupThere (absent _)
      | some backup =>
          have sameBackup := (loadedTwo backup rfl).unique backupThere
          subst sameBackup
          show wp (machine logical) _ exited (if _ then _ else _) returned two
          rw [if_pos marking.entries_same.symm, found, backupFound]
          apply next _ two seen
          intro wrong
          change (marking.newPrimary.attributes marking.own == marking.attributes &&
            marking.newBackup.attributes marking.own == marking.attributes) = false at wrong
          rw [marking.newPrimary_attributes, marking.newBackup_attributes, beq_self_eq_true] at wrong
          cases wrong

/-! ### The writes of one run -/

theorem spares_backup (marking : Marking slot disk) {text : Bytes} {first : Nat}
    (inside : (marking.backup.entriesLba ≤ first ∧
        first * sectorSize + text.length ≤
          (marking.backup.entriesLba + entriesSectors) * sectorSize) ∨
      (marking.backup.headerLba ≤ first ∧
        first * sectorSize + text.length ≤ (marking.backup.headerLba + 1) * sectorSize)) :
    Spares marking.backup (first * sectorSize) text.length := by
  obtain ⟨header, _, array, stop⟩ := marking.back_lbas
  have many := diskLbas_eq
  have bytes : diskLbas * sectorSize = diskBytes := by decide
  right
  rcases inside with ⟨low, high⟩ | ⟨low, high⟩
  · constructor
    · exact Nat.mul_le_mul_right sectorSize (by omega)
    · have top : (marking.backup.entriesLba + entriesSectors) * sectorSize ≤
          diskLbas * sectorSize := Nat.mul_le_mul_right sectorSize (by omega)
      omega
  · constructor
    · exact Nat.mul_le_mul_right sectorSize (by omega)
    · have top : (marking.backup.headerLba + 1) * sectorSize ≤ diskLbas * sectorSize :=
        Nat.mul_le_mul_right sectorSize (by omega)
      omega

theorem spares_primary (marking : Marking slot disk) {text : Bytes} {first : Nat}
    (inside : (marking.primary.entriesLba ≤ first ∧
        first * sectorSize + text.length ≤
          (marking.primary.entriesLba + entriesSectors) * sectorSize) ∨
      (marking.primary.headerLba ≤ first ∧
        first * sectorSize + text.length ≤ (marking.primary.headerLba + 1) * sectorSize)) :
    Spares marking.backup (first * sectorSize) text.length := by
  obtain ⟨header, low, array⟩ := marking.front_lbas
  have six : firstUsable = 6 := rfl
  have one : 1 * sectorSize = sectorSize := Nat.one_mul _
  left
  rcases inside with ⟨lowFirst, high⟩ | ⟨lowFirst, high⟩
  · constructor
    · rw [← one]
      exact Nat.mul_le_mul_right sectorSize (by omega)
    · have top : (marking.primary.entriesLba + entriesSectors) * sectorSize ≤
          firstUsable * sectorSize := Nat.mul_le_mul_right sectorSize array
      omega
  · constructor
    · rw [← one]
      exact Nat.mul_le_mul_right sectorSize (by omega)
    · have top : (marking.primary.headerLba + 1) * sectorSize ≤ firstUsable * sectorSize :=
        Nat.mul_le_mul_right sectorSize (by omega)
      omega

/-- Both copies are written, or some call failed on the way. -/
theorem wp_writeCopies {returned : Bool → Tablet → Prop} (marking : Marking slot disk)
    (settled : tablet.cache = Cached.settled disk)
    (next : ∀ result after, after.ro = tablet.ro → Sound slot disk after.cache →
      (result = false → after.failed = true) →
      (result = true → after.cache = Cached.settled marking.done) → returned result after) :
    wp (machine logical) (Guarded slot disk) exited
      (writeCopies diskLbas slot marking.newPrimary marking.newBackup marking.attributes)
      returned tablet := by
  have firstSound : ∀ cache : Cached, cache.Within sectorSize disk marking.half →
      Sound slot disk cache := fun cache within => Or.inr ⟨marking, Or.inl within⟩
  have secondSound : ∀ cache : Cached, cache.Within sectorSize marking.half marking.done →
      Sound slot disk cache := fun cache within => Or.inr ⟨marking, Or.inr within⟩
  unfold writeCopies
  rw [Prog.bind_eq, wp_bind]
  apply wp_writeCopy marking.newBackup_placed marking.sized settled
  · intro after within
    exact (guarded_bears (firstSound _ within)).calls _ after rfl rfl
  · intro text first after within nonempty low high
    exact guarded_write (firstSound _ within) nonempty
      (spares_backup marking (Or.inl ⟨low, high⟩)) rfl
  · intro text first after within nonempty low high
    exact guarded_write (firstSound _ within) nonempty
      (spares_backup marking (Or.inr ⟨low, high⟩)) rfl
  intro wroteBackup one roOne failedOne stoppedOne doneOne
  cases wroteBackup with
  | false =>
      obtain ⟨failed, within⟩ := stoppedOne rfl
      apply next false one roOne (firstSound _ within)
      · exact fun _ => failed
      · exact fun impossible => nomatch impossible
  | true =>
      show wp (machine logical) _ exited (Prog.bind _ _) returned one
      rw [wp_bind]
      apply wp_writeCopy marking.newPrimary_placed marking.half_length (doneOne rfl)
      · intro after within
        exact (guarded_bears (secondSound _ within)).calls _ after rfl rfl
      · intro text first after within nonempty low high
        exact guarded_write (secondSound _ within) nonempty
          (spares_primary marking (Or.inl ⟨low, high⟩)) rfl
      · intro text first after within nonempty low high
        exact guarded_write (secondSound _ within) nonempty
          (spares_primary marking (Or.inr ⟨low, high⟩)) rfl
      intro wrotePrimary two roTwo failedTwo stoppedTwo doneTwo
      have ro := roTwo.trans roOne
      cases wrotePrimary with
      | false =>
          obtain ⟨failed, within⟩ := stoppedTwo rfl
          apply next false two ro (secondSound _ within)
          · exact fun _ => failed
          · exact fun impossible => nomatch impossible
      | true =>
          have done : two.cache = Cached.settled marking.done := doneTwo rfl
          have sound : Sound slot disk two.cache := by
            rw [done]
            apply secondSound
            apply Cached.within_settled
            apply (Mixed.old _).2
            rw [marking.done_length, marking.half_length]
          show wp (machine logical) _ exited (verifyCopies _ _ _) returned two
          apply wp_verifyCopies marking done (guarded_bears sound)
          intro result after seen failing
          apply next result after
          · rw [seen.ro, ro]
          · rw [seen.cache]
            exact sound
          · exact failing
          · intro _
            rw [seen.cache, done]

/-! ### From the start to the label out -/

/-- What is known at the label out. -/
structure Left (testing : Bool) (slot : Slot) (operation : Operation) (start : Tablet)
    (ready acceptable : Prop) (ending : Ending) (after : Tablet) : Prop where
  sound : Sound slot start.disk after.cache
  success : ending.ok = true → Finished slot start.disk operation after.cache
  refusal : ending.ok = false → after.failed = true ∨ ¬(ready ∧ acceptable)
  kept : ending.madeRw = false → after.ro = start.ro ∨ (after.failed = true ∧ ending.ok = false)
  opened : ending.madeRw = true → testing = false ∧ start.ro = true
  shut : ending.opened = false → ending.ok = false
  ready : ending.ok = true → ready

/-- A refusal before anything was written. -/
theorem left_refused {testing : Bool} {operation : Operation} {start : Tablet}
    {ready acceptable : Prop} (seen : Seen start tablet)
    (settled : start.cache = Cached.settled start.disk)
    (refusal : tablet.failed = true ∨ ¬(ready ∧ acceptable)) (opened : Bool) :
    Left testing slot operation start ready acceptable
      { opened := opened, madeRw := false, ok := false } tablet := by
  constructor
  · left
    rw [seen.cache]
    exact settled
  · exact fun impossible => nomatch impossible
  · exact fun _ => refusal
  · exact fun _ => Or.inl seen.ro
  · exact fun impossible => nomatch impossible
  · exact fun _ => rfl
  · exact fun impossible => nomatch impossible

theorem wp_measure {testing : Bool} {returned : Option Nat → Tablet → Prop} {cache : Cached}
    (bears : Bears (Guarded slot disk) cache) (same : tablet.cache = cache)
    (next : ∀ result after, Seen tablet after →
      (result = none → after.failed = true ∨
        ¬((testing = false → logical = sectorSize ∧ tablet.ro = true) ∧
          tablet.disk.length = diskBytes)) →
      (∀ bytes, result = some bytes → bytes = tablet.disk.length ∧
        (testing = false → logical = sectorSize ∧ tablet.ro = true)) →
      returned result after) :
    wp (machine logical) (Guarded slot disk) exited (measure testing) returned tablet := by
  unfold measure
  cases testing with
  | true =>
      rw [if_pos rfl, Prog.bind_eq, wp_bind]
      apply wp_call
      · exact bears.calls _ tablet same rfl
      intro _
      apply next _ tablet (Seen.refl tablet)
      · exact fun impossible => nomatch impossible
      · intro bytes equal
        cases equal
        exact ⟨rfl, fun impossible => nomatch impossible⟩
  | false =>
      rw [if_neg (by decide), Prog.bind_eq, wp_bind]
      apply wp_call
      · exact bears.calls _ tablet same rfl
      intro works
      have seen := seen_note tablet works
      cases works with
      | false =>
          apply next none _ seen
          · exact fun _ => Or.inl (note_failed tablet)
          · exact fun _ impossible => nomatch impossible
      | true =>
          show returned (if _ then _ else _) (tablet.note true)
          apply next _ _ seen
          · intro refused
            right
            rintro ⟨usable, sized⟩
            obtain ⟨sector, ro⟩ := usable rfl
            have fits : ¬(tablet.disk.length ≠ diskBytes ∨ logical ≠ sectorSize ∨
                tablet.ro ≠ true) := by
              rw [not_or, not_or, not_not, not_not, not_not]
              exact ⟨sized, sector, ro⟩
            rw [if_neg fits] at refused
            cases refused
          · intro bytes measured
            split at measured
            · cases measured
            · rename_i fits
              rw [not_or, not_or, not_not, not_not, not_not] at fits
              cases measured
              exact ⟨rfl, fun _ => fits.2⟩

theorem wp_reopen {testing : Bool} {returned : Bool × Bool × Bool → Tablet → Prop}
    (bears : Bears (Guarded slot disk) tablet.cache)
    (next : ∀ writable opened madeRw after, after.cache = tablet.cache →
      (writable = false → after.failed = true) → (writable = true → opened = true) →
      (madeRw = false → after.ro = tablet.ro ∨ (after.failed = true ∧ writable = false)) →
      (madeRw = true → testing = false) → returned (writable, opened, madeRw) after) :
    wp (machine logical) (Guarded slot disk) exited (reopen testing) returned tablet := by
  unfold reopen
  cases testing with
  | true =>
      rw [if_pos rfl, Prog.bind_eq, wp_bind]
      apply wp_call
      · exact bears.calls _ tablet rfl rfl
      intro works
      apply next works works false (tablet.note works) rfl
      · intro failing
        cases failing
        exact note_failed tablet
      · exact id
      · exact fun _ => Or.inl rfl
      · exact fun impossible => nomatch impossible
  | false =>
      rw [if_neg (by decide), Prog.bind_eq, wp_bind]
      apply wp_call
      · exact bears.calls _ tablet rfl rfl
      rintro ⟨works, effect⟩
      cases works with
      | false =>
          show returned (false, true, false) (react logical (.roSet false) (false, effect) tablet).2
          apply next
          · rfl
          · exact fun _ => Bool.or_true _
          · exact fun impossible => nomatch impossible
          · exact fun _ => Or.inr ⟨Bool.or_true _, rfl⟩
          · exact fun impossible => nomatch impossible
      | true =>
          show wp (machine logical) _ exited (Prog.bind _ _) returned _
          rw [wp_bind]
          apply wp_call
          · exact bears.calls _ _ rfl rfl
          intro opens
          show returned (opens, opens, true) ((react logical (.roSet false) (true, effect)
            tablet).2.note opens)
          apply next
          · rfl
          · intro failing
            rw [failing]
            exact Bool.or_true _
          · exact id
          · exact fun impossible => nomatch impossible
          · exact fun _ => rfl

theorem wp_work {testing : Bool} {operation : Operation} {start : Tablet}
    {returned : Ending → Tablet → Prop} (settled : start.cache = Cached.settled start.disk)
    (next : ∀ ending after, Left testing slot operation start (Ready testing logical start)
      (Acceptable slot start.disk operation) ending after → returned ending after) :
    wp (machine logical) (Guarded slot start.disk) exited (work testing operation slot) returned
      start := by
  have untouched : Sound slot start.disk start.cache := Or.inl settled
  have bears := guarded_bears untouched
  have calls : ∀ {after : Tablet} (operation : Op), Seen start after →
      operation.transfers = false → Guarded slot start.disk operation after :=
    fun _ seen other => bears.calls _ _ seen.cache other
  unfold work
  rw [Prog.bind_eq, wp_bind]
  apply wp_call
  · exact calls _ (Seen.refl start) rfl
  intro stands
  have seenOne := seen_note start stands
  cases stands with
  | false => exact next _ _ (left_refused seenOne settled (Or.inl (note_failed start)) false)
  | true =>
  show wp (machine logical) _ exited (Prog.bind _ _) returned (start.note true)
  rw [wp_bind]
  apply wp_call
  · exact calls _ seenOne rfl
  intro opens
  have seenTwo := seenOne.trans (seen_note (start.note true) opens)
  cases opens with
  | false => exact next _ _ (left_refused seenTwo settled (Or.inl (note_failed _)) false)
  | true =>
  show wp (machine logical) _ exited (Prog.bind _ _) returned ((start.note true).note true)
  rw [wp_bind]
  apply wp_measure bears seenTwo.cache
  intro measured three seenThree unmeasured size
  have seenThree := seenTwo.trans seenThree
  cases measured with
  | none =>
      apply next _ _ (left_refused seenThree settled _ true)
      rcases unmeasured rfl with failed | unusable
      · exact Or.inl failed
      · right
        rintro ⟨ready, acceptable⟩
        apply unusable
        constructor
        · exact ready
        · cases operation with
          | mark => exact acceptable.some.sized
          | check => exact acceptable.choose.sized
  | some bytes =>
  obtain ⟨same, usable⟩ := size bytes rfl
  change bytes = start.disk.length at same
  subst same
  show wp (machine logical) _ exited (if _ then _ else _) returned three
  by_cases odd : start.disk.length ≠ diskBytes ∨ start.disk.length % sectorSize ≠ 0
  · rw [if_pos odd]
    apply next _ _ (left_refused seenThree settled _ true)
    right
    rintro ⟨_, acceptable⟩
    have sized : start.disk.length = diskBytes := by
      cases operation with
      | mark => exact acceptable.some.sized
      | check => exact acceptable.choose.sized
    rcases odd with other | rest
    · exact other sized
    · rw [sized] at rest
      exact rest (by decide)
  rw [if_neg odd]
  rw [not_or, not_not, not_not] at odd
  have sized := odd.1
  have lbas : start.disk.length / sectorSize = diskLbas := by rw [sized, diskLbas]
  rw [lbas]
  show wp (machine logical) _ exited (Prog.bind _ _) returned three
  rw [wp_bind]
  apply wp_loadGptCopy (Or.inl rfl)
  · rw [seenThree.cache]
    exact bears
  · rw [seenThree.disk, sized]
  intro primary four seenFour missing loaded
  rw [seenThree.disk] at missing loaded
  have seenFour := seenThree.trans seenFour
  -- an accepted disk has both copies
  have hasMarking : Acceptable slot start.disk operation → Nonempty (Marking slot start.disk) := by
    intro acceptable
    cases operation with
    | mark => exact acceptable
    | check => exact ⟨acceptable.choose⟩
  cases primary with
  | none =>
      apply next _ _ (left_refused seenFour settled _ true)
      rcases missing rfl with failed | absent
      · exact Or.inl failed
      · right
        rintro ⟨_, acceptable⟩
        obtain ⟨marking⟩ := hasMarking acceptable
        exact absent _ marking.first
  | some primary =>
  have first := loaded primary rfl
  show wp (machine logical) _ exited (Prog.bind _ _) returned four
  rw [wp_bind, lastLba]
  apply wp_loadGptCopy (Or.inr rfl)
  · rw [seenFour.cache]
    exact bears
  · rw [seenFour.disk, sized]
  intro backup five seenFive missingTwo loadedTwo
  rw [seenFour.disk] at missingTwo loadedTwo
  have seenFive := seenFour.trans seenFive
  cases backup with
  | none =>
      apply next _ _ (left_refused seenFive settled _ true)
      rcases missingTwo rfl with failed | absent
      · exact Or.inl failed
      · right
        rintro ⟨_, acceptable⟩
        obtain ⟨marking⟩ := hasMarking acceptable
        exact absent _ marking.second
  | some backup =>
  have second := loadedTwo backup rfl
  cases examined : examine slot primary backup with
  | none =>
      dsimp only
      rw [examined]
      apply next _ _ (left_refused seenFive settled _ true)
      right
      rintro ⟨_, acceptable⟩
      obtain ⟨marking⟩ := hasMarking acceptable
      have passed := marking.examined
      rw [marking.first.unique first, marking.second.unique second, examined] at passed
      cases passed
  | some found =>
  obtain ⟨own, copied⟩ := found
  have copy := (examine_some examined).1
  subst copy
  let marking : Marking slot start.disk :=
    { primary := primary
      backup := backup
      own := copied
      sized := sized
      first := first
      second := second
      examined := examined }
  dsimp only
  rw [examined]
  cases operation with
  | check =>
      apply next _ five
      constructor
      · left
        rw [seenFive.cache]
        exact settled
      · intro ok
        constructor
        · rw [seenFive.cache]
          exact settled
        · exact ⟨marking, ok⟩
      · intro wrong
        right
        rintro ⟨_, other, done⟩
        rw [other.unique marking] at done
        exact absurd (wrong.symm.trans done) (by decide)
      · exact fun _ => Or.inl seenFive.ro
      · exact fun impossible => nomatch impossible
      · exact fun impossible => nomatch impossible
      · exact fun _ => usable
  | mark =>
  show wp (machine logical) _ exited (Prog.bind _ _) returned five
  rw [wp_bind]
  apply wp_reopen
  · rw [seenFive.cache]
    exact bears
  intro writable opened madeRw six cacheSix notWritable isOpen kept opening
  have settledSix : six.cache = Cached.settled start.disk := by
    rw [cacheSix, seenFive.cache]
    exact settled
  have wasRo : testing = false → start.ro = true := fun real => (usable real).2
  cases writable with
  | false =>
      apply next _ six
      constructor
      · exact Or.inl settledSix
      · exact fun impossible => nomatch impossible
      · exact fun _ => Or.inl (notWritable rfl)
      · exact fun _ => Or.inr ⟨notWritable rfl, rfl⟩
      · intro made
        exact ⟨opening made, wasRo (opening made)⟩
      · exact fun _ => rfl
      · exact fun impossible => nomatch impossible
  | true =>
      show wp (machine logical) _ exited (Prog.bind _ _) returned six
      rw [wp_bind]
      apply wp_writeCopies marking settledSix
      intro ok seven ro sound failing done
      apply next _ seven
      constructor
      · exact sound
      · intro good
        exact ⟨marking, done good⟩
      · exact fun wrong => Or.inl (failing wrong)
      · intro unmade
        left
        rcases kept unmade with same | ⟨_, impossible⟩
        · rw [ro, same, seenFive.ro]
        · cases impossible
      · intro made
        exact ⟨opening made, wasRo (opening made)⟩
      · intro closed
        rw [isOpen rfl] at closed
        cases closed
      · exact fun _ => usable

/-! ### The whole tool -/

/-- What holds where the tool ends. -/
structure Ended (testing : Bool) (logical : Nat) (slot : Slot) (operation : Operation)
    (start : Tablet) (status : Nat) (after : Tablet) : Prop where
  sound : Sound slot start.disk after.cache
  ends : status = 0 ∨ status = 1
  success : status = 0 → Finished slot start.disk operation after.cache
  refusal : status = 1 → after.failed = true ∨
    ¬(Ready testing logical start ∧ Acceptable slot start.disk operation)
  sealed : status = 0 → after.ro = start.ro
  restored : after.failed = false → after.ro = start.ro
  ready : status = 0 → Ready testing logical start

theorem wp_conclude {testing : Bool} {operation : Operation} {start : Tablet}
    {opened madeRw ok isOpen : Bool} {after : Tablet}
    (left : Left testing slot operation start (Ready testing logical start)
      (Acceptable slot start.disk operation) { opened := opened, madeRw := madeRw, ok := ok } tablet)
    (seen : Seen tablet after)
    (closed : isOpen = false → madeRw = true → after.failed = true ∧ ok = false) :
    wp (machine logical) (Guarded slot start.disk) (Ended testing logical slot operation start)
      (conclude testing isOpen madeRw ok) (fun _ _ => False) after := by
  have bears := guarded_bears left.sound
  have sound : Sound slot start.disk after.cache := by
    rw [seen.cache]
    exact left.sound
  have refusal : ok = false → after.failed = true ∨
      ¬(Ready testing logical start ∧ Acceptable slot start.disk operation) :=
    fun wrong => (left.refusal wrong).imp_left seen.failed
  unfold conclude
  by_cases seals : isOpen = true ∧ testing = false ∧ madeRw = true
  · obtain ⟨real, wasRo⟩ := left.opened seals.2.2
    rw [if_pos seals, Prog.bind_eq, wp_bind]
    apply wp_call
    · exact bears.calls _ after seen.cache rfl
    rintro ⟨works, effect⟩
    show Ended testing logical slot operation start (if works = true ∧ ok = true then 0 else 1) _
    constructor
    · exact sound
    · split
      · exact Or.inl rfl
      · exact Or.inr rfl
    · intro zero
      split at zero
      · rename_i both
        have done := left.success both.2
        rw [← seen.cache] at done
        exact done
      · cases zero
    · intro one
      split at one
      · cases one
      · rename_i notBoth
        cases works with
        | false => exact Or.inl (Bool.or_true _)
        | true =>
            have wrong : ok = false := by
              cases ok with
              | false => rfl
              | true => exact absurd ⟨rfl, rfl⟩ notBoth
            rcases refusal wrong with failed | other
            · left
              show (after.failed || !true) = true
              rw [failed, Bool.true_or]
            · exact Or.inr other
    · intro zero
      split at zero
      · rename_i both
        rw [wasRo]
        show (if (works || effect) = true then true else after.ro) = true
        rw [both.1, Bool.true_or, if_pos rfl]
      · cases zero
    · intro unfailed
      cases works with
      | false =>
          change (after.failed || !false) = false at unfailed
          rw [Bool.not_false, Bool.or_true] at unfailed
          cases unfailed
      | true =>
          rw [wasRo]
          rfl
    · intro zero
      split at zero
      · rename_i both
        exact left.ready both.2
      · cases zero
  · have kept : after.ro = start.ro ∨ (after.failed = true ∧ ok = false) := by
      cases made : madeRw with
      | false =>
          rcases left.kept made with same | ⟨failed, wrong⟩
          · exact Or.inl (seen.ro.trans same)
          · exact Or.inr ⟨seen.failed failed, wrong⟩
      | true =>
          cases isOpen with
          | true => exact absurd ⟨rfl, (left.opened made).1, made⟩ seals
          | false => exact Or.inr (closed rfl made)
    rw [if_neg seals]
    show Ended testing logical slot operation start (if ok = true then 0 else 1) after
    constructor
    · exact sound
    · split
      · exact Or.inl rfl
      · exact Or.inr rfl
    · intro zero
      split at zero
      · rename_i good
        rw [seen.cache]
        exact left.success good
      · cases zero
    · intro one
      split at one
      · cases one
      · rename_i wrong
        exact refusal (Bool.eq_false_iff.mpr wrong)
    · intro zero
      split at zero
      · rename_i good
        rcases kept with same | ⟨_, wrong⟩
        · exact same
        · rw [good] at wrong
          cases wrong
      · cases zero
    · intro unfailed
      rcases kept with same | ⟨failed, _⟩
      · exact same
      · rw [failed] at unfailed
        cases unfailed
    · intro zero
      split at zero
      · rename_i good
        exact left.ready good
      · cases zero

/-- What the tool finished it accepted. -/
theorem Ended.acceptable {testing : Bool} {operation : Operation} {start after : Tablet}
    (ended : Ended testing logical slot operation start 0 after) :
    Acceptable slot start.disk operation := by
  have finished := ended.success rfl
  cases operation with
  | mark => exact ⟨finished.choose⟩
  | check => exact finished.2

theorem wp_leave {testing : Bool} {operation : Operation} {start : Tablet} {ending : Ending}
    (left : Left testing slot operation start (Ready testing logical start)
      (Acceptable slot start.disk operation) ending tablet) :
    wp (machine logical) (Guarded slot start.disk) (Ended testing logical slot operation start)
      (leave testing ending) (fun _ _ => False) tablet := by
  have bears := guarded_bears left.sound
  unfold leave
  rw [Prog.bind_eq, wp_bind]
  by_cases again : ending.opened = false ∧ ending.madeRw = true
  · rw [if_pos again]
    apply wp_call
    · exact bears.calls _ tablet rfl rfl
    intro works
    apply wp_conclude left (seen_note tablet works)
    intro closed _
    constructor
    · rw [show works = false from closed]
      exact note_failed tablet
    · exact left.shut again.1
  · rw [if_neg again]
    apply wp_conclude left (Seen.refl tablet)
    intro closed made
    exact absurd ⟨closed, made⟩ again

theorem wp_markSlot {testing : Bool} {operation : Operation} {start : Tablet}
    (settled : start.cache = Cached.settled start.disk) :
    wp (machine logical) (Guarded slot start.disk) (Ended testing logical slot operation start)
      (markSlot testing operation slot) (fun _ _ => False) start := by
  unfold markSlot
  rw [Prog.bind_eq, wp_bind]
  apply wp_work settled
  intro ending after left
  exact wp_leave left

end Run

end Liuqin.Slot
