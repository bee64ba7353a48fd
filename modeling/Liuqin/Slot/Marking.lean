/-
A disk that can be marked, and the disk it becomes.

The tool writes the backup copy first.  Neither write touches the other copy, and
on the finished disk both copies are valid and have the same entries.
-/

import Liuqin.Slot.Calls

namespace Liuqin.Slot

open Liuqin.Library Liuqin.Library.Bytes Liuqin.Library.Program Liuqin.Library.Barrier

/-! ### Loading -/

section Loading

variable {disk : Bytes} {headerLba : Nat} {stale : Bool}

theorem header_range (lba : Nat) : lba * sectorSize + sectorSize = (lba + 1) * sectorSize := by
  rw [Nat.add_mul, Nat.one_mul]

theorem entries_range (lba : Nat) :
    lba * sectorSize + entriesBytes = (lba + entriesSectors) * sectorSize := by
  rw [Nat.add_mul]
  rfl

/-- A disk has at most one copy in a place. -/
theorem Loaded.unique {one other : GptCopy} {fresh : Bool} (first : Loaded disk headerLba stale one)
    (second : Loaded disk headerLba fresh other) : one = other := by
  have header : one.header = other.header := by
    rw [← first.stands.header, ← second.stands.header, first.lba, second.lba]
  have array : one.entriesLba = other.entriesLba := by rw [first.array, second.array, header]
  have entries : one.entries = other.entries := by
    rw [← first.stands.entries, ← second.stands.entries, array]
  have lba : one.headerLba = other.headerLba := by rw [first.lba, second.lba]
  cases one
  cases other
  cases header
  cases array
  cases entries
  cases lba
  rfl

theorem Loaded.lax {copy : GptCopy} (loaded : Loaded disk headerLba false copy) :
    Loaded disk headerLba true copy :=
  ⟨loaded.lba, loaded.array, loaded.stands, loaded.accepted, Or.inl rfl⟩

variable {logical : Nat} {during : Op → Tablet → Prop} {exited : Nat → Tablet → Prop}
  {tablet : Tablet}

/-- The copy in this place is loaded, or there is none, or some call failed. -/
theorem wp_loadGptCopy {returned : Option GptCopy → Tablet → Prop}
    (place : headerLba = 1 ∨ headerLba = diskLbas - 1) (bears : Bears during tablet.cache)
    (sized : tablet.disk.length = diskBytes)
    (next : ∀ result after, Seen tablet after →
      (result = none → after.failed = true ∨ ∀ copy, ¬Loaded tablet.disk headerLba stale copy) →
      (∀ copy, result = some copy → Loaded tablet.disk headerLba stale copy) →
      returned result after) :
    wp (machine logical) during exited (loadGptCopy diskLbas headerLba stale) returned tablet := by
  have enough : ¬(diskLbas < 2 * (1 + entriesSectors) + firstUsable ∨
      (headerLba ≠ 1 ∧ headerLba ≠ wrap (diskLbas + 2 ^ 64 - 1))) := by
    have many : ¬diskLbas < 2 * (1 + entriesSectors) + firstUsable := by decide
    rw [lastLba]
    intro outside
    rcases outside with few | ⟨notFirst, notLast⟩
    · exact many few
    · rcases place with first | last
      · exact notFirst first
      · exact notLast last
  unfold loadGptCopy
  have inside : headerLba + 1 ≤ diskLbas := by
    have many := diskLbas_eq
    omega
  rw [if_neg enough, Prog.bind_eq, wp_bind]
  apply wp_readAt bears
  · rw [header_range]
    exact range_within sized inside
  intro header one seenOne failedOne wholeOne
  cases header with
  | none =>
      apply next none one seenOne
      · exact fun _ => Or.inl (failedOne rfl)
      · exact fun copy same => nomatch same
  | some header =>
      have headerSame := wholeOne header rfl
      rw [header_range] at headerSame
      by_cases accepted : headerAccepted diskLbas headerLba header = true
      · show wp (machine logical) during exited (if _ then _ else _) returned one
        rw [if_pos accepted, Prog.bind_eq, wp_bind]
        apply wp_readAt
        · rw [seenOne.cache]
          exact bears
        · rw [seenOne.disk, entries_range]
          exact range_within sized (array_inside place accepted).2
        intro entries two seenTwo failedTwo wholeTwo
        have seen := seenOne.trans seenTwo
        cases entries with
        | none =>
            apply next none two seen
            · exact fun _ => Or.inl (failedTwo rfl)
            · exact fun copy same => nomatch same
        | some entries =>
            have entriesSame := wholeTwo entries rfl
            rw [seenOne.disk, entries_range] at entriesSame
            by_cases wrong : crc32Bytes entries ≠ le32 header 88 ∧ stale = false
            · show wp (machine logical) during exited (if _ then _ else _) returned two
              rw [if_pos wrong]
              apply next none two seen
              · intro _
                right
                intro copy loaded
                have sameHeader : copy.header = header := by
                  rw [headerSame, ← loaded.stands.header, loaded.lba]
                have sameEntries : copy.entries = entries := by
                  rw [entriesSame, ← loaded.stands.entries, loaded.array, sameHeader]
                rcases loaded.summed with lax | summed
                · rw [wrong.2] at lax
                  cases lax
                · rw [sameHeader, sameEntries] at summed
                  exact wrong.1 summed
              · exact fun copy same => nomatch same
            · show wp (machine logical) during exited (if _ then _ else _) returned two
              rw [if_neg wrong]
              apply next _ two seen
              · exact fun impossible => nomatch impossible
              · intro copy same
                cases same
                constructor
                · rfl
                · rfl
                · exact ⟨headerSame.symm, entriesSame.symm⟩
                · exact accepted
                · by_cases summed : crc32Bytes entries = le32 header 88
                  · exact Or.inr summed
                  · left
                    cases stale with
                    | true => rfl
                    | false => exact absurd ⟨summed, rfl⟩ wrong
      · show wp (machine logical) during exited (if _ then _ else _) returned one
        rw [if_neg accepted]
        apply next none one seenOne
        · intro _
          right
          intro copy loaded
          have same : copy.header = header := by
            rw [headerSame, ← loaded.stands.header, loaded.lba]
          rw [← same] at accepted
          exact accepted loaded.accepted
        · exact fun copy same => nomatch same

end Loading

/-! ### The disk to mark -/

/-- What examine lets pass. -/
theorem examine_some {slot : Slot} {primary backup : GptCopy} {own copied : Nat}
    (passed : examine slot primary backup = some (own, copied)) :
    copied = own ∧ part primary.header 56 72 = part backup.header 56 72 ∧
      part primary.header 40 56 = part backup.header 40 56 ∧ findBoot primary slot = some own ∧
      (findBoot primary slot.other).isSome ∧ (findBoot backup slot).isSome ∧
      (findBoot backup slot.other).isSome ∧ chosen (primary.attributes own) = true := by
  have mirrored : findBoot { backup with entries := primary.entries } slot =
      findBoot primary slot := findBoot_entries rfl slot
  rw [examine] at passed
  split at passed
  · cases passed
  · rename_i same
    rw [not_or, not_not, not_not] at same
    simp only [Option.bind_eq_bind, Option.bind_eq_some_iff, mirrored] at passed
    obtain ⟨found, ownFound, other, otherFound, backed, backedFound, otherBacked, otherBackedFound,
      copy, copyFound, last⟩ := passed
    split at last
    · rename_i looks
      cases last
      rw [ownFound] at copyFound
      cases copyFound
      refine ⟨rfl, same.1, same.2, ownFound, ?_, ?_, ?_, looks⟩
      · rw [otherFound]
        rfl
      · rw [backedFound]
        rfl
      · rw [otherBackedFound]
        rfl
    · cases last

theorem examine_of {slot : Slot} {primary backup : GptCopy} {own : Nat}
    (guid : part primary.header 56 72 = part backup.header 56 72)
    (usable : part primary.header 40 56 = part backup.header 40 56)
    (found : findBoot primary slot = some own) (other : (findBoot primary slot.other).isSome)
    (backed : (findBoot backup slot).isSome) (otherBacked : (findBoot backup slot.other).isSome)
    (looks : chosen (primary.attributes own) = true) :
    examine slot primary backup = some (own, own) := by
  have mirrored : findBoot { backup with entries := primary.entries } slot =
      findBoot primary slot := findBoot_entries rfl slot
  obtain ⟨otherFound, sameOther⟩ := Option.isSome_iff_exists.mp other
  obtain ⟨backedFound, sameBacked⟩ := Option.isSome_iff_exists.mp backed
  obtain ⟨otherBackedFound, sameOtherBacked⟩ := Option.isSome_iff_exists.mp otherBacked
  have passes : ¬(part primary.header 56 72 ≠ part backup.header 56 72 ∨
      part primary.header 40 56 ≠ part backup.header 40 56) := by
    rw [not_or, not_not, not_not]
    exact ⟨guid, usable⟩
  rw [examine, if_neg passes, mirrored, found, sameOther, sameBacked, sameOtherBacked]
  show (if chosen (primary.attributes own) = true then some (own, own) else none) = _
  rw [if_pos looks]

/-- A disk that the tool accepts for this slot. -/
structure Marking (slot : Slot) (disk : Bytes) where
  primary : GptCopy
  backup : GptCopy
  own : Nat
  sized : disk.length = diskBytes
  first : Loaded disk 1 false primary
  second : Loaded disk (diskLbas - 1) true backup
  examined : examine slot primary backup = some (own, own)

namespace Marking

variable {slot : Slot} {disk : Bytes} (marking : Marking slot disk)

def attributes : Attributes := marked (marking.primary.attributes marking.own)

def newPrimary : GptCopy := updated marking.primary marking.own marking.attributes

def newBackup : GptCopy :=
  updated { marking.backup with entries := marking.primary.entries } marking.own marking.attributes

/-- The backup is written. -/
def half : Bytes := putCopy disk marking.newBackup

/-- Both are written. -/
def done : Bytes := putCopy marking.half marking.newPrimary

theorem unique (other : Marking slot disk) : marking = other := by
  have primary := marking.first.unique other.first
  have backup := marking.second.unique other.second
  have own : marking.own = other.own := by
    have one := marking.examined
    have two := other.examined
    rw [primary, backup, two] at one
    exact (Prod.mk.inj (Option.some.inj one)).1.symm
  obtain ⟨onePrimary, oneBackup, oneOwn, _, _, _, _⟩ := marking
  obtain ⟨otherPrimary, otherBackup, otherOwn, _, _, _, _⟩ := other
  change onePrimary = otherPrimary at primary
  change oneBackup = otherBackup at backup
  change oneOwn = otherOwn at own
  subst primary backup own
  rfl

theorem own_inside : marking.own < entryCount :=
  findBoot_inside (examine_some marking.examined).2.2.2.1

theorem primary_placed : marking.primary.Placed := marking.first.front_placed marking.sized

theorem backup_placed : marking.backup.Placed := marking.second.back_placed marking.sized

/-! ### The new copies -/

theorem source_whole :
    GptCopy.Whole { marking.backup with entries := marking.primary.entries } :=
  ⟨marking.backup_placed.whole.header, marking.primary_placed.whole.entries⟩

theorem set_whole {copy : GptCopy} (whole : copy.Whole) :
    (copy.setAttributes marking.own marking.attributes).Whole :=
  ⟨whole.header, setAttributes_length whole.entries marking.own_inside _⟩

theorem newPrimary_placed : marking.newPrimary.Placed := by
  have placed := marking.primary_placed
  constructor
  · exact refresh_whole (marking.set_whole placed.whole)
  · exact placed.header
  · exact placed.entries
  · exact placed.apart

theorem newBackup_placed : marking.newBackup.Placed := by
  have placed := marking.backup_placed
  constructor
  · exact refresh_whole (marking.set_whole marking.source_whole)
  · exact placed.header
  · exact placed.entries
  · exact placed.apart

theorem entries_same : marking.newBackup.entries = marking.newPrimary.entries := rfl

theorem newPrimary_header : SameHeader marking.newPrimary.header marking.primary.header :=
  refresh_header (marking.set_whole marking.primary_placed.whole)

theorem newBackup_header : SameHeader marking.newBackup.header marking.backup.header :=
  refresh_header (marking.set_whole marking.source_whole)

theorem newPrimary_accepted :
    headerAccepted diskLbas 1 marking.newPrimary.header = true :=
  accepted_refresh (marking.set_whole marking.primary_placed.whole)
    (accepted_placed marking.first.accepted).1

theorem newBackup_accepted :
    headerAccepted diskLbas (diskLbas - 1) marking.newBackup.header = true :=
  accepted_refresh (marking.set_whole marking.source_whole)
    (accepted_placed marking.second.accepted).1

theorem newPrimary_names : SameNames marking.newPrimary marking.primary :=
  setAttributes_names marking.primary_placed.whole.entries marking.own_inside _

theorem newPrimary_attributes : marking.newPrimary.attributes marking.own = marking.attributes :=
  attributes_set marking.primary_placed.whole.entries marking.own_inside _

theorem newBackup_attributes : marking.newBackup.attributes marking.own = marking.attributes := by
  show (GptCopy.setAttributes { marking.backup with entries := marking.primary.entries }
    marking.own marking.attributes).attributes marking.own = _
  exact attributes_set marking.primary_placed.whole.entries marking.own_inside _

/-! ### The places of the copies -/

theorem front_lbas : marking.primary.headerLba = 1 ∧ 2 ≤ marking.primary.entriesLba ∧
    marking.primary.entriesLba + entriesSectors ≤ firstUsable :=
  ⟨marking.first.lba, marking.first.front⟩

theorem back_lbas : marking.backup.headerLba = diskLbas - 1 ∧
    bootLast .b ≤ le64 marking.backup.header 48 ∧
    le64 marking.backup.header 48 < marking.backup.entriesLba ∧
    marking.backup.entriesLba + entriesSectors ≤ diskLbas - 1 :=
  ⟨marking.second.lba, marking.second.back⟩

/-- The backup leaves the first sectors alone. -/
theorem backup_clear {start stop : Nat} (low : stop ≤ firstUsable) :
    marking.newBackup.Clear start stop := by
  obtain ⟨header, last, array, _⟩ := marking.back_lbas
  have six : firstUsable = 6 := rfl
  have many := diskLbas_eq
  have pinned : bootLast .b = 393258 := rfl
  constructor
  · left
    show stop ≤ marking.backup.headerLba
    omega
  · left
    show stop ≤ marking.backup.entriesLba
    omega

/-- The primary leaves everything behind them alone. -/
theorem primary_clear {start stop : Nat} (high : firstUsable ≤ start) :
    marking.newPrimary.Clear start stop := by
  obtain ⟨header, _, array⟩ := marking.front_lbas
  have six : firstUsable = 6 := rfl
  constructor
  · right
    show marking.primary.headerLba + 1 ≤ start
    omega
  · right
    show marking.primary.entriesLba + entriesSectors ≤ start
    omega

theorem half_length : marking.half.length = diskBytes :=
  putCopy_length marking.newBackup_placed marking.sized

theorem done_length : marking.done.length = diskBytes :=
  putCopy_length marking.newPrimary_placed marking.half_length

/-- While the backup is written the old primary stands. -/
theorem half_primary : Stands marking.half marking.primary := by
  obtain ⟨header, low, array⟩ := marking.front_lbas
  have six : firstUsable = 6 := rfl
  apply stands_putCopy marking.newBackup_placed marking.sized marking.first.stands
  · exact marking.backup_clear (by omega)
  · exact marking.backup_clear array

/-- While the primary is written the new backup stands. -/
theorem done_backup : Stands marking.done marking.newBackup := by
  obtain ⟨header, last, array, _⟩ := marking.back_lbas
  have six : firstUsable = 6 := rfl
  have many := diskLbas_eq
  have pinned : bootLast .b = 393258 := rfl
  have stands : Stands marking.half marking.newBackup :=
    putCopy_stands marking.newBackup_placed marking.sized
  apply stands_putCopy marking.newPrimary_placed marking.half_length stands
  · apply marking.primary_clear
    show firstUsable ≤ marking.backup.headerLba
    omega
  · apply marking.primary_clear
    show firstUsable ≤ marking.backup.entriesLba
    omega

theorem done_primary : Stands marking.done marking.newPrimary :=
  putCopy_stands marking.newPrimary_placed marking.half_length

theorem loaded_newPrimary {image : Bytes} (stands : Stands image marking.newPrimary) :
    Loaded image 1 false marking.newPrimary := by
  constructor
  · exact marking.first.lba
  · have same := le64_part (marking.newPrimary_header 72 80 (by omega))
    rw [same]
    exact marking.first.array
  · exact stands
  · exact marking.newPrimary_accepted
  · right
    exact (refresh_entries_sum (marking.set_whole marking.primary_placed.whole)).symm

theorem loaded_newBackup {image : Bytes} (stands : Stands image marking.newBackup) :
    Loaded image (diskLbas - 1) false marking.newBackup := by
  constructor
  · exact marking.second.lba
  · have same := le64_part (marking.newBackup_header 72 80 (by omega))
    rw [same]
    exact marking.second.array
  · exact stands
  · exact marking.newBackup_accepted
  · right
    exact (refresh_entries_sum (marking.set_whole marking.source_whole)).symm

theorem loaded_primary {image : Bytes} (stands : Stands image marking.primary) :
    Loaded image 1 false marking.primary :=
  ⟨marking.first.lba, marking.first.array, stands, marking.first.accepted, marking.first.summed⟩

/-! ### Marking again -/

/-- The finished disk can be marked. -/
def again : Marking slot marking.done where
  primary := marking.newPrimary
  backup := marking.newBackup
  own := marking.own
  sized := marking.done_length
  first := marking.loaded_newPrimary marking.done_primary
  second := (marking.loaded_newBackup marking.done_backup).lax
  examined := by
    obtain ⟨_, guid, usable, found, other, _, _, looks⟩ := examine_some marking.examined
    have names := findBoot_same marking.newPrimary_names
    have mirrored := findBoot_entries marking.entries_same
    apply examine_of
    · rw [marking.newPrimary_header 56 72 (by omega), marking.newBackup_header 56 72 (by omega)]
      exact guid
    · rw [marking.newPrimary_header 40 56 (by omega), marking.newBackup_header 40 56 (by omega)]
      exact usable
    · rw [names, found]
    · rw [names]
      exact other
    · rw [mirrored, names, found]
      rfl
    · rw [mirrored, names]
      exact other
    · rw [marking.newPrimary_attributes]
      exact chosen_marked _ looks

end Marking

end Liuqin.Slot
