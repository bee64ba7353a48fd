/-
What the slot tool leaves behind, power losses included.

A power loss finds the old primary copy or the new backup whole.  Where the old
primary still stands, a later run finishes the disk that the first run was about
to make, as long as the two arrays name the same sectors.
-/

import Liuqin.Slot.Reference

namespace Liuqin.Slot

open Liuqin.Library Liuqin.Library.Bytes Liuqin.Library.Program Liuqin.Library.Barrier

/-! ### What main comes to -/

/-- The guards: on a real device the slot is the one that runs and no partition of
the disk is mounted; a test image wants the variable. -/
structure Guards (setting : Setting) (request : Request) : Prop where
  device : request.image = none →
    cmdlineSlot setting.cmdline = some request.slot ∧ sdeIsUnmounted setting = true
  image : request.image.isSome → setting.testing = some "unsafe-mock-only"

/-- The tool is asked for something and lets itself be asked. -/
def Admitted (setting : Setting) (arguments : List String) (request : Request) : Prop :=
  readArguments none none arguments = some request ∧ Guards setting request

theorem main_admitted {setting : Setting} {arguments : List String} {request : Request}
    (admitted : Admitted setting arguments request) :
    main setting arguments = markSlot request.image.isSome request.operation request.slot := by
  obtain ⟨read, guards⟩ := admitted
  unfold main
  rw [read]
  dsimp only
  cases image : request.image with
  | some path =>
      have testing := guards.image (by rw [image]; rfl)
      rw [if_pos (show (some path).isSome = true from rfl), if_pos testing]
      rfl
  | none =>
      obtain ⟨slot, unmounted⟩ := guards.device image
      rw [if_neg (show ¬(none : Option String).isSome = true by decide), slot, unmounted,
        if_neg (by simp), if_neg (by simp)]
      rfl

theorem main_refused {setting : Setting} {arguments : List String}
    (refused : ∀ request, ¬Admitted setting arguments request) :
    main setting arguments = .exit 1 ∨ main setting arguments = .exit 2 := by
  unfold main
  cases read : readArguments none none arguments with
  | none => exact Or.inr rfl
  | some request =>
      dsimp only
      have unguarded : ¬Guards setting request := fun guards => refused request ⟨read, guards⟩
      cases image : request.image with
      | some path =>
          rw [if_pos (show (some path).isSome = true from rfl)]
          split
          · rename_i testing
            apply absurd _ unguarded
            constructor
            · intro none
              rw [image] at none
              cases none
            · exact fun _ => testing
          · exact Or.inr rfl
      | none =>
          rw [if_neg (show ¬(none : Option String).isSome = true by decide)]
          split
          · exact Or.inl rfl
          · rename_i guarded
            rw [not_or] at guarded
            split
            · exact Or.inl rfl
            · rename_i running
              apply absurd _ unguarded
              constructor
              · exact fun _ => ⟨not_not.mp running, Bool.not_eq_false _ ▸ guarded.2⟩
              · intro some
                rw [image] at some
                cases some

section Runs

variable {logical : Nat} {setting : Setting} {arguments : List String} {disk : Bytes} {ro : Bool}
  {program : Script Empty} {last : Tablet}

theorem exit_stays {status : Nat} {start : Tablet}
    (run : Reaches (machine logical) ((.exit status : Script Empty), start) (program, last)) :
    program = .exit status ∧ last = start := by
  rcases Relation.ReflTransGen.cases_head run with same | ⟨_, step, _⟩
  · cases same
    exact ⟨rfl, rfl⟩
  · cases step

/-- A run of main is a run behind the guards, or it never starts. -/
theorem run_cases
    (run : Reaches (machine logical) (main setting arguments, Tablet.start disk ro)
      (program, last)) :
    ((∀ request, ¬Admitted setting arguments request) ∧
        (program = .exit 1 ∨ program = .exit 2) ∧ last = Tablet.start disk ro) ∨
      ∃ request, Admitted setting arguments request ∧
        Safe (Guarded request.slot disk)
          (Ended request.image.isSome logical request.slot request.operation (Tablet.start disk ro))
          (fun _ _ => False) (program, last) := by
  by_cases refused : ∀ request, ¬Admitted setting arguments request
  · left
    rcases main_refused refused with one | two
    · rw [one] at run
      obtain ⟨exits, stays⟩ := exit_stays run
      exact ⟨refused, Or.inl exits, stays⟩
    · rw [two] at run
      obtain ⟨exits, stays⟩ := exit_stays run
      exact ⟨refused, Or.inr exits, stays⟩
  · right
    rw [not_forall] at refused
    obtain ⟨request, twice⟩ := refused
    have admitted := not_not.mp twice
    refine ⟨request, admitted, ?_⟩
    rw [main_admitted admitted] at run
    have holds : wp (machine logical) (Guarded request.slot (Tablet.start disk ro).disk)
        (Ended request.image.isSome logical request.slot request.operation (Tablet.start disk ro))
        (markSlot request.image.isSome request.operation request.slot) (fun _ _ => False)
        (Tablet.start disk ro) := wp_markSlot rfl
    exact wp_sound holds run

/-- Where the disk is, at every moment of a run. -/
theorem run_sound {request : Request} (read : readArguments none none arguments = some request)
    (run : Reaches (machine logical) (main setting arguments, Tablet.start disk ro)
      (program, last)) : Sound request.slot disk last.cache := by
  rcases run_cases run with ⟨_, _, stays⟩ | ⟨other, ⟨same, _⟩, safe⟩
  · left
    rw [stays]
    rfl
  · rw [read] at same
    cases same
    cases program with
    | done value => cases value
    | exit status => exact safe.sound
    | act operation next => exact safe.sound

end Runs

/-! ### What is written -/

section Check

variable {leaves : Nat → Prop}

end Check

section Writes

variable {logical : Nat} {setting : Setting} {arguments : List String} {disk : Bytes} {ro : Bool}
  {last : Tablet} {operation : Op} {next : Reply operation → Script Empty}

/-- Unless a call fails, the tool ends with 0 exactly where it is let, the device is
ready and the disk is acceptable, and the flag of the device is as it was. -/
theorem exit_exact {status : Nat}
    (run : Reaches (machine logical) (main setting arguments, Tablet.start disk ro)
      (.exit status, last)) (unfailed : last.failed = false) :
    (status = 0 ↔ ∃ request, Admitted setting arguments request ∧
      Ready request.image.isSome logical (Tablet.start disk ro) ∧
      Acceptable request.slot disk request.operation) ∧ last.ro = ro := by
  rcases run_cases run with ⟨refused, exits, stays⟩ | ⟨request, admitted, ended⟩
  · constructor
    · constructor
      · intro zero
        subst zero
        rcases exits with impossible | impossible
        · cases impossible
        · cases impossible
      · rintro ⟨request, admitted, _⟩
        exact absurd admitted (refused request)
    · rw [stays]
      rfl
  · constructor
    · constructor
      · intro zero
        subst zero
        exact ⟨request, admitted, ended.ready rfl, ended.acceptable⟩
      · rintro ⟨other, ⟨read, _⟩, ready, acceptable⟩
        have same : other = request := Option.some.inj (read.symm.trans admitted.1)
        subst same
        rcases ended.ends with zero | one
        · exact zero
        · rcases ended.refusal one with failed | refused
          · rw [unfailed] at failed
            cases failed
          · exact absurd ⟨ready, acceptable⟩ refused
    · exact ended.restored unfailed

/-- On the reference disk nothing fails, so the tool ends with 0 for a reason. -/
theorem exit_exact_reference : Acceptable .a referenceDisk .mark := by
  obtain ⟨last, run, unfailed⟩ := reference_run
  obtain ⟨request, admitted, _, acceptable⟩ := (exit_exact run unfailed).1.mp rfl
  have same := Option.some.inj (admitted.1.symm.trans reference_arguments)
  subst same
  exact acceptable

end Writes

/-! ### Marking -/

/-- The disk was marked for the slot: the attributes of its entry change in two
bits, the sums are right again, and nothing else is different. -/
structure MarkedDisk (slot : Slot) (before after : Bytes) where
  marking : Marking slot before
  /-- The copies on the disk afterwards. -/
  primary : GptCopy
  backup : GptCopy
  first : Loaded after 1 false primary
  second : Loaded after (diskLbas - 1) false backup
  mirrored : backup.entries = primary.entries
  places : primary.entriesLba = marking.primary.entriesLba ∧
    backup.entriesLba = marking.backup.entriesLba
  headers : SameHeader primary.header marking.primary.header ∧
    SameHeader backup.header marking.backup.header
  entries : ∀ start stop,
    stop ≤ marking.own * entrySize + 48 ∨ marking.own * entrySize + 56 ≤ start →
      part primary.entries start stop = part marking.primary.entries start stop
  bits : ∀ index, (primary.attributes marking.own).getLsbD index =
    if index = 54 then true else if index = 55 then false
    else (marking.primary.attributes marking.own).getLsbD index
  length : after.length = before.length
  elsewhere : ∀ start count, primary.Clear start (start + count) →
    backup.Clear start (start + count) →
      part after (start * sectorSize) ((start + count) * sectorSize) =
        part before (start * sectorSize) ((start + count) * sectorSize)

section MarkedFields

variable {slot : Slot} {disk : Bytes} (marking : Marking slot disk)

theorem marked_first : Loaded marking.done 1 false marking.newPrimary :=
  marking.loaded_newPrimary marking.done_primary

theorem marked_second : Loaded marking.done (diskLbas - 1) false marking.newBackup :=
  marking.loaded_newBackup marking.done_backup

theorem marked_places : marking.newPrimary.entriesLba = marking.primary.entriesLba ∧
    marking.newBackup.entriesLba = marking.backup.entriesLba :=
  ⟨rfl, rfl⟩

theorem marked_headers : SameHeader marking.newPrimary.header marking.primary.header ∧
    SameHeader marking.newBackup.header marking.backup.header :=
  ⟨marking.newPrimary_header, marking.newBackup_header⟩

theorem marked_entries (start stop : Nat)
    (apart : stop ≤ marking.own * entrySize + 48 ∨ marking.own * entrySize + 56 ≤ start) :
    part marking.newPrimary.entries start stop = part marking.primary.entries start stop :=
  setAttributes_part marking.primary_placed.whole.entries marking.own_inside _ apart

theorem marked_own_bits (index : Nat) :
    (marking.newPrimary.attributes marking.own).getLsbD index =
      if index = 54 then true else if index = 55 then false
      else (marking.primary.attributes marking.own).getLsbD index := by
  rw [marking.newPrimary_attributes]
  exact marked_bits _ index

theorem marked_length : marking.done.length = disk.length := by
  rw [marking.done_length, marking.sized]

theorem marked_elsewhere (start count : Nat)
    (front : marking.newPrimary.Clear start (start + count))
    (back : marking.newBackup.Clear start (start + count)) :
    part marking.done (start * sectorSize) ((start + count) * sectorSize) =
      part disk (start * sectorSize) ((start + count) * sectorSize) := by
  have second := putCopy_clear marking.newPrimary_placed marking.half_length front
  have first := putCopy_clear marking.newBackup_placed marking.sized back
  exact second.trans first

end MarkedFields

def Marking.marked {slot : Slot} {disk : Bytes} (marking : Marking slot disk) :
    MarkedDisk slot disk marking.done where
  marking := marking
  primary := marking.newPrimary
  backup := marking.newBackup
  first := marked_first marking
  second := marked_second marking
  mirrored := marking.entries_same
  places := marked_places marking
  headers := marked_headers marking
  entries := marked_entries marking
  bits := marked_own_bits marking
  length := marked_length marking
  elsewhere := marked_elsewhere marking

section Loss

variable {slot : Slot} {disk image : Bytes}

/-- A region that two states share is the same in what a power loss leaves. -/
theorem stands_mixed {old new : Bytes} {copy : GptCopy}
    (mixed : Mixed sectorSize old new image) (one : Stands old copy) (other : Stands new copy) :
    Stands image copy := by
  constructor
  · rw [mixed.region (by rw [one.header, other.header]), one.header]
  · rw [mixed.region (by rw [one.entries, other.entries]), one.entries]

/-- The old primary or the new backup is whole. -/
theorem sound_leaves {cache : Cached} (sound : Sound slot disk cache)
    (left : cache.Leaves sectorSize image) (marking : Marking slot disk) :
    (Loaded image 1 false marking.primary ∧ Mixed sectorSize disk marking.half image) ∨
      (Loaded image (diskLbas - 1) false marking.newBackup ∧
        Mixed sectorSize marking.half marking.done image) := by
  have halfLength : marking.half.length = disk.length := by
    rw [marking.half_length, marking.sized]
  have early : Mixed sectorSize disk marking.half image →
      Loaded image 1 false marking.primary := fun mixed =>
    marking.loaded_primary (stands_mixed mixed marking.first.stands marking.half_primary)
  rcases sound with settled | ⟨other, within⟩
  · left
    rw [settled] at left
    have same := Cached.leaves_settled (by decide) left
    have mixed : Mixed sectorSize disk marking.half image := by
      rw [same]
      exact (Mixed.old halfLength).1
    exact ⟨early mixed, mixed⟩
  · rw [other.unique marking] at within
    rcases within with first | second
    · left
      have mixed := first.leaves left
      exact ⟨early mixed, mixed⟩
    · right
      have mixed := second.leaves left
      have stands : Stands marking.half marking.newBackup :=
        putCopy_stands marking.newBackup_placed marking.sized
      exact ⟨marking.loaded_newBackup (stands_mixed mixed stands marking.done_backup), mixed⟩

end Loss

/-- At every moment of every run a power loss leaves a disk as it was, if the tool
does not accept it, and otherwise one with the old primary copy or the new backup
copy valid. -/
theorem crash_safe {logical : Nat} {setting : Setting} {arguments : List String} {disk : Bytes}
    {ro : Bool} {request : Request} {program : Script Empty} {last : Tablet} {image : Bytes}
    (read : readArguments none none arguments = some request)
    (run : Reaches (machine logical) (main setting arguments, Tablet.start disk ro)
      (program, last)) (left : last.cache.Leaves sectorSize image) :
    (IsEmpty (Marking request.slot disk) → image = disk) ∧
      ∀ marking : Marking request.slot disk, Loaded image 1 false marking.primary ∨
        Loaded image (diskLbas - 1) false marking.newBackup := by
  have sound := run_sound read run
  constructor
  · intro none
    rcases sound with settled | ⟨marking, _⟩
    · rw [settled] at left
      exact Cached.leaves_settled (by decide) left
    · exact none.elim marking
  · intro marking
    exact (sound_leaves sound left marking).imp And.left And.left

/-- Also after the whole run one of the two is on the reference disk. -/
theorem crash_safe_reference : ∃ image,
    Loaded image 1 false referencePrimary ∨
      Loaded image (diskLbas - 1) false referenceMarking.newBackup := by
  obtain ⟨last, run, _⟩ := reference_run
  exact ⟨last.disk, (crash_safe reference_arguments run
    (Cached.leaves_seen sectorSize last.cache)).2 referenceMarking⟩

end Liuqin.Slot
