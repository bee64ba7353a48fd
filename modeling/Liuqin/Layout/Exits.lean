/-
How each verb of install-layout.sh that opens the disk leaves it
(tools/lib/install-layout.sh).

Between the opening of the disk and the call of seal every failure that ends
the script leaves the disk writable; nothing else does.
-/

import Liuqin.Layout.Posture

namespace Liuqin.Layout.Device

open Liuqin.Library.Program

/-! ### The verbs -/

section Verbs

variable {α : Type} {kernel : Kernel} {disk : Name}

/-- The opening of the disk. -/
theorem safely_open {next : Script α} {returned : α → Kernel → Prop}
    (steady : Steady kernel) (untouched : Untouched kernel.log)
    (present : ∃ block ∈ kernel.blocks, block.node = whole disk)
    (holds : ∀ after, Opened disk after → Safely next returned after) :
    Safely (do
      let opened ← command (.setrw (whole disk))
      orDie opened "cannot open the disk for writing"
      next) returned kernel := by
  apply safely_bind
  apply safely_command
  intro ok fresh
  cases ok with
  | false =>
      apply safely_bind
      apply safely_orDie (steady.refused untouched fresh).good
      intro impossible
      cases impossible
  | true => exact holds _ (steady.open present fresh)

/-- A command whose failure ends the script. -/
theorem safely_dying {what : Command} {text : String} {next : Script α}
    {returned : α → Kernel → Prop} (opened : Opened disk kernel) (ends : what.Ends)
    (stays : ∀ fresh, effect what false fresh kernel.blocks = kernel.blocks)
    (keeps : ∀ fresh, Opened disk (kernel.after what true fresh))
    (holds : ∀ after, Opened disk after → Safely next returned after) :
    Safely (do
      let ok ← command what
      orDie ok text
      next) returned kernel := by
  apply safely_bind
  apply safely_command
  intro ok fresh
  apply safely_bind
  cases ok with
  | false =>
      apply safely_orDie (opened.broken ends fresh (stays fresh))
      intro impossible
      cases impossible
  | true =>
      apply safely_ite
      · intro _
        exact holds _ (keeps fresh)
      · intro impossible
        exact absurd rfl impossible

/-- `sync`, whose failure `set -e` turns into an exit. -/
theorem safely_sync {next : Script α} {returned : α → Kernel → Prop} (opened : Opened disk kernel)
    (holds : ∀ after, Opened disk after → Safely next returned after) :
    Safely (do
      let synced ← command .sync
      orStop synced
      next) returned kernel := by
  apply safely_bind
  apply safely_command
  intro ok fresh
  apply safely_bind
  cases ok with
  | false =>
      apply safely_orStop
      · intro _
        have ends : Command.Ends .sync := trivial
        exact opened.broken ends fresh rfl
      · intro impossible
        cases impossible
  | true =>
      apply safely_orStop
      · intro impossible
        cases impossible
      · intro _
        exact holds _ (opened.worked rfl)

theorem safely_rereadpt {next : Script α} {returned : α → Kernel → Prop}
    (opened : Opened disk kernel)
    (holds : ∀ after, Opened disk after → Safely next returned after) :
    Safely (do
      let _ ← command (.rereadpt disk)
      next) returned kernel := by
  apply safely_bind
  apply safely_command
  intro ok fresh
  exact holds _ (opened.repartitioned (fun ends => ends) rfl)

theorem safely_print {text : String} {returned : Unit → Kernel → Prop}
    (holds : returned () kernel) : Safely (print text) returned kernel := by
  constructor
  · trivial
  · intro _
    exact holds

theorem safely_verify {returned : Bool → Kernel → Prop} (holds : ∀ ok, returned ok kernel) :
    Safely (verify disk) returned kernel := by
  apply safely_look
  · intro _
    rfl
  · intro works
    exact holds works

theorem safely_remove {returned : Bool → Kernel → Prop} (holds : ∀ ok, returned ok kernel) :
    Safely remove returned kernel := by
  apply safely_look
  · intro _
    rfl
  · intro works
    exact holds works

theorem safely_restoreGpt {arguments : List Name} (steady : Steady kernel)
    (untouched : Untouched kernel.log) :
    Safely (restoreGpt arguments) (fun _ => Steady) kernel := by
  have good := steady.good
  unfold restoreGpt
  split
  · next name =>
      apply safely_bind
      apply safely_findPart good
      intro part
      apply safely_bind
      apply safely_parentDisk good
      intro present
      apply safely_bind
      apply safely_sectorSize good
      intro sector
      apply safely_bind
      apply safely_sectorCount good
      intro sectors
      apply safely_bind
      apply safely_orDie good
      intro _
      apply safely_bind
      apply safely_assertIdle good
      apply safely_bind
      apply safely_stageHalf good
      apply safely_bind
      apply safely_stageHalf good
      apply safely_open steady untouched present
      intro kernel opened
      apply safely_dying opened
      · trivial
      · intro _
        rfl
      · intro _
        exact opened.worked rfl
      · intro kernel opened
        apply safely_dying opened
        · trivial
        · intro _
          rfl
        · intro _
          exact opened.worked rfl
        · intro kernel opened
          apply safely_sync opened
          intro kernel opened
          apply safely_rereadpt opened
          intro kernel opened
          apply safely_bind
          apply safely_sealDisk opened
          intro kernel steady
          apply safely_bind
          apply safely_verify
          intro verified
          apply safely_bind
          apply safely_orDie steady.good
          intro _
          apply safely_bind
          apply safely_remove
          intro removed
          apply safely_bind
          apply safely_orDie steady.good
          intro _
          exact safely_print steady
  · exact safely_die good

theorem safely_wipeHead {arguments : List Name} (steady : Steady kernel)
    (untouched : Untouched kernel.log) :
    Safely (wipeHead arguments) (fun _ => Steady) kernel := by
  have good := steady.good
  unfold wipeHead
  split
  · next name bytes =>
      apply safely_bind
      apply safely_findPart good
      intro part
      apply safely_bind
      apply safely_orMissing good
      intro length _
      apply safely_bind
      apply safely_orDie good
      intro _
      apply safely_bind
      cases arithmetic bytes with
      | none => exact good
      | some counted =>
          apply safely_pure
          apply safely_bind
          apply safely_orDie good
          intro _
          apply safely_bind
          apply safely_parentDisk good
          intro present
          apply safely_bind
          apply safely_assertIdle good
          apply safely_bind
          apply safely_byteSize good
          intro size
          apply safely_bind
          apply safely_orDie good
          intro _
          apply safely_open steady untouched present
          intro kernel opened
          apply safely_dying opened
          · trivial
          · intro _
            rfl
          · intro fresh
            exact opened.openPart rfl fresh
          · intro kernel opened
            apply safely_dying opened
            · trivial
            · intro _
              rfl
            · intro _
              exact opened.worked rfl
            · intro kernel opened
              apply safely_sync opened
              intro kernel opened
              apply safely_bind
              apply safely_sealDisk opened
              intro kernel steady
              exact safely_print steady
  · exact safely_die good

theorem safely_apply {arguments : List Name} (steady : Steady kernel)
    (untouched : Untouched kernel.log) :
    Safely (apply arguments) (fun _ => Steady) kernel := by
  have good := steady.good
  unfold apply
  split
  · next name first others =>
      apply safely_bind
      apply safely_findPart good
      intro part
      apply safely_bind
      apply safely_parentDisk good
      intro present
      apply safely_bind
      apply safely_assertIdle good
      apply safely_bind
      apply safely_orDie good
      intro _
      apply safely_open steady untouched present
      intro kernel opened
      apply safely_bind
      apply safely_command
      intro applied fresh
      have edited : Opened part.disk
          (kernel.after (.sgdisk part.disk (first :: others)) applied fresh) :=
        opened.repartitioned (fun ends => ends) rfl
      apply safely_sync edited
      intro kernel opened
      apply safely_rereadpt opened
      intro kernel opened
      apply safely_bind
      apply safely_sealDisk opened
      intro kernel steady
      apply safely_bind
      apply safely_orDie steady.good
      intro _
      apply safely_bind
      apply safely_verify
      intro verified
      apply safely_bind
      apply safely_orDie steady.good
      intro _
      exact safely_print steady
  · exact safely_die good

theorem safely_runVerb {verb : Verb} {arguments : List Name} (steady : Steady kernel)
    (untouched : Untouched kernel.log) :
    Safely (runVerb verb arguments) (fun _ => Steady) kernel := by
  cases verb with
  | restoreGpt => exact safely_restoreGpt steady untouched
  | wipeHead => exact safely_wipeHead steady untouched
  | apply => exact safely_apply steady untouched

end Verbs

/-! ### The script -/

theorem safely_guard {kernel : Kernel} {what : Guard} {returned : Bool → Kernel → Prop}
    (holds : ∀ ok, returned ok kernel) : Safely (guard what) returned kernel := by
  apply safely_look
  · intro _
    rfl
  · intro works
    exact holds works

theorem safely_prepare {kernel : Kernel} {returned : Unit → Kernel → Prop} (good : Good kernel)
    (holds : returned () kernel) : Safely prepare returned kernel := by
  apply safely_bind
  apply safely_guard
  intro sameBoot
  apply safely_bind
  apply safely_orDie good
  intro _
  apply safely_bind
  apply safely_guard
  intro installer
  apply safely_bind
  apply safely_orDie good
  intro _
  apply safely_bind
  apply safely_guard
  intro present
  apply safely_bind
  apply safely_orDie good
  intro _
  apply safely_bind
  apply safely_guard
  intro made
  apply safely_bind
  apply safely_orDie good
  intro _
  apply safely_bind
  apply safely_guard
  intro writable
  apply safely_orDie good
  intro _
  exact holds

/-- The trap changes no flag. -/
theorem safely_cleanup {kernel : Kernel} {status : Nat} {returned : Unit → Kernel → Prop}
    (good : Good kernel) : Safely (cleanup status) returned kernel := by
  apply safely_bind
  apply safely_remove
  intro _
  exact good

theorem safely_main {verb : Verb} {arguments : List Name} {kernel : Kernel}
    (steady : Steady kernel) (untouched : Untouched kernel.log) :
    Safely (main verb arguments) (fun _ _ => True) kernel := by
  apply safely_bind
  apply safely_prepare steady.good
  rw [Safely, wp_onExit]
  apply wp_mono (safely_bind (safely_mono (safely_runVerb steady untouched) ?_))
  · intro _ _ held
    exact held
  · intro status after good
    exact safely_cleanup good
  · intro _ _ held
    exact held
  · intro _ after held
    exact held.good

/-- At every exit at which the requests to set a flag have worked, the nodes are read-only exactly
when no command that ends the script has failed on an open disk. -/
theorem sealed_at_exit (verb : Verb) (arguments : List Name) {start after : Kernel} {status : Nat}
    (boot : ReadOnly start) (fresh : start.log = [])
    (ended : Reaches machine (main verb arguments, start) (.exit status, after))
    (worked : SetroWorked after.log) : ReadOnly after ↔ Unharmed after.log := by
  have steady : Steady start := by
    constructor
    · exact boot
    · rw [fresh]
      exact unharmed_nil
  have untouched : Untouched start.log := by
    rw [fresh]
    exact untouched_nil
  have safe : wp machine (fun _ _ => True) (fun _ last => Good last) (main verb arguments, start).1
      (fun _ _ => True) (main verb arguments, start).2 :=
    safely_main steady untouched
  exact wp_sound safe ended worked

/-! ### A tablet -/

def tabletDisk : Name := ['s', 'd', 'a']

def rootName : Name := ['l', 'i', 'n', 'u', 'x', '_', 'r', 'o', 'o', 't']

/-- A disk with one partition, as the image boots. -/
def booted : Kernel where
  blocks :=
    [{ node := whole tabletDisk, partname := none, ro := true },
     { node := { disk := tabletDisk, suffix := ['2'] }, partname := some rootName, ro := true }]
  log := []

/-- Everything works, but for sync where it does not. -/
def choices (synced : Bool) : (operation : Op) → Choice operation
  | .nodes => ()
  | .isBlock _ => ()
  | .counter _ _ => some 4194304
  | .deviceNumber _ => some ['8', ':', '0']
  | .decodedSize _ => none
  | .run .sync => (synced, [])
  | .run _ => (true, [])
  | .mounted _ => false
  | .print _ => ()
  | .guard _ => true
  | .grep _ _ => true
  | .readlink _ => true
  | .staged _ => true
  | .decode _ => true
  | .verify _ => true
  | .remove => true

/-- wipe-head linux_root 1048576, to its end. -/
def wipeRun (synced : Bool) : Script Unit × Kernel :=
  play machine (fun _ operation _ => choices synced operation) 64
    (main .wipeHead [rootName, ['1', '0', '4', '8', '5', '7', '6']], booted)

theorem booted_readOnly : ReadOnly booted := by
  intro block member
  rcases List.mem_cons.mp member with rfl | later
  · rfl
  · rw [List.mem_singleton.mp later]

theorem wipeRun_setroWorked (synced : Bool) : SetroWorked (wipeRun synced).2.log := by
  have others : ∀ entry ∈ (wipeRun synced).2.log, entry.1 = .sync ∨ entry.2 = true := by
    cases synced <;> decide
  intro node member
  rcases others _ member with flush | works
  · cases flush
  · cases works

theorem sealed_at_exit_wiped : ReadOnly (wipeRun true).2 ↔ Unharmed (wipeRun true).2.log := by
  have left : (wipeRun true).1.status = some 0 := rfl
  exact sealed_at_exit .wipeHead [rootName, ['1', '0', '4', '8', '5', '7', '6']] booted_readOnly rfl
    (exits_of_play machine _ 64 left) (wipeRun_setroWorked true)

/-- A failing sync ends the script with the disk and the partition open. -/
theorem wiped_left_open : ReadOnly booted ∧ booted.log = [] ∧
    Reaches machine (main .wipeHead [rootName, ['1', '0', '4', '8', '5', '7', '6']], booted)
      (.exit 1, (wipeRun false).2) ∧
    SetroWorked (wipeRun false).2.log ∧ ∀ block ∈ (wipeRun false).2.blocks, block.ro = false := by
  have left : (wipeRun false).1.status = some 1 := rfl
  constructor
  · exact booted_readOnly
  constructor
  · rfl
  constructor
  · exact exits_of_play machine _ 64 left
  constructor
  · exact wipeRun_setroWorked false
  · decide

end Liuqin.Layout.Device
