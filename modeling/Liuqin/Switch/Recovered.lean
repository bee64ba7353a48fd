/-
Whole runs of liuqin-switch on a disk that may crash.

Only stash_live and cmd_import_android touch the store, and only the Android
set; everything else a run does leaves the sets and their data where they are.
-/

import Liuqin.Switch.Replaced
import Liuqin.Switch.Reference

namespace Liuqin.Switch.Replaced

open Liuqin.Library.Program

/-! ### What only looks -/

section Looks

variable (device : Device)

theorem only_print (text : String) : (print text).Only Op.Apart Fails := only_run trivial

theorem only_u32At (bits offset : Nat) :
    (@u32At (Prog Answer) _ bits readBoot offset).Only Op.Apart Fails :=
  Prog.only_bind (only_run trivial) fun _ => trivial

theorem only_classifyBoot : (classifyBoot device).Only Op.Apart Fails := by
  unfold classifyBoot classify
  apply Prog.only_bind (only_run trivial)
  intro front
  apply Prog.only_ite
  · trivial
  apply Prog.only_bind (only_u32At _ _)
  intro version
  cases version with
  | none => trivial
  | some version =>
      apply Prog.only_bind (only_u32At _ _)
      intro kernel
      cases kernel with
      | none => trivial
      | some kernel =>
          apply Prog.only_ite
          · trivial
          apply Prog.only_ite
          · apply Prog.only_bind (only_u32At _ _)
            intro page
            apply Prog.only_bind (only_u32At _ _)
            intro header
            exact Prog.only_bind (only_u32At _ _) fun dtb => trivial
          · apply Prog.only_ite
            · exact Prog.only_bind (only_u32At _ _) fun header => trivial
            · trivial

theorem only_shaOfPart : (shaOfPart device).Only Op.Apart Fails :=
  Prog.only_bind (only_run trivial) fun _ => only_run trivial

theorem only_paddedSha (place : Place) : (paddedSha device place).Only Op.Apart Fails :=
  Prog.only_bind (only_run trivial) fun _ => only_run trivial

theorem only_computeLive : (computeLive device).Only Op.Apart Fails := by
  unfold computeLive
  apply Prog.only_bind (only_shaOfPart device)
  intro full
  apply Prog.only_bind (only_classifyBoot device)
  intro identified
  exact Prog.only_ite (only_die (fun _ => trivial) _) trivial

theorem only_checks (set : System) (quiet : Bool) :
    (checkSet device set quiet).Only Op.Apart Fails :=
  Prog.only_mono (only_checkSet device set quiet) (fun _ observes => observes.apart) (fun _ => id)

theorem only_liveIsSet (live : Live) (set : System) :
    (liveIsSet device live set).Only Op.Apart Fails := by
  unfold liveIsSet
  apply Prog.only_bind (only_checks device set true)
  intro passed
  apply Prog.only_ite
  · exact Prog.only_bind (only_paddedSha device (.live set)) fun _ => trivial
  · trivial

theorem only_describeLive (live : Live) : (describeLive device live).Only Op.Apart Fails := by
  unfold describeLive
  apply Prog.only_bind (only_liveIsSet device live .ubuntu)
  intro ubuntu
  apply Prog.only_ite
  · trivial
  apply Prog.only_bind (only_liveIsSet device live .android)
  intro android
  apply Prog.only_ite
  · trivial
  cases live.identified with
  | none => trivial
  | some kind => cases kind <;> trivial

theorem only_statusLine (set : System) : (statusLine device set).Only Op.Apart Fails := by
  unfold statusLine
  apply Prog.only_bind (only_checks device set true)
  intro passed
  apply Prog.only_ite
  · exact Prog.only_bind (only_run trivial) fun sums => only_print _
  · apply Prog.only_bind (only_run trivial)
    intro present
    split
    · exact only_print _
    · exact only_print _

theorem only_cmdStatus (session : Session) : (cmdStatus session).Only Op.Apart Fails := by
  unfold cmdStatus
  apply Prog.only_bind (only_computeLive session.device)
  intro live
  apply Prog.only_bind (only_describeLive session.device live)
  intro held
  apply Prog.only_bind (only_print _)
  intro _
  apply Prog.only_bind (only_statusLine session.device .ubuntu)
  intro _
  exact Prog.only_bind (only_statusLine session.device .android) fun _ => trivial

theorem only_verifySet (set : System) : (verifySet device set).Only Op.Apart Fails := by
  unfold verifySet
  apply Prog.only_bind (only_checks device set false)
  intro passed
  apply Prog.only_ite
  · exact Prog.only_bind (only_print _) fun _ => trivial
  · exact Prog.only_bind (only_print _) fun _ => trivial

theorem only_cmdVerify (session : Session) : (cmdVerify session).Only Op.Apart Fails := by
  unfold cmdVerify
  apply Prog.only_bind (only_verifySet session.device .ubuntu)
  intro ubuntu
  apply Prog.only_bind (only_verifySet session.device .android)
  intro android
  apply Prog.only_bind (only_computeLive session.device)
  intro live
  apply Prog.only_bind (only_describeLive session.device live)
  intro held
  exact Prog.only_bind (only_print _) fun _ => trivial

theorem only_requireSlotA : (requireSlotA device).Only Op.Apart Fails := by
  unfold requireSlotA
  split
  · trivial
  · exact only_die (fun _ => trivial) _
  · exact only_print _

theorem only_flags {α : Type} {program : Script α} (only : program.Only Op.Flags Fails) :
    program.Only Op.Apart Fails :=
  Prog.only_mono only (fun _ flags => flags.apart) (fun _ => id)

/-- What follows the replacement in a switch. -/
theorem only_switched (session : Session) (set back : System) :
    (do
      installSet session set back
      writeState session
      doReboot session : Script Bool).Only Op.Apart Fails := by
  apply Prog.only_bind (only_installSet session set back)
  intro _
  apply Prog.only_bind (only_flags (only_writeState session))
  intro _
  apply Prog.only_mono (only_doReboot session)
  · rintro operation (flags | rfl)
    · exact flags.apart
    · trivial
  · intro _ failed
    exact failed

theorem only_cmdToAndroid (session : Session) : (cmdToAndroid session).Only Op.Apart Fails := by
  have refuses : ∀ (ok : Prop) [Decidable ok] (text : String), (orDie ok text).Only Op.Apart Fails :=
    fun ok _ text => only_orDie (fun _ => trivial) ok text
  unfold cmdToAndroid
  apply Prog.only_bind (only_checks session.device .android false)
  intro android
  apply Prog.only_bind (refuses _ _)
  intro _
  apply Prog.only_bind (only_checks session.device .ubuntu false)
  intro ubuntu
  apply Prog.only_bind (refuses _ _)
  intro _
  apply Prog.only_bind (only_requireSlotA session.device)
  intro _
  apply Prog.only_bind (only_computeLive session.device)
  intro live
  apply Prog.only_bind (only_liveIsSet session.device live .android)
  intro known
  apply Prog.only_ite
  · apply Prog.only_bind (only_print _)
    intro _
    exact Prog.only_bind (only_flags (only_writeState session)) fun _ => trivial
  · apply Prog.only_bind (refuses _ _)
    intro _
    apply Prog.only_bind (refuses _ _)
    intro _
    exact only_switched session .android .ubuntu

end Looks

/-! ### The dispatch -/

section Dispatch

variable {device : Device} {set : System} {old : Bytes} {disk : Disk device.size}

/-- Commands of the Android set leave the Ubuntu set alone. -/
theorem Stores.untouched {operation : Op} (stores : operation.Stores .android) :
    ¬ operation.Touches (.live .ubuntu) := by
  cases operation
  case removeTree place =>
    intro same
    rw [Op.Touches] at same
    rw [same] at stores
    cases stores
  case makeTree place =>
    intro same
    rw [Op.Touches] at same
    rw [same] at stores
    cases stores
  case move source target =>
    rintro (same | same)
    · rw [same] at stores
      cases stores.1
    · rw [same] at stores
      cases stores.2
  case archive place count =>
    intro same
    rw [Op.Touches] at same
    rw [same] at stores
    cases stores
  case copyIn place data =>
    intro same
    rw [Op.Touches] at same
    rw [same] at stores
    cases stores
  case writeSums place line =>
    intro same
    rw [Op.Touches] at same
    rw [same] at stores
    cases stores
  all_goals exact id

/-- What replaces the Android set leaves the Ubuntu set as it is. -/
theorem resting_android {α : Type} {program : Script α} {returned : α → Disk device.size → Prop}
    (only : program.Only (Op.Stores .android) Fails) (held : Old .ubuntu old disk)
    (next : ∀ value after, Old .ubuntu old after → returned value after) :
    Resting .ubuntu old program returned disk := by
  apply resting_frame only held
  · intro disk held
    exact held.rests
  · intro operation stores disk choice works held
    exact held.step (Stores.untouched stores) choice works
  · exact next

theorem resting_stashLive {session : Session} (same : session.device = device) {live : Live}
    {returned : Unit → Disk device.size → Prop} (held : Old set old disk)
    (next : ∀ after, Settled set old after → returned () after) :
    Resting set old (stashLive session live) returned disk := by
  cases set with
  | android => exact resting_stash same held next
  | ubuntu =>
      apply resting_android (only_stashLive session live) held
      intro _ after held
      exact next after held.settled

theorem resting_cmdImportAndroid {session : Session} (same : session.device = device)
    {file : Option Bytes} {returned : Bool → Disk device.size → Prop} (held : Old set old disk)
    (next : ∀ ended after, Settled set old after → returned ended after) :
    Resting set old (cmdImportAndroid session file) returned disk := by
  cases set with
  | android => exact resting_import same held next
  | ubuntu =>
      apply resting_android (only_cmdImportAndroid session file) held
      intro ended after held
      exact next ended after held.settled

theorem resting_cmdStash {session : Session} (same : session.device = device)
    {returned : Bool → Disk device.size → Prop} (held : Old set old disk)
    (next : ∀ ended after, Settled set old after → returned ended after) :
    Resting set old (cmdStash session) returned disk := by
  subst same
  apply resting_bind
  apply resting_old (only_computeLive session.device) held
  intro live disk held
  apply resting_bind
  apply resting_orDie held.rests
  intro _
  apply resting_bind
  apply resting_old (only_liveIsSet session.device live .android) held
  intro known disk held
  split
  · apply resting_bind
    apply resting_old (only_print _) held
    intro _ after held
    exact next true after held.settled
  · apply resting_bind
    apply resting_stashLive rfl held
    intro after settled
    exact next true after settled

theorem resting_overUbuntu {session : Session} (same : session.device = device) {live : Live}
    {returned : Unit → Disk device.size → Prop} (held : Old set old disk)
    (next : ∀ after, Settled set old after → returned () after) :
    Resting set old (overUbuntu session live) returned disk := by
  subst same
  unfold overUbuntu
  split
  · apply resting_old (only_print _) held
    intro _ after held
    exact next after held.settled
  · apply resting_bind
    apply resting_old (only_liveIsSet session.device live .android) held
    intro known disk held
    split
    · apply resting_old (only_print _) held
      intro _ after held
      exact next after held.settled
    · split
      · have dies : ∀ text, (die text : Script Unit).Only Op.Apart Fails :=
          fun text => only_die (fun _ => trivial) text
        apply resting_old (dies _) held
        intro _ after held
        exact next after held.settled
      · exact resting_stashLive rfl held next
  · have dies : ∀ text, (die text : Script Unit).Only Op.Apart Fails :=
      fun text => only_die (fun _ => trivial) text
    apply resting_old (dies _) held
    intro _ after held
    exact next after held.settled

theorem resting_cmdToUbuntu {session : Session} (same : session.device = device)
    {returned : Bool → Disk device.size → Prop} (held : Old set old disk)
    (next : ∀ ended after, Settled set old after → returned ended after) :
    Resting set old (cmdToUbuntu session) returned disk := by
  subst same
  apply resting_bind
  apply resting_old (only_checks session.device .ubuntu false) held
  intro ubuntu disk held
  apply resting_bind
  apply resting_orDie held.rests
  intro _
  apply resting_bind
  apply resting_old (only_requireSlotA session.device) held
  intro _ disk held
  apply resting_bind
  apply resting_old (only_computeLive session.device) held
  intro live disk held
  apply resting_bind
  apply resting_old (only_liveIsSet session.device live .ubuntu) held
  intro known disk held
  split
  · apply resting_bind
    apply resting_old (only_print _) held
    intro _ disk held
    apply resting_bind
    apply resting_old (only_flags (only_writeState session)) held
    intro _ after held
    exact next true after held.settled
  · apply resting_bind
    apply resting_overUbuntu rfl held
    intro disk settled
    exact resting_settled (only_switched session .ubuntu .android) settled next

theorem resting_dispatch {session : Session} (same : session.device = device) (command : Command)
    {returned : Bool → Disk device.size → Prop} (held : Old set old disk)
    (next : ∀ ended after, Settled set old after → returned ended after) :
    Resting set old (dispatch session command) returned disk := by
  have settles : ∀ ended after, Old set old after → returned ended after :=
    fun ended after held => next ended after held.settled
  cases command with
  | status => exact resting_old (only_cmdStatus session) held settles
  | verify => exact resting_old (only_cmdVerify session) held settles
  | stashAndroid => exact resting_cmdStash same held next
  | importAndroid file => exact resting_cmdImportAndroid same held next
  | toUbuntu => exact resting_cmdToUbuntu same held next
  | toAndroid => exact resting_old (only_cmdToAndroid session) held settles

theorem resting_body {options : Options} {command : Command} (held : Old set old disk) :
    Resting set old (body device options command) (fun _ _ => True) disk := by
  have locks : makeLock.Only Op.Apart Fails := only_run trivial
  have sizes : partBytes.Only Op.Apart Fails := only_run trivial
  have notes : ∀ edit, (assign edit).Only Op.Apart Fails := fun _ => only_run trivial
  apply resting_bind
  apply resting_old locks held
  intro free disk held
  apply resting_bind
  apply resting_orDie held.rests
  intro _
  apply resting_bind
  apply resting_old (notes _) held
  intro _ disk held
  apply resting_bind
  apply resting_old sizes held
  intro sized disk held
  apply resting_bind
  apply resting_orDie held.rests
  intro _
  apply resting_bind
  apply resting_orDie held.rests
  intro _
  apply resting_bind
  apply resting_old (only_flags (only_openStore device options)) held
  intro storeRo disk held
  apply resting_bind
  apply resting_dispatch rfl command held
  intro ended after settled
  exact settled.rests

theorem resting_main {options : Options} {command : Command} (held : Old set old disk) :
    Resting set old (main device options command) (fun _ _ => True) disk := by
  rw [Resting, main, wp_onExit]
  apply wp_mono (resting_body held)
  · intro _ _ rests
    exact rests
  · intro status after rests
    -- the trap leaves the store alone
    apply resting_frame (only_onExit device status) rests
    · intro disk rests
      exact rests
    · intro operation flags disk choice works rests
      exact rests.step (flags.apart.untouched _) choice works flags.apart.uncopied
    · intro _ _ _
      trivial
  · intro _ _ _
    trivial

end Dispatch

/-- At every moment of every run, a crash leaves a usable set, the old one or the one copied in the
run, exactly when the set's name has not just been given up and its data has been synced; and the
data has been synced if no sync failed. -/
theorem set_recoverable {device : Device} {options : Options} {command : Command} {set : System}
    {old : Bytes} {tablet : Tablet device.size} {program : Script Empty} {disk : Disk device.size}
    (usable : Usable device tablet.store set old)
    (run : Reaches (crashMachine device) (main device options command, Disk.started tablet)
      (program, disk))
    (fair : Fair disk) : Recoverable set old disk := by
  have held : Old set old (Disk.started tablet) := by
    intro _
    constructor
    · exact usable
    · rfl
    · intro _
      rfl
  have holds : wp (crashMachine device) (fun _ => Rests set old) (fun _ => Rests set old)
      (main device options command, Disk.started tablet).1 (fun _ _ => True)
      (main device options command, Disk.started tablet).2 := resting_main held
  have safe := wp_sound holds run
  cases program with
  | done value => cases value
  | exit status => exact Rests.recoverable safe fair
  | act operation next => exact Rests.recoverable safe fair

/-! ### An import -/

def importedImage : Bytes := androidImage [9]

/-- import-android with one rename that may fail. -/
def importing (moves : Bool) (operation : Op) (tablet : Tablet referenceDevice.size) :
    (crashMachine referenceDevice).Fault operation :=
  match operation with
  | .move (.staging .android) _ => ((moves, false), true)
  | operation => (faultless referenceDevice 0 operation tablet, true)

def importRun (moves : Bool) : Script Empty × Disk referenceDevice.size :=
  play (crashMachine referenceDevice) (fun _ operation disk => importing moves operation disk.tablet)
    120 (main referenceDevice referenceOptions (.importAndroid (some importedImage)),
      Disk.started ubuntuTablet)

theorem importRun_fair (moves : Bool) : Fair (importRun moves).2 := by
  have sums : (importRun moves).2.tablet.history.sumsFailed = false := by
    cases moves <;> decide +kernel
  have separate : apart referenceDevice.sha256.digest (importRun moves).2.tablet.history.hashed =
      true := by
    cases moves <;> decide +kernel
  exact ⟨sums, injOn_of_apart separate⟩

theorem stored_usable :
    Usable referenceDevice ubuntuTablet.store .android (androidImage [7]) := by
  constructor
  · exact ⟨_, rfl, sumsLookup_sumsLine referenceDevice.sha256 _⟩
  · decide
  · decide

theorem set_recoverable_imported : Recoverable .android (androidImage [7]) (importRun true).2 := by
  have left : (importRun true).1.status = some 0 := by decide +kernel
  exact set_recoverable stored_usable
    (Library.Program.exits_of_play (crashMachine referenceDevice) _ 120 left) (importRun_fair true)

/-- A rename that fails behind the first one ends the run without an Android set. -/
theorem import_lost : Usable referenceDevice ubuntuTablet.store .android (androidImage [7]) ∧
    Reaches (crashMachine referenceDevice)
      (main referenceDevice referenceOptions (.importAndroid (some importedImage)),
        Disk.started ubuntuTablet) (.exit 1, (importRun false).2) ∧
    Fair (importRun false).2 ∧
    ¬ ∃ image, Usable referenceDevice (importRun false).2.tablet.store .android image := by
  have left : (importRun false).1.status = some 1 := by decide +kernel
  constructor
  · exact stored_usable
  constructor
  · exact Library.Program.exits_of_play (crashMachine referenceDevice) _ 120 left
  constructor
  · exact importRun_fair false
  · rintro ⟨image, usable⟩
    have absent : ((importRun false).2.tablet.store (.live .android)).isNone = true := by
      decide +kernel
    exact absurd (Option.isNone_iff_eq_none.mp absent) (usable_named usable)

end Liuqin.Switch.Replaced
