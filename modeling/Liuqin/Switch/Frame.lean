/-
What the functions around the writing leave alone.

The flag functions, the release of the lock and the EXIT trap touch neither
boot_a nor the store, and a trap entered with a failure does not turn it into
a success.
-/

import Liuqin.Switch.Reading

namespace Liuqin.Switch

open Liuqin.Library.Program

/-- Commands that neither read nor write boot_a, leave the store alone, let no
signal through and ask for no reboot. -/
def Op.Flags : Op → Prop
  | .assign edit => ∀ shell, (edit shell).ignoring = shell.ignoring
  | .ignoreSignals ignore => ignore = true
  | .readBoot _ _ => False
  | .writeBoot _ => False
  | .removeTree _ => False
  | .makeTree _ => False
  | .move _ _ => False
  | .archive _ _ => False
  | .copyIn _ _ => False
  | .writeSums _ _ => False
  | .reboot => False
  | _ => True

/-- Nothing changed but the flags, the variables and their record. -/
structure Held {size : Nat} (before after : Tablet size) : Prop where
  ignoring : before.shell.ignoring = true → after.shell.ignoring = true
  boot : after.boot = before.boot
  store : after.store = before.store
  hashed : before.history.hashed ⊆ after.history.hashed
  writes : after.history.writes = before.history.writes
  written : after.history.written = before.history.written
  firstStore : after.history.firstStore = before.history.firstStore
  sumsFailed : after.history.sumsFailed = before.history.sumsFailed
  readShort : after.history.readShort = before.history.readShort
  forwardFailed : after.history.forwardFailed = before.history.forwardFailed
  rollbackRefused : after.history.rollbackRefused = before.history.rollbackRefused
  flagFailed : before.history.flagFailed = true → after.history.flagFailed = true

section Holding

variable {size : Nat} {first second third : Tablet size}

theorem Held.refl (tablet : Tablet size) : Held tablet tablet := by
  constructor <;> simp

theorem Held.trans (one : Held first second) (two : Held second third) : Held first third where
  ignoring := two.ignoring ∘ one.ignoring
  boot := two.boot.trans one.boot
  store := two.store.trans one.store
  hashed := List.Subset.trans one.hashed two.hashed
  writes := two.writes.trans one.writes
  written := two.written.trans one.written
  firstStore := two.firstStore.trans one.firstStore
  sumsFailed := two.sumsFailed.trans one.sumsFailed
  readShort := two.readShort.trans one.readShort
  forwardFailed := two.forwardFailed.trans one.forwardFailed
  rollbackRefused := two.rollbackRefused.trans one.rollbackRefused
  flagFailed := two.flagFailed ∘ one.flagFailed

theorem held_flagRequest (tablet : Tablet size) (ok : Bool) :
    Held tablet (tablet.note (History.flagRequest ok)) := by
  constructor <;> simp [Tablet.note, History.flagRequest]
  intro failed
  exact Or.inl failed

theorem held_setFlag (tablet : Tablet size) (value : Bool) (flag : Flag) :
    Held tablet (tablet.setFlag value flag) := by
  cases flag <;> constructor <;> simp [Tablet.setFlag]

theorem Seen.held (seen : Seen first second) : Held first second := by
  obtain ⟨more, rfl⟩ := seen
  constructor <;> simp [Tablet.note]

end Holding

/-- The tablet after a flag request, carried out or not. -/
def Tablet.requested {size : Nat} (tablet : Tablet size) (flag : Flag) (value ok effect : Bool) :
    Tablet size :=
  ((if ok || effect then tablet.setFlag value flag else tablet).note (History.flagRequest ok)).note
    fun history => { history with restoreFailed := history.restoreFailed || (value && !ok) }

theorem held_requested {size : Nat} (tablet : Tablet size) (flag : Flag) (value ok effect : Bool) :
    Held tablet (tablet.requested flag value ok effect) := by
  have request : ∀ before : Tablet size, Held tablet before →
      Held tablet ((before.note (History.flagRequest ok)).note fun history =>
        { history with restoreFailed := history.restoreFailed || (value && !ok) }) := by
    intro before held
    refine (held.trans (held_flagRequest before ok)).trans ?_
    constructor <;> simp [Tablet.note]
  unfold Tablet.requested
  split
  · exact request _ (held_setFlag tablet value flag)
  · exact request _ (Held.refl tablet)

theorem Op.Flags.held {device : Device} {operation : Op} (flags : operation.Flags)
    (choice : Choice device.size operation) (tablet : Tablet device.size) :
    Held tablet (react device operation choice tablet).2 := by
  cases operation
  case readBoot => exact flags.elim
  case writeBoot => exact flags.elim
  case removeTree => exact flags.elim
  case makeTree => exact flags.elim
  case move => exact flags.elim
  case archive => exact flags.elim
  case copyIn => exact flags.elim
  case writeSums => exact flags.elim
  case reboot => exact flags.elim
  case assign edit =>
    exact ⟨(flags tablet.shell).trans, rfl, rfl, fun _ => id, rfl, rfl, rfl, rfl, rfl, rfl, rfl, id⟩
  case ignoreSignals ignore =>
    exact ⟨fun _ => flags, rfl, rfl, fun _ => id, rfl, rfl, rfl, rfl, rfl, rfl, rfl, id⟩
  case sha256sum data => exact (looked_hashing tablet data).held
  case parentDisk => exact held_flagRequest tablet _
  case getro flag => exact held_flagRequest tablet _
  case setro flag value => exact held_requested tablet flag value choice.1 choice.2
  all_goals exact Held.refl tablet

/-! ### What a function performs -/

theorem only_assign {edit : Shell → Shell} (keeps : ∀ shell, (edit shell).ignoring = shell.ignoring) :
    (assign edit).Only Op.Flags Fails :=
  only_run keeps

theorem only_criticalBegin : criticalBegin.Only Op.Flags Fails :=
  only_run rfl

theorem only_clearFlags (device : Device) (found : Bool) (part disk : Option Bool) :
    (clearFlags device found part disk).Only Op.Flags Fails := by
  unfold clearFlags
  refine Prog.only_bind (Prog.only_ite (only_run trivial) trivial) fun diskOpen => ?_
  refine Prog.only_bind (only_orDie (fun _ => trivial) _ _) fun _ => ?_
  refine Prog.only_bind (Prog.only_ite (only_run trivial) trivial) fun partOpen => ?_
  refine Prog.only_bind (only_orDie (fun _ => trivial) _ _) fun _ => ?_
  refine Prog.only_bind (only_run trivial) fun partNow => ?_
  refine Prog.only_bind (only_orDie (fun _ => trivial) _ _) fun _ => ?_
  refine Prog.only_bind (Prog.only_ite (only_run trivial) trivial) fun diskNow => ?_
  exact only_orDie (fun _ => trivial) _ _

theorem only_openRw (device : Device) : (openRw device).Only Op.Flags Fails := by
  unfold openRw
  refine Prog.only_bind (only_run trivial) fun found => ?_
  refine Prog.only_bind (only_assign fun _ => rfl) fun _ => ?_
  refine Prog.only_bind (only_orDie (fun _ => trivial) _ _) fun _ => ?_
  refine Prog.only_bind (only_run trivial) fun part => ?_
  refine Prog.only_bind (only_assign fun _ => rfl) fun _ => ?_
  refine Prog.only_bind (only_orDie (fun _ => trivial) _ _) fun _ => ?_
  refine Prog.only_bind (Prog.only_ite (only_run trivial) trivial) fun disk => ?_
  refine Prog.only_bind (only_assign fun _ => rfl) fun _ => ?_
  refine Prog.only_bind (only_orDie (fun _ => trivial) _ _) fun _ => ?_
  refine Prog.only_bind (only_assign fun _ => rfl) fun _ => ?_
  exact only_clearFlags device found part disk

theorem only_restoreFlag (device : Device) (flag : Flag) :
    (restoreFlag device flag).Only Op.Flags Fails := by
  unfold restoreFlag
  refine Prog.only_bind (only_run trivial) fun requested => ?_
  refine Prog.only_bind (Prog.only_ite (only_run trivial) trivial) fun confirmed => ?_
  refine Prog.only_ite trivial ?_
  exact Prog.only_bind (only_warn (fun _ => trivial) _) fun _ => trivial

theorem only_closeRw (device : Device) : (closeRw device).Only Op.Flags Fails := by
  unfold closeRw
  refine Prog.only_bind (only_run trivial) fun now => ?_
  refine Prog.only_ite ?_ trivial
  refine Prog.only_bind (only_assign fun _ => rfl) fun _ => ?_
  refine Prog.only_bind (Prog.only_ite (only_restoreFlag device .part) trivial) fun part => ?_
  refine Prog.only_bind (Prog.only_ite (only_restoreFlag device .disk) trivial) fun disk => ?_
  refine Prog.only_ite trivial ?_
  exact Prog.only_bind (only_assign fun _ => rfl) fun _ => trivial

theorem only_release : release.Only Op.Flags Fails := by
  unfold release unmount unlock
  refine Prog.only_bind (only_run trivial) fun now => ?_
  refine Prog.only_bind (Prog.only_ite ?_ trivial) fun _ => ?_
  · exact Prog.only_bind (only_assign fun _ => rfl) fun _ => only_run trivial
  · exact Prog.only_ite (Prog.only_bind (only_assign fun _ => rfl) fun _ => only_run trivial) trivial

theorem only_cleanup (device : Device) : (cleanup device).Only Op.Flags Fails :=
  Prog.only_bind (only_closeRw device) fun _ => only_release

/-- The trap ends as it was entered or with a failure. -/
theorem only_onExit (device : Device) (status : Nat) :
    (onExit device status).Only Op.Flags (fun last => last ≠ 0 ∨ last = status) := by
  have either : ∀ last, Fails last → last ≠ 0 ∨ last = status := fun _ => Or.inl
  unfold onExit
  refine Prog.only_bind (Prog.only_mono (only_run trivial) (fun _ => id) either) fun _ => ?_
  refine Prog.only_bind (Prog.only_mono only_criticalBegin (fun _ => id) either) fun _ => ?_
  refine Prog.only_bind (Prog.only_mono (only_cleanup device) (fun _ => id) either) fun _ => ?_
  refine Prog.only_bind (Prog.only_mono (only_run trivial) (fun _ => id) either) fun now => ?_
  change (if _ then 1 else status) ≠ 0 ∨ (if _ then 1 else status) = status
  split
  · exact Or.inl (by decide)
  · exact Or.inr rfl

theorem only_openStore (device : Device) (options : Options) :
    (openStore device options).Only Op.Flags Fails := by
  have mounting : mountedStore.Only Op.Flags Fails := by
    unfold mountedStore
    refine Prog.only_bind (only_run trivial) fun mount => ?_
    cases mount with
    | none => exact only_die (fun _ => trivial) _
    | some mounted =>
        refine Prog.only_bind (only_assign fun _ => rfl) fun _ => ?_
        refine Prog.only_bind (only_run trivial) fun present => ?_
        exact Prog.only_bind (only_orDie (fun _ => trivial) _ _) fun _ => trivial
  unfold openStore
  refine Prog.only_bind (Prog.only_ite trivial mounting) fun fixedRo => ?_
  refine Prog.only_ite trivial ?_
  exact Prog.only_bind (only_run trivial) fun writes => trivial

theorem only_writeState (session : Session) : (writeState session).Only Op.Flags Fails := by
  unfold writeState
  refine Prog.only_ite trivial ?_
  exact Prog.only_bind (only_run trivial) fun _ => only_run trivial

theorem only_doReboot (session : Session) :
    (doReboot session).Only (fun operation => operation.Flags ∨ operation = .reboot) Fails := by
  have saying : ∀ text, (say text).Only (fun operation => operation.Flags ∨ operation = .reboot)
      Fails := only_say fun _ => Or.inl trivial
  unfold doReboot
  refine Prog.only_ite ?_ ?_
  · exact Prog.only_bind (saying _) fun _ => trivial
  refine Prog.only_bind (saying _) fun _ => ?_
  refine Prog.only_ite ?_ ?_
  · exact Prog.only_bind (only_run (Or.inr rfl)) fun _ => trivial
  refine Prog.only_bind ?_ fun _ => ?_
  · exact Prog.only_mono (only_cleanup session.device) (fun _ => Or.inl) (fun _ => id)
  refine Prog.only_bind (only_run (Or.inl trivial)) fun _ => ?_
  refine Prog.only_bind (only_run (Or.inr rfl)) fun ended => ?_
  exact Prog.only_ite trivial (only_run (Or.inr rfl))

theorem only_checkSet (device : Device) (set : System) (quiet : Bool) :
    (checkSet device set quiet).Only Op.Observes Fails := by
  have why : (checkSetWhy device set).Only Op.Observes Fails := by
    unfold checkSetWhy
    refine Prog.only_bind (only_run trivial) fun _ => Prog.only_ite trivial ?_
    refine Prog.only_bind (only_run trivial) fun _ => Prog.only_ite trivial ?_
    refine Prog.only_bind (only_run trivial) fun _ => Prog.only_ite trivial ?_
    refine Prog.only_bind (only_run trivial) fun sums => ?_
    refine Prog.only_bind (only_run trivial) fun image => Prog.only_ite trivial ?_
    refine Prog.only_bind (only_run trivial) fun digest => Prog.only_ite trivial ?_
    exact Prog.only_ite trivial (Prog.only_ite trivial trivial)
  unfold checkSet
  refine Prog.only_bind why fun verdict => ?_
  cases verdict with
  | none => trivial
  | some why =>
      refine Prog.only_ite trivial ?_
      exact Prog.only_bind (only_warn (fun _ => trivial) _) fun _ => trivial

/-- Commands of rollback: all but those of the store and the reboot. -/
def Op.Restores (operation : Op) : Prop :=
  operation.Writes ∨ operation.Flags

theorem only_rollback (device : Device) (set : System) :
    (rollback device set).Only Op.Restores Fails := by
  have looks : ∀ {operation : Op}, operation.Observes → operation.Restores :=
    fun observes => Or.inl (Or.inl observes)
  have warns : ∀ text, (warn text).Only Op.Restores Fails :=
    only_warn fun _ => looks trivial
  unfold rollback
  refine Prog.only_bind (warns _) fun _ => ?_
  refine Prog.only_bind ?_ fun passed => ?_
  · exact Prog.only_mono (only_checkSet device set false) (fun _ => looks) (fun _ => id)
  refine Prog.only_ite ?_ ?_
  · exact Prog.only_bind (warns _) fun _ => warns _
  refine Prog.only_bind ?_ fun want => ?_
  · exact Prog.only_bind (only_run (looks trivial)) fun _ => only_run (looks trivial)
  refine Prog.only_bind ?_ fun _ => ?_
  · exact Prog.only_mono (only_openRw device) (fun _ => Or.inr) (fun _ => id)
  refine Prog.only_bind ?_ fun wrote => ?_
  · exact Prog.only_mono (only_writeImage device _) (fun _ => Or.inl) (fun _ => id)
  refine Prog.only_bind ?_ fun _ => ?_
  · exact Prog.only_mono (only_closeRw device) (fun _ => Or.inr) (fun _ => id)
  refine Prog.only_bind (Prog.only_ite ?_ trivial) fun verified => ?_
  · refine Prog.only_bind ?_ fun _ => trivial
    exact Prog.only_bind (only_run (looks trivial)) fun _ => only_run (looks trivial)
  · exact Prog.only_ite (warns _) (Prog.only_bind (warns _) fun _ => warns _)

/-! ### Rules -/

section Rules

variable {device : Device} {during : Op → Tablet device.size → Prop}
  {exited : Nat → Tablet device.size → Prop} {tablet : Tablet device.size}

/-- No signal gets through while the shell ignores them. -/
theorem wp_ignoring {operation : Op} {returned : Reply operation → Tablet device.size → Prop}
    (ignoring : tablet.shell.ignoring = true) (ongoing : during operation tablet)
    (next : ∀ choice : Choice device.size operation,
      returned (react device operation choice tablet).1 (react device operation choice tablet).2) :
    wp (machine device) during exited (run operation) returned tablet := by
  apply wp_run operation returned ongoing
  · intro open_
    rw [ignoring] at open_
    cases open_
  · exact next

theorem wp_assign {edit : Shell → Shell} {returned : Unit → Tablet device.size → Prop}
    (ignoring : tablet.shell.ignoring = true) (ongoing : during (.assign edit) tablet)
    (next : returned () { tablet with shell := edit tablet.shell }) :
    wp (machine device) during exited (assign edit) returned tablet :=
  wp_ignoring ignoring ongoing fun _ => next

/-- `trap '' HUP INT TERM` or `trap 'exit 130' HUP INT TERM` -/
def Tablet.ignore {size : Nat} (tablet : Tablet size) (ignoring : Bool) : Tablet size :=
  { tablet with shell := { tablet.shell with ignoring := ignoring } }

theorem wp_ignoreSignals {ignoring : Bool} {returned : Unit → Tablet device.size → Prop}
    (ongoing : during (.ignoreSignals ignoring) tablet)
    (signalled : tablet.shell.ignoring = false → exited 130 (tablet.ignore ignoring))
    (next : returned () (tablet.ignore ignoring)) :
    wp (machine device) during exited (ignoreSignals ignoring) returned tablet :=
  wp_run _ _ ongoing (fun open_ _ => signalled open_) fun _ => next

theorem wp_resetExitTrap {returned : Unit → Tablet device.size → Prop}
    (ongoing : during .resetExitTrap tablet)
    (signalled : tablet.shell.ignoring = false → exited 130 tablet)
    (next : returned () tablet) :
    wp (machine device) during exited resetExitTrap returned tablet :=
  wp_run _ _ ongoing (fun open_ _ => signalled open_) fun _ => next

theorem wp_shellIgnoring {returned : Shell → Tablet device.size → Prop}
    (ignoring : tablet.shell.ignoring = true) (ongoing : during .shell tablet)
    (next : returned tablet.shell tablet) :
    wp (machine device) during exited shell returned tablet :=
  wp_ignoring ignoring ongoing fun _ => next

theorem wp_parentDisk {returned : Bool → Tablet device.size → Prop}
    (ignoring : tablet.shell.ignoring = true) (ongoing : during .parentDisk tablet)
    (next : ∀ found, returned found (tablet.note (History.flagRequest found))) :
    wp (machine device) during exited parentDisk returned tablet :=
  wp_ignoring ignoring ongoing next

theorem wp_roGet {flag : Flag} {returned : Option Bool → Tablet device.size → Prop}
    (ignoring : tablet.shell.ignoring = true) (ongoing : during (.getro flag) tablet)
    (next : ∀ works, returned (bif works then some (tablet.reported device.coupled flag) else none)
      (tablet.note (History.flagRequest works))) :
    wp (machine device) during exited (roGet flag) returned tablet :=
  wp_ignoring ignoring ongoing next

theorem wp_roSet {flag : Flag} {value : Bool} {returned : Bool → Tablet device.size → Prop}
    (ignoring : tablet.shell.ignoring = true) (ongoing : during (.setro flag value) tablet)
    (next : ∀ ok effect, returned ok (tablet.requested flag value ok effect)) :
    wp (machine device) during exited (roSet flag value) returned tablet :=
  wp_ignoring ignoring ongoing fun choice => next choice.1 choice.2

/-- Handling the flags and leaving with a failure are both harmless here. -/
def Suffers (during : Op → Tablet device.size → Prop)
    (exited : Nat → Tablet device.size → Prop) (tablet : Tablet device.size) : Prop :=
  ∀ after, Held tablet after →
    (∀ operation : Op, operation.Flags → during operation after) ∧
      ∀ status, status ≠ 0 → exited status after

theorem wp_flags {α : Type} {program : Script α} {returned : α → Tablet device.size → Prop}
    (only : program.Only Op.Flags Fails) (suffers : Suffers during exited tablet)
    (next : ∀ value after, Held tablet after → returned value after) :
    wp (machine device) during exited program returned tablet :=
  wp_of_only only (fun _ flags fault before held => held.trans (flags.held fault.1 before))
    (fun operation flags after held => (suffers after held).1 operation flags)
    (fun status failure after held => (suffers after held).2 status failure) next
    (Held.refl tablet)

end Rules

end Liuqin.Switch
