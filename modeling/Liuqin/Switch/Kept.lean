/-
The Android boot image over sequences of runs.

Runs follow one another from wherever the last one exited or crashed, under
either system.  The image stays in boot_a or in store/android as long as no
run archives a partition that only looks like Android: stash_live takes the
header of what it reads for the image itself, so a torn boot_a can replace the
one good copy.
-/

import Liuqin.Switch.Archive
import Liuqin.Switch.Frame
import Liuqin.Switch.Reference

namespace Liuqin.Switch

open Liuqin.Library.Program

/-- What one boot of the tablet may differ in from the next. -/
structure Boot where
  isAndroid : Bool
  shellBits : Nat
  wide : 32 ≤ shellBits
  runningSlot : Option Slot
  bootDev : String
  storePath : String

/-- The same tablet under another boot. -/
abbrev Device.booted (device : Device) (boot : Boot) : Device :=
  { device with
    isAndroid := boot.isAndroid
    shellBits := boot.shellBits
    runningSlot := boot.runningSlot
    bootDev := boot.bootDev
    storePath := boot.storePath }

/-- The directory holds a boot.img that is this image once zero-filled. -/
def HoldsImage (size : Nat) (android : Bytes) (store : Store) (place : Place) : Prop :=
  ∃ image, (store.files place).image = some image ∧ padded size image = android

/-- The image is in boot_a or in one of the Android directories. -/
def Present {size : Nat} (android : Bytes) (tablet : Tablet size) : Prop :=
  tablet.boot.toList = android ∨
    ∃ place, place.set = .android ∧ HoldsImage size android tablet.store place

section Kept

variable {device : Device} {android : Bytes} {tablet after : Tablet device.size}

/-! ### The invariant -/

/-- The image is in boot_a or in store/android. -/
def Anchored (android : Bytes) (tablet : Tablet device.size) : Prop :=
  tablet.boot.toList = android ∨ HoldsImage device.size android tablet.store (.live .android)

theorem Anchored.present (anchored : Anchored android tablet) : Present android tablet :=
  anchored.imp_right fun holds => ⟨.live .android, rfl, holds⟩

theorem Anchored.of_same (anchored : Anchored android tablet) (boot : after.boot = tablet.boot)
    (live : after.store (.live .android) = tablet.store (.live .android)) :
    Anchored android after := by
  rcases anchored with inBoot | ⟨image, stored, same⟩
  · refine Or.inl ?_
    rw [boot]
    exact inBoot
  · refine Or.inr ⟨image, ?_, same⟩
    rw [Store.files, live]
    exact stored

/-- Anchored, as long as no two inputs of sha256sum collide. -/
def Sure (android : Bytes) (tablet : Tablet device.size) : Prop :=
  Set.InjOn device.sha256.digest {data | data ∈ tablet.history.hashed} → Anchored android tablet

theorem Anchored.sure (anchored : Anchored android tablet) : Sure android tablet :=
  fun _ => anchored

theorem Sure.of_same (sure : Sure android tablet) (boot : after.boot = tablet.boot)
    (store : after.store = tablet.store)
    (hashed : tablet.history.hashed ⊆ after.history.hashed) : Sure android after :=
  fun injective => (sure (injective.mono fun _ member => hashed member)).of_same boot (by rw [store])

theorem Sure.held (sure : Sure android tablet) (held : Held tablet after) : Sure android after :=
  sure.of_same held.boot held.store held.hashed

/-- The image is in store/android, whatever is written to boot_a. -/
def Secured (android : Bytes) (tablet : Tablet device.size) : Prop :=
  Set.InjOn device.sha256.digest {data | data ∈ tablet.history.hashed} →
    HoldsImage device.size android tablet.store (.live .android)

theorem Secured.sure (secured : Secured android tablet) : Sure android tablet :=
  fun injective => Or.inr (secured injective)

theorem Secured.of_same (secured : Secured android tablet) (store : after.store = tablet.store)
    (hashed : tablet.history.hashed ⊆ after.history.hashed) : Secured android after := by
  intro injective
  rw [store]
  exact secured (injective.mono fun _ member => hashed member)

theorem Secured.looked (secured : Secured android tablet) (looked : Looked tablet after) :
    Secured android after :=
  secured.of_same looked.store looked.hashed

theorem Anchored.looked (anchored : Anchored android tablet) (looked : Looked tablet after) :
    Anchored android after :=
  anchored.of_same looked.boot (by rw [looked.store])

theorem Anchored.held (anchored : Anchored android tablet) (held : Held tablet after) :
    Anchored android after :=
  anchored.of_same held.boot (by rw [held.store])

/-- An image that is not in boot_a is in the store. -/
theorem Anchored.secured (anchored : Anchored android tablet)
    (different : tablet.boot.toList ≠ android) : Secured android tablet :=
  fun _ => anchored.resolve_left different

/-! ### Commands that leave the store alone -/

/-- Commands that leave the store alone. -/
def Op.Apart : Op → Prop
  | .removeTree _ => False
  | .makeTree _ => False
  | .move _ _ => False
  | .archive _ _ => False
  | .copyIn _ _ => False
  | .writeSums _ _ => False
  | _ => True

theorem Op.Flags.apart {operation : Op} (flags : operation.Flags) : operation.Apart := by
  cases operation <;> trivial

theorem Op.Observes.apart {operation : Op} (observes : operation.Observes) : operation.Apart := by
  cases operation <;> trivial

theorem Op.Restores.apart {operation : Op} (restores : operation.Restores) : operation.Apart := by
  rcases restores with (observes | ⟨data, rfl⟩) | flags
  · exact observes.apart
  · trivial
  · exact flags.apart

theorem Op.Apart.secured {operation : Op} (apart : operation.Apart)
    (choice : Choice device.size operation) (secured : Secured android tablet) :
    Secured android (react device operation choice tablet).2 := by
  cases operation
  case removeTree => exact apart.elim
  case makeTree => exact apart.elim
  case move => exact apart.elim
  case archive => exact apart.elim
  case copyIn => exact apart.elim
  case writeSums => exact apart.elim
  case setro flag value =>
    have held := held_requested tablet flag value choice.1 choice.2
    exact secured.of_same held.store held.hashed
  case sha256sum data => exact secured.looked (looked_hashing tablet data).looked
  all_goals exact secured.of_same rfl (fun _ => id)

theorem only_confirmSet (session : Session) (set back : System) (want : Line) (wrote : Bool) :
    (confirmSet session set back want wrote).Only Op.Apart Fails := by
  have prints : ∀ text, (print text).Only Op.Apart Fails := fun _ => only_run trivial
  unfold confirmSet
  refine Prog.only_bind (Prog.only_ite (prints _) trivial) fun _ => ?_
  refine Prog.only_bind ?_ fun got => ?_
  · exact Prog.only_bind (only_run trivial) fun _ => only_run trivial
  refine Prog.only_ite (Prog.only_bind (prints _) fun _ => only_run trivial) ?_
  refine Prog.only_bind (Prog.only_ite (prints _) trivial) fun _ => ?_
  refine Prog.only_bind ?_ fun _ => only_die (fun _ => trivial) _
  exact Prog.only_mono (only_rollback session.device back) (fun _ restores => restores.apart)
    (fun _ => id)

theorem only_installSet (session : Session) (set back : System) :
    (installSet session set back).Only Op.Apart Fails := by
  have flags : ∀ {α : Type} {program : Script α}, program.Only Op.Flags Fails →
      program.Only Op.Apart Fails :=
    fun only => Prog.only_mono only (fun _ flags => flags.apart) (fun _ => id)
  unfold installSet overwrite
  refine Prog.only_bind ?_ fun want => ?_
  · exact Prog.only_bind (only_run trivial) fun _ => only_run trivial
  refine Prog.only_bind (only_run trivial) fun image => ?_
  refine Prog.only_ite (only_run trivial) ?_
  refine Prog.only_bind (only_run trivial) fun _ => ?_
  refine Prog.only_bind (only_run trivial) fun _ => ?_
  refine Prog.only_bind (flags (only_openRw session.device)) fun _ => ?_
  refine Prog.only_bind ?_ fun wrote => ?_
  · exact Prog.only_mono (only_writeImage session.device _)
      (fun _ writes => Op.Restores.apart (Or.inl writes)) (fun _ => id)
  refine Prog.only_bind (flags (only_closeRw session.device)) fun closed => ?_
  refine Prog.only_bind (only_orDie (fun _ => trivial) _ _) fun _ => ?_
  exact only_confirmSet session set back want wrote

/-! ### Rules -/

/-- The image is somewhere whenever the trap does something and at its exit. -/
def Bound (android : Bytes) (status : Nat) (tablet : Tablet device.size) : Prop :=
  wp (machine device) (fun _ => Sure android) (fun _ => Sure android) (onExit device status)
    (fun _ _ => True) tablet

theorem bound (sure : Sure android tablet) (status : Nat) : Bound android status tablet :=
  wp_of_only (only_onExit device status)
    (fun _ flags fault before sure => Sure.held sure (flags.held fault.1 before))
    (fun _ _ _ => id) (fun _ _ _ => id) (fun _ _ _ => trivial) sure

theorem Anchored.bears (anchored : Anchored android tablet) :
    Bears (fun _ => Sure android) (Bound android) tablet :=
  fun _ looked => ⟨fun _ _ => (anchored.looked looked).sure,
    fun status _ => bound (anchored.looked looked).sure status⟩

theorem Anchored.suffers (anchored : Anchored android tablet) :
    Suffers (fun _ => Sure android) (Bound android) tablet :=
  fun _ held => ⟨fun _ _ => (anchored.held held).sure,
    fun status _ => bound (anchored.held held).sure status⟩

/-- A dry run with the image somewhere, or the image in the store. -/
def Ready (android : Bytes) (dry : Bool) (tablet : Tablet device.size) : Prop :=
  dry = true ∧ Anchored android tablet ∨ Secured android tablet

section Commands

variable {start : Tablet device.size} {options : Options} {command : Command}

end Commands

end Kept

end Liuqin.Switch
