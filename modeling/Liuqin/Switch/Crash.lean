/-
The store on a disk that may lose what no sync has written out.

The directory entries of a crashed disk are those of some moment of the run,
which is a state of the run itself.  Data of files written since the last sync
that worked may be anything.  What the disk keeps in mind beside the tablet no
command reads.
-/

import Liuqin.Switch.Kept

namespace Liuqin.Switch

open Liuqin.Library.Program

structure Disk (size : Nat) where
  tablet : Tablet size
  /-- Directories with an image or sums that no sync has written out. -/
  unsynced : Place → Bool
  syncFailed : Bool
  /-- The set has been moved aside and nothing has taken its name since. -/
  aside : System → Bool
  /-- The last image copied into the store. -/
  copied : Option Bytes

namespace Disk

variable {size : Nat}

/-- The data of a directory is in the cache. -/
def dirty (disk : Disk size) (place : Place) : Disk size :=
  { disk with unsynced := Function.update disk.unsynced place true }

/-- An image has been copied into a directory. -/
def copy (disk : Disk size) (place : Place) : Disk size :=
  { disk.dirty place with copied := (disk.tablet.store.files place).image }

/-- A directory has changed its name. -/
def rename (disk : Disk size) (source target : Place) : Disk size :=
  { disk with
    unsynced := Function.update
      (Function.update disk.unsynced target (disk.unsynced target || disk.unsynced source))
      source false
    aside := fun set =>
      if target = .live set then false else if source = .live set then true else disk.aside set }

/-- What a command leaves in the cache. -/
def record (disk : Disk size) : (operation : Op) → Reply operation → Bool → Disk size
  | .sync, _, works =>
      bif works then { disk with unsynced := fun _ => false } else { disk with syncFailed := true }
  | .archive place _, _, _ => disk.copy place
  | .copyIn place _, _, _ => disk.copy place
  | .writeSums place _, _, _ => disk.dirty place
  | .move source target, moved, _ => bif moved then disk.rename source target else disk
  | _, _, _ => disk

/-- A store that a crash may leave. -/
def Survives (disk : Disk size) (store : Store) : Prop :=
  ∀ place, disk.unsynced place = false → store place = disk.tablet.store place

theorem survives_self (disk : Disk size) : disk.Survives disk.tablet.store := fun _ _ => rfl

/-- Every store that a crash leaves has a usable set. -/
def Usable (device : Device) (disk : Disk size) (set : System) (accepted : Bytes → Prop) : Prop :=
  ∀ store, disk.Survives store →
    ∃ image, Switch.Usable device store set image ∧ accepted image

end Disk

/-- The second half of a fault is whether a sync writes the data out. -/
def crashMachine (device : Device) : Machine Answer (Disk device.size) where
  Fault := fun operation => (machine device).Fault operation × Bool
  perform := fun operation fault disk =>
    let (answer, after) := (machine device).perform operation fault.1 disk.tablet
    (answer, { disk with tablet := after }.record operation answer.1 fault.2)

/-- A disk with nothing in the cache. -/
def Disk.started {size : Nat} (tablet : Tablet size) : Disk size :=
  { tablet := tablet.started
    unsynced := fun _ => false
    syncFailed := false
    aside := fun _ => false
    copied := none }

section Steps

variable {device : Device}

/-- One command on the disk. -/
def Disk.after (disk : Disk device.size) (operation : Op) (choice : Choice device.size operation)
    (works : Bool) : Disk device.size :=
  { disk with tablet := (react device operation choice disk.tablet).2 }.record operation
    (react device operation choice disk.tablet).1 works

@[simp] theorem record_tablet {size : Nat} (disk : Disk size) (operation : Op)
    (reply : Reply operation) (works : Bool) :
    (disk.record operation reply works).tablet = disk.tablet := by
  cases operation
  case sync => cases works <;> rfl
  case move source target => cases reply <;> rfl
  all_goals rfl

@[simp] theorem after_tablet (disk : Disk device.size) (operation : Op)
    (choice : Choice device.size operation) (works : Bool) :
    (disk.after operation choice works).tablet =
      (react device operation choice disk.tablet).2 := by
  rw [Disk.after, record_tablet]

/-- A command's rule, as on the tablet. -/
theorem wp_onDisk {during : Op → Disk device.size → Prop} {exited : Nat → Disk device.size → Prop}
    {disk : Disk device.size} (operation : Op)
    (returned : Reply operation → Disk device.size → Prop) (ongoing : during operation disk)
    (signalled : ∀ choice works, exited 130 (disk.after operation choice works))
    (next : ∀ choice works, returned (react device operation choice disk.tablet).1
      (disk.after operation choice works)) :
    wp (crashMachine device) during exited (run operation) returned disk := by
  refine ⟨ongoing, ?_⟩
  rintro ⟨⟨choice, signal⟩, works⟩
  cases interrupted : (signal && !disk.tablet.shell.ignoring) with
  | true =>
      simp only [crashMachine, machine, interrupted]
      exact signalled choice works
  | false =>
      simp only [crashMachine, machine, interrupted]
      exact next choice works

/-! ### What every command keeps -/

/-- What is hashed and what has failed is remembered. -/
structure Remembers {size : Nat} (before after : Tablet size) : Prop where
  hashed : before.history.hashed ⊆ after.history.hashed
  sumsFailed : before.history.sumsFailed = true → after.history.sumsFailed = true

theorem Stored.remembers {size : Nat} {before after : Tablet size} (stored : Stored before after) :
    Remembers before after :=
  ⟨stored.hashed, stored.sumsFailed⟩

theorem Held.remembers {size : Nat} {before after : Tablet size} (held : Held before after) :
    Remembers before after :=
  ⟨held.hashed, held.sumsFailed.trans⟩

theorem remembers_react (operation : Op) (choice : Choice device.size operation)
    (tablet : Tablet device.size) : Remembers tablet (react device operation choice tablet).2 := by
  cases operation
  case removeTree place => exact (stored_place tablet place _).remembers
  case makeTree place => exact (stored_makeTree place choice tablet).remembers
  case move source target => exact (stored_move source target choice tablet).remembers
  case archive place count => exact (stored_place tablet place _).remembers
  case copyIn place data => exact (stored_place tablet place _).remembers
  case writeSums place line =>
    exact ((stored_place tablet place _).trans (stored_sums _ _)).remembers
  case setro flag value => exact (held_requested tablet flag value choice.1 choice.2).remembers
  case assign edit => exact ⟨fun _ => id, id⟩
  case ignoreSignals ignore => exact ⟨fun _ => id, id⟩
  case writeBoot data => exact ⟨fun _ => id, id⟩
  case reboot => exact ⟨fun _ => id, id⟩
  all_goals exact (Looked.stored (Op.Observes.looked (by trivial) choice tablet)).remembers

theorem store_react {operation : Op} (apart : operation.Apart)
    (choice : Choice device.size operation) (tablet : Tablet device.size) :
    (react device operation choice tablet).2.store = tablet.store := by
  by_cases observes : operation.Observes
  · exact (observes.looked choice tablet).store
  · cases operation
    case setro flag value => exact (held_requested tablet flag value choice.1 choice.2).store
    all_goals first
      | exact apart.elim
      | exact absurd trivial observes
      | rfl

/-- Commands on another directory leave a directory alone. -/
def Op.Touches (place : Place) : Op → Prop
  | .removeTree other => other = place
  | .makeTree other => other = place
  | .move source target => source = place ∨ target = place
  | .archive other _ => other = place
  | .copyIn other _ => other = place
  | .writeSums other _ => other = place
  | _ => False

theorem Op.Apart.untouched {operation : Op} (apart : operation.Apart) (place : Place) :
    ¬ operation.Touches place := by
  cases operation
  case removeTree => exact apart.elim
  case makeTree => exact apart.elim
  case move => exact apart.elim
  case archive => exact apart.elim
  case copyIn => exact apart.elim
  case writeSums => exact apart.elim
  all_goals exact id

theorem store_untouched {operation : Op} {place : Place} (untouched : ¬ operation.Touches place)
    (choice : Choice device.size operation) (tablet : Tablet device.size) :
    (react device operation choice tablet).2.store place = tablet.store place := by
  by_cases apart : operation.Apart
  · rw [store_react apart]
  · cases operation
    case removeTree other => exact place_elsewhere tablet _ (fun same => untouched same.symm)
    case makeTree other => exact makeTree_elsewhere choice tablet (fun same => untouched same.symm)
    case move source target =>
      exact move_elsewhere choice tablet (fun same => untouched (Or.inl same.symm))
        (fun same => untouched (Or.inr same.symm))
    case archive other count => exact place_elsewhere tablet _ (fun same => untouched same.symm)
    case copyIn other data => exact place_elsewhere tablet _ (fun same => untouched same.symm)
    case writeSums other line => exact place_elsewhere tablet _ (fun same => untouched same.symm)
    all_goals exact absurd trivial apart

theorem syncFailed_after (disk : Disk device.size) (operation : Op)
    (choice : Choice device.size operation) (works : Bool)
    (fine : (disk.after operation choice works).syncFailed = false) : disk.syncFailed = false := by
  cases operation
  case sync =>
    cases works with
    | true => exact fine
    | false => cases fine
  case move source target =>
    rw [Disk.after] at fine
    simp only [Disk.record] at fine
    cases moved : (react device (.move source target) choice disk.tablet).1 with
    | true =>
        rw [moved] at fine
        exact fine
    | false =>
        rw [moved] at fine
        exact fine
  all_goals exact fine

theorem unsynced_untouched {operation : Op} {place : Place} (untouched : ¬ operation.Touches place)
    {disk : Disk device.size} (choice : Choice device.size operation) (works : Bool)
    (synced : disk.unsynced place = false) :
    (disk.after operation choice works).unsynced place = false := by
  have elsewhere : ∀ other, other ≠ place →
      Function.update disk.unsynced other true place = false := by
    intro other different
    rw [Function.update_of_ne (fun same => different same.symm)]
    exact synced
  cases operation
  case sync =>
    cases works with
    | true => rfl
    | false => exact synced
  case archive other count => exact elsewhere other untouched
  case copyIn other data => exact elsewhere other untouched
  case writeSums other line => exact elsewhere other untouched
  case move source target =>
    rw [Disk.after]
    simp only [Disk.record]
    cases moved : (react device (.move source target) choice disk.tablet).1 with
    | true =>
        have notSource : place ≠ source := fun same => untouched (Or.inl same.symm)
        have notTarget : place ≠ target := fun same => untouched (Or.inr same.symm)
        simp only [cond_true, Disk.rename, Function.update_of_ne notSource,
          Function.update_of_ne notTarget]
        exact synced
    | false => exact synced
  all_goals exact synced

theorem aside_untouched {operation : Op} {set : System} (untouched : ¬ operation.Touches (.live set))
    (disk : Disk device.size) (choice : Choice device.size operation) (works : Bool) :
    (disk.after operation choice works).aside set = disk.aside set := by
  cases operation
  case sync => cases works <;> rfl
  case move source target =>
    rw [Disk.after]
    simp only [Disk.record]
    cases moved : (react device (.move source target) choice disk.tablet).1 with
    | true =>
        have notSource : source ≠ .live set := fun same => untouched (Or.inl same)
        have notTarget : target ≠ .live set := fun same => untouched (Or.inr same)
        simp only [cond_true, Disk.rename, if_neg notSource, if_neg notTarget]
    | false => rfl
  all_goals rfl

/-- Commands that copy an image into the store. -/
def Op.Copies : Op → Prop
  | .archive _ _ => True
  | .copyIn _ _ => True
  | _ => False

theorem copied_after {operation : Op} (uncopied : ¬ operation.Copies) (disk : Disk device.size)
    (choice : Choice device.size operation) (works : Bool) :
    (disk.after operation choice works).copied = disk.copied := by
  cases operation
  case archive => exact absurd trivial uncopied
  case copyIn => exact absurd trivial uncopied
  case sync => cases works <;> rfl
  case move source target =>
    rw [Disk.after]
    simp only [Disk.record]
    cases (react device (.move source target) choice disk.tablet).1 <;> rfl
  all_goals rfl

theorem Op.Apart.uncopied {operation : Op} (apart : operation.Apart) : ¬ operation.Copies := by
  cases operation
  case archive => exact apart.elim
  case copyIn => exact apart.elim
  all_goals exact id

end Steps

end Liuqin.Switch
