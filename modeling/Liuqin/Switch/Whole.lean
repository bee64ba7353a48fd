/-
A successful switch means the whole boot partition is the target set.

Every way to an exit with status 0 or to a reboot request passes a comparison
of two digests: that of the zero-filled image of a checked set and that of
what was read of the partition.  A read that stopped early cannot pass it, for
the image is as long as the partition.
-/

import Liuqin.Switch.Frame
import Liuqin.Switch.Reference

namespace Liuqin.Switch

open Liuqin.Library.Program

def Command.target : Command → Option System
  | .toUbuntu => some .ubuntu
  | .toAndroid => some .android
  | _ => none

section Whole

variable {device : Device}

/-- boot_a holds a set that passed its check, zero-filled to the end, the store
still holds that set, and this boot is not known to come from slot B. -/
structure Installed (device : Device) (store : Store) (set : System)
    (tablet : Tablet device.size) : Prop where
  slot : device.runningSlot ≠ some .b
  kept : tablet.store (.live set) = store (.live set)
  holds : ∃ image, Usable device store set image ∧ tablet.boot.toList = padded device.size image

/-- What success owes, as long as no two inputs of sha256sum collide. -/
def Owed (device : Device) (store : Store) (set : System) (tablet : Tablet device.size) : Prop :=
  Set.InjOn device.sha256.digest {data | data ∈ tablet.history.hashed} →
    Installed device store set tablet

theorem Owed.held {store : Store} {set : System} {before after : Tablet device.size} (held : Held before after)
    (owed : Owed device store set before) : Owed device store set after := by
  intro injective
  have earlier := owed (injective.mono fun _ member => held.hashed member)
  obtain ⟨image, usable, same⟩ := earlier.holds
  refine ⟨earlier.slot, ?_, image, usable, ?_⟩
  · rw [held.store]
    exact earlier.kept
  · rw [held.boot]
    exact same

theorem Owed.ignore {store : Store} {set : System} {tablet : Tablet device.size}
    (owed : Owed device store set tablet) (ignoring : Bool) :
    Owed device store set (tablet.ignore ignoring) := by
  intro injective
  have installed := owed injective
  exact ⟨installed.slot, installed.kept, installed.holds⟩

/-! ### Exits and reboots -/

/-- At a reboot request the target is installed. -/
def Requested (device : Device) (store : Store) (set : System) (operation : Op) (tablet : Tablet device.size) :
    Prop :=
  operation = .reboot → Owed device store set tablet

def Succeeded (device : Device) (store : Store) (set : System) (status : Nat) (tablet : Tablet device.size) :
    Prop :=
  status = 0 → Owed device store set tablet

/-- The trap entered with this status ends well. -/
def Trapped (device : Device) (store : Store) (set : System) (status : Nat) (tablet : Tablet device.size) : Prop :=
  wp (machine device) (Requested device store set) (Succeeded device store set) (onExit device status)
    (fun _ _ => True) tablet

variable {store : Store} {set : System} {tablet : Tablet device.size}

theorem Op.Flags.requested {operation : Op} (flags : operation.Flags) (store : Store) (set : System)
    (tablet : Tablet device.size) : Requested device store set operation tablet := by
  rintro rfl
  exact flags.elim

theorem Op.Observes.requested {operation : Op} (observes : operation.Observes) (store : Store) (set : System)
    (tablet : Tablet device.size) : Requested device store set operation tablet := by
  rintro rfl
  exact observes.elim

theorem Op.Stores.requested {operation : Op} {other : System} (stores : operation.Stores other)
    (store : Store) (set : System) (tablet : Tablet device.size) : Requested device store set operation tablet := by
  rintro rfl
  exact stores.elim

theorem trapped {status : Nat} (start : Succeeded device store set status tablet) :
    Trapped device store set status tablet := by
  refine wp_of_only (only_onExit device status) ?_ ?_ ?_ (fun _ _ _ => trivial) start
  · intro operation flags fault before holds success
    exact (holds success).held (flags.held fault.1 before)
  · exact fun _ flags after _ => flags.requested store set after
  · rintro last (failure | rfl) after holds
    · exact fun success => absurd success failure
    · exact holds

theorem trapped_failure {status : Nat} (failure : status ≠ 0) (tablet : Tablet device.size) :
    Trapped device store set status tablet :=
  trapped fun success => absurd success failure

theorem bears_requested (store : Store) (set : System) (tablet : Tablet device.size) :
    Bears (Requested device store set) (Trapped device store set) tablet :=
  fun after _ => ⟨fun _ observes => observes.requested store set after,
    fun _ failure => trapped_failure failure after⟩

theorem suffers_requested (store : Store) (set : System) (tablet : Tablet device.size) :
    Suffers (Requested device store set) (Trapped device store set) tablet :=
  fun after _ => ⟨fun _ flags => flags.requested store set after,
    fun _ failure => trapped_failure failure after⟩

/-! ### The functions -/

/-- The target set is as it was when it was checked. -/
structure Target (device : Device) (store : Store) (set : System) (image : Bytes)
    (tablet : Tablet device.size) : Prop where
  usable : Usable device store set image
  same : tablet.store (.live set) = store (.live set)
  slot : device.runningSlot ≠ some .b

section Target

variable {image : Bytes} {after : Tablet device.size}

theorem Target.now (target : Target device store set image tablet) :
    Usable device tablet.store set image := target.usable.of_same target.same

theorem Target.kept (target : Target device store set image tablet)
    (kept : after.store = tablet.store) : Target device store set image after :=
  ⟨target.usable, by rw [kept, target.same], target.slot⟩

theorem Target.owed (target : Target device store set image tablet)
    (boot : Set.InjOn device.sha256.digest {data | data ∈ tablet.history.hashed} →
      tablet.boot.toList = padded device.size image) : Owed device store set tablet :=
  fun injective => ⟨target.slot, target.same, image, target.usable, boot injective⟩

/-- What is left to do once the partition is verified. -/
theorem wp_finish {session : Session} (same : session.device = device) (owed : Owed device store set tablet) :
    wp (machine device) (Requested device store set) (Trapped device store set) (writeState session)
      (fun _ => wp (machine device) (Requested device store set) (Trapped device store set) (doReboot session)
        fun ended after => Trapped device store set (if ended then 0 else 1) after) tablet := by
  subst same
  refine wp_writeState (bears_requested store set tablet) ?_
  refine wp_of_only (only_doReboot session) ?_ ?_ ?_ ?_ owed
  · rintro operation (flags | rfl) fault before holds
    · exact holds.held (flags.held fault.1 before)
    · intro injective
      have installed := holds injective
      exact ⟨installed.slot, installed.kept, installed.holds⟩
  · rintro operation (flags | rfl) after holds
    · exact flags.requested store set after
    · exact fun _ => holds
  · exact fun _ failure after _ => trapped_failure failure after
  · exact fun _ _ holds => trapped fun _ => holds

theorem wp_confirmed {session : Session} (same : session.device = device) {back : System}
    {want : Line} {wrote : Bool} {returned : Unit → Tablet device.size → Prop}
    (target : Target device store set image tablet)
    (wanted : padded device.size image ∈ tablet.history.hashed)
    (digest : want = device.sha256.digest (padded device.size image))
    (next : ∀ after, Owed device store set after → returned () after) :
    wp (machine device) (Requested device store set) (Trapped device store set)
      (confirmSet session set back want wrote) returned tablet := by
  subst same
  have bears := fun after : Tablet session.device.size => bears_requested store set after
  simp only [confirmSet, Prog.bind_eq, wp_bind]
  refine wp_warnIf (bears tablet) _ _ ?_
  refine wp_shaOfPart (bears tablet) fun got part => ?_
  have read := looked_hashedPart tablet got
  split
  · rename_i verified
    have owed : Owed session.device store set (tablet.hashedPart got) :=
      (target.kept read.store).owed fun injective =>
        boot_eq_padded target.usable.fits part read.boot
          (digest.symm.trans verified.2.symm) (read.hashed wanted) List.mem_cons_self injective
    simp only [wp_bind]
    refine wp_say (bears _).watches _ ?_
    refine wp_ignoreSignals (fun reboot => by cases reboot) ?_ (next _ (owed.ignore false))
    exact fun _ => trapped_failure (by decide) _
  · simp only [wp_bind]
    refine wp_warnIf (bears _).watches _ _ ?_
    refine wp_of_performed (only_rollback session.device back) ?_
      (fun _ failure after => trapped_failure failure after) ?_
    · rintro operation ((observes | ⟨data, rfl⟩) | flags) after
      · exact observes.requested store set after
      · intro reboot
        cases reboot
      · exact flags.requested store set after
    · exact fun _ after => wp_die (bears after) _

theorem wp_overwrite {session : Session} (same : session.device = device) {back : System}
    {want : Line} {returned : Unit → Tablet device.size → Prop}
    (target : Target device store set image tablet)
    (wanted : padded device.size image ∈ tablet.history.hashed)
    (digest : want = device.sha256.digest (padded device.size image))
    (next : ∀ after, Owed device store set after → returned () after) :
    wp (machine device) (Requested device store set) (Trapped device store set)
      (overwrite session set back want) returned tablet := by
  subst same
  have suffers := fun after : Tablet session.device.size => suffers_requested store set after
  simp only [overwrite, Prog.bind_eq, wp_bind]
  refine wp_flags only_criticalBegin (suffers tablet) fun _ one held => ?_
  refine wp_flags (only_openRw session.device) (suffers one) fun _ two further => ?_
  have opened := held.trans further
  -- writing changes boot_a and the record, never the store
  have writing : wp (machine session.device) (Requested session.device store set)
      (Trapped session.device store set) (writeImage session.device (.live set))
      (fun _ after => after.store = tablet.store ∧
        tablet.history.hashed ⊆ after.history.hashed) two := by
    refine wp_of_only (only_writeImage session.device _) ?_ ?_
      (fun _ failure after _ => trapped_failure failure after) (fun _ _ => id)
      ⟨opened.store, opened.hashed⟩
    · rintro operation (observes | ⟨data, rfl⟩) fault before ⟨sameStore, more⟩
      · have looked := observes.looked fault.1 before
        exact ⟨looked.store.trans sameStore, List.Subset.trans more looked.hashed⟩
      · exact ⟨sameStore, more⟩
    · rintro operation (observes | ⟨data, rfl⟩) after _
      · exact observes.requested store set after
      · intro reboot
        cases reboot
  refine wp_returned writing fun wrote three ⟨sameStore, more⟩ => ?_
  refine wp_flags (only_closeRw session.device) (suffers three) fun closed four held => ?_
  refine wp_orDie (bears_requested store set four) _ _ fun _ => ?_
  refine wp_confirmed rfl (target.kept (held.store.trans sameStore)) ?_ digest next
  exact held.hashed (more wanted)

/-- Writing a set and asking for the reboot. -/
theorem wp_installTarget {session : Session} (same : session.device = device)
    (wet : session.dryRun = false) {back : System}
    (target : Target device store set image tablet) :
    wp (machine device) (Requested device store set) (Trapped device store set)
      (installSet session set back)
      (fun _ => wp (machine device) (Requested device store set) (Trapped device store set)
        (writeState session)
        (fun _ => wp (machine device) (Requested device store set) (Trapped device store set)
          (doReboot session) fun ended after =>
            Trapped device store set (if ended then 0 else 1) after)) tablet := by
  subst same
  simp only [installSet, Prog.bind_eq, wp_bind]
  refine wp_paddedSha (bears_requested store set tablet) target.now ?_
  refine wp_catImage (bears_requested store set _).watches _ ?_
  rw [wet]
  simp only [Bool.false_eq_true, if_false, wp_bind]
  refine wp_say (bears_requested store set _).watches _ ?_
  exact wp_overwrite rfl (target.kept rfl) List.mem_cons_self rfl fun _ owed => wp_finish rfl owed

/-- The set is already there: nothing is written. -/
theorem wp_already {session : Session} (text : String)
    (owed : Owed device store set tablet) :
    wp (machine device) (Requested device store set) (Trapped device store set) (say text)
      (fun _ => wp (machine device) (Requested device store set) (Trapped device store set)
        (writeState session) fun _ after => Trapped device store set 0 after) tablet := by
  refine wp_say (bears_requested store set tablet) _ ?_
  exact wp_writeState (bears_requested store set tablet) (trapped fun _ => owed)

theorem Target.already (target : Target device store set image tablet) {before : Tablet device.size}
    {live : Live} {got : Bytes} {now : Tablet device.size} (known : Known before tablet live got)
    (boot : now.boot = before.boot) (seen : Seen tablet now)
    (same : ∃ image, Usable device tablet.store set image ∧
      device.sha256.digest (padded device.size image) = live.full)
    (hashed : ∀ image, Usable device tablet.store set image →
      padded device.size image ∈ now.history.hashed) : Owed device store set now := by
  obtain ⟨other, usable, digests⟩ := same
  rw [usable.unique target.now] at digests
  refine (target.kept seen.looked.store).owed fun injective => ?_
  exact boot_eq_padded target.usable.fits known.part boot (digests.trans known.full)
    (hashed image target.now) (seen.looked.hashed known.hashed) injective

end Target

/-! ### The two switches -/

theorem wp_switchUbuntu {session : Session} (same : session.device = device)
    (wet : session.dryRun = false) (start : tablet.store (.live .ubuntu) = store (.live .ubuntu)) :
    wp (machine device) (Requested device store .ubuntu) (Trapped device store .ubuntu)
      (cmdToUbuntu session)
      (fun ended after => Trapped device store .ubuntu (if ended then 0 else 1) after) tablet := by
  subst same
  have bears := fun after : Tablet session.device.size => bears_requested store .ubuntu after
  simp only [cmdToUbuntu, Prog.bind_eq, wp_bind]
  refine wp_checkSet (bears tablet) .ubuntu false fun passed one seen meaning => ?_
  refine wp_orDie (bears one) _ _ fun checked => ?_
  refine wp_requireSlotA (bears one) fun slot => ?_
  obtain ⟨image, usable⟩ := meaning.mp checked
  have target : Target session.device store .ubuntu image one := by
    refine ⟨usable.of_same start.symm, ?_, slot⟩
    rw [seen.looked.store]
    exact start
  refine wp_computeLive (bears one) fun live two got looked known => ?_
  have target := target.kept looked.store
  refine wp_liveIsSet (bears two) live .ubuntu fun already three seen meaning hashed => ?_
  have later := target.kept seen.looked.store
  split
  · rename_i isSet
    simp only [wp_bind]
    have boot : three.boot = one.boot := seen.looked.boot.trans looked.boot
    exact wp_already _ (target.already known boot seen (meaning.mp isSet) (fun other =>
      hashed other isSet))
  simp only [wp_bind, overUbuntu]
  split
  · exact wp_say (bears three) _ (wp_installTarget rfl wet later)
  · simp only [keepAndroid, Prog.bind_eq, wp_bind]
    refine wp_liveIsSet (bears three) live .android fun stored four seen _ _ => ?_
    have later := later.kept seen.looked.store
    split
    · exact wp_say (bears four) _ (wp_installTarget rfl wet later)
    split
    · exact wp_die (bears four) _
    -- the archive changes the Android set alone
    have archiving : wp (machine session.device) (Requested session.device store .ubuntu)
        (Trapped session.device store .ubuntu) (stashLive session live)
        (fun _ after => after.store (.live .ubuntu) = store (.live .ubuntu)) four := by
      refine wp_of_only (only_stashLive session live) ?_ ?_
        (fun _ failure after _ => trapped_failure failure after) (fun _ _ => id) later.same
      · intro operation stores fault before kept
        rw [← kept]
        exact stores.other fault.1 before (by decide)
      · exact fun operation stores after _ => stores.requested store .ubuntu after
    refine wp_returned archiving fun _ five kept => ?_
    exact wp_installTarget rfl wet ⟨later.usable, kept, slot⟩
  · exact wp_die (bears three) _

theorem wp_switchAndroid {session : Session} (same : session.device = device)
    (wet : session.dryRun = false) (start : tablet.store = store) :
    wp (machine device) (Requested device store .android) (Trapped device store .android)
      (cmdToAndroid session)
      (fun ended after => Trapped device store .android (if ended then 0 else 1) after) tablet := by
  subst same
  have bears := fun after : Tablet session.device.size => bears_requested store .android after
  simp only [cmdToAndroid, Prog.bind_eq, wp_bind]
  refine wp_checkSet (bears tablet) .android false fun passed one seen meaning => ?_
  refine wp_orDie (bears one) _ _ fun checked => ?_
  obtain ⟨image, usable⟩ := meaning.mp checked
  refine wp_checkSet (bears one) .ubuntu false fun _ two further _ => ?_
  refine wp_orDie (bears two) _ _ fun _ => ?_
  refine wp_requireSlotA (bears two) fun slot => ?_
  have target : Target session.device store .android image two := by
    rw [start] at usable
    refine ⟨usable, ?_, slot⟩
    rw [further.looked.store, seen.looked.store, start]
  refine wp_computeLive (bears two) fun live three got looked known => ?_
  have target := target.kept looked.store
  refine wp_liveIsSet (bears three) live .android fun already four seen meaning hashed => ?_
  have later := target.kept seen.looked.store
  split
  · rename_i isSet
    simp only [wp_bind]
    have boot : four.boot = two.boot := seen.looked.boot.trans looked.boot
    exact wp_already _ (target.already known boot seen (meaning.mp isSet) (fun other =>
      hashed other isSet))
  simp only [wp_bind]
  refine wp_orDie (bears four) _ _ fun _ => ?_
  refine wp_orDie (bears four) _ _ fun _ => ?_
  exact wp_installTarget rfl wet later

theorem wp_switch {options : Options} {command : Command} (wet : options.dryRun = false)
    (aims : command.target = some set) (start : tablet.store = store) :
    wp (machine device) (Requested device store set) (Trapped device store set)
      (body device options command) (fun _ _ => True) tablet := by
  have bears := fun after : Tablet device.size => bears_requested store set after
  have suffers := fun after : Tablet device.size => suffers_requested store set after
  simp only [body, Prog.bind_eq, wp_bind]
  refine wp_makeLock (bears tablet) fun free => ?_
  refine wp_orDie (bears tablet) _ _ fun _ => ?_
  refine wp_flags (only_assign fun _ => rfl) (suffers tablet) fun _ one held => ?_
  refine wp_partBytes (bears one) fun sized => ?_
  refine wp_orDie (bears one) _ _ fun _ => ?_
  refine wp_orDie (bears one) _ _ fun _ => ?_
  refine wp_flags (only_openStore device options) (suffers one) fun storeRo two further => ?_
  have same : two.store = store := by
    rw [further.store, held.store, start]
  cases command with
  | toUbuntu =>
      cases aims
      exact wp_switchUbuntu rfl wet (by rw [same])
  | toAndroid =>
      cases aims
      exact wp_switchAndroid rfl wet same
  | status => cases aims
  | verify => cases aims
  | stashAndroid => cases aims
  | importAndroid file => cases aims

end Whole

/-- An exit with status 0, or asking for the reboot. -/
def Succeeds : Script Empty → Prop
  | .exit status => status = 0
  | .act operation _ => operation = .reboot
  | .done _ => False

/-- Whatever fails: a switch that succeeds has installed its whole target. -/
theorem switch_whole {device : Device} {options : Options} {command : Command} {set : System}
    {tablet last : Tablet device.size} {program : Script Empty}
    (wet : options.dryRun = false) (aims : command.target = some set)
    (reaches : Reaches (machine device) (main device options command, tablet.started)
      (program, last))
    (injective : Set.InjOn device.sha256.digest {data | data ∈ last.history.hashed})
    (succeeds : Succeeds program) : Installed device tablet.store set last := by
  have whole : wp (machine device) (Requested device tablet.store set)
      (Succeeded device tablet.store set) (main device options command) (fun _ _ => True)
      tablet.started := by
    rw [main, wp_onExit]
    exact wp_switch wet aims rfl
  have safe := wp_sound whole reaches
  cases program with
  | done value => exact succeeds.elim
  | exit status => exact safe succeeds injective
  | act operation next => exact safe succeeds injective

theorem switchedTablet_injective :
    Set.InjOn referenceDevice.sha256.digest {data | data ∈ switchedTablet.history.hashed} :=
  injOn_of_apart (by decide +kernel)

theorem switch_whole_reference :
    Installed referenceDevice ubuntuTablet.store .android switchedTablet :=
  switch_whole rfl rfl switchedTablet_reached switchedTablet_injective rfl

end Liuqin.Switch
