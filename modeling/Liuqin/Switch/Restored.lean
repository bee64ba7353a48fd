/-
The read-only flags are restored on every exit.

The EXIT trap is safe to enter steady, armed or closed; every function of the
script leaves in one of the three, and the script itself only through the trap.
-/

import Liuqin.Switch.ReadOnly
import Liuqin.Switch.Reference

namespace Liuqin.Switch

open Liuqin.Library.Program

/-! ### The EXIT trap -/

section Trap

variable {device : Device} {initial : Flag → Bool} {tablet : Tablet device.size}

/-- The trap entered with a status ends as it owes. -/
def Leaves (initial : Flag → Bool) (status : Nat) (tablet : Tablet device.size) : Prop :=
  wp (machine device) (fun _ _ => True) (Ends initial) (onExit device status) (fun _ _ => True)
    tablet

/-- Only the lock and the mount are given up. -/
def Released (before after : Tablet device.size) : Prop :=
  ∃ mounted locked, after =
    { before with shell := { before.shell with mountedHere := mounted, locked := locked } }

theorem Released.refl (tablet : Tablet device.size) : Released tablet tablet :=
  ⟨tablet.shell.mountedHere, tablet.shell.locked, rfl⟩

theorem Released.trans {first second third : Tablet device.size} (one : Released first second)
    (two : Released second third) : Released first third := by
  obtain ⟨mounted, locked, rfl⟩ := one
  obtain ⟨mounted', locked', rfl⟩ := two
  exact ⟨mounted', locked', rfl⟩

theorem Released.steady {after : Tablet device.size} (released : Released tablet after)
    (steady : Steady initial tablet) : Steady initial after := by
  obtain ⟨mounted, locked, rfl⟩ := released
  exact ⟨steady.disarmed, steady.restored, steady.reported⟩

theorem Released.closed {after : Tablet device.size} (released : Released tablet after)
    (closed : Closed initial tablet) : Closed initial after := by
  obtain ⟨mounted, locked, rfl⟩ := released
  exact ⟨closed.ignoring, closed.disarmed, closed.quiet, closed.restored⟩

theorem wp_release {exited : Nat → Tablet device.size → Prop}
    {returned : Unit → Tablet device.size → Prop}
    (leaving : ∀ after, Released tablet after → exited 130 after)
    (next : ∀ after, Released tablet after → returned () after) :
    wp (machine device) (fun _ _ => True) exited release returned tablet := by
  simp only [release, Prog.bind_eq, wp_bind]
  refine wp_run _ _ trivial (fun _ _ => leaving _ (Released.refl tablet)) fun _ => ?_
  have unlocking : ∀ (locked : Bool) (one : Tablet device.size), Released tablet one →
      wp (machine device) (fun _ _ => True) exited
        (if locked = true then unlock else Prog.done ()) returned one := by
    intro locked one released
    cases locked with
    | false => exact next one released
    | true =>
        simp only [if_true, unlock, Prog.bind_eq, wp_bind]
        have further : Released tablet
            { one with shell := { one.shell with locked := false } } :=
          released.trans ⟨one.shell.mountedHere, false, rfl⟩
        refine wp_run _ _ trivial (fun _ _ => leaving _ further) fun _ => ?_
        exact wp_run _ _ trivial (fun _ _ => leaving _ further) fun _ => next _ further
  change wp (machine device) (fun _ _ => True) exited
    (if tablet.shell.mountedHere = true then unmount else Prog.done ()) _ tablet
  cases tablet.shell.mountedHere with
  | false => exact unlocking _ tablet (Released.refl tablet)
  | true =>
      simp only [if_true, unmount, Prog.bind_eq, wp_bind]
      have further : Released tablet
          { tablet with shell := { tablet.shell with mountedHere := false } } :=
        ⟨false, tablet.shell.locked, rfl⟩
      refine wp_run _ _ trivial (fun _ _ => leaving _ further) fun _ => ?_
      refine wp_run _ _ trivial (fun _ _ => leaving _ further) fun _ => ?_
      exact unlocking _ _ further

/-- A second close_rw does nothing. -/
theorem wp_closeRw_idle {exited : Nat → Tablet device.size → Prop}
    {returned : Bool → Tablet device.size → Prop} (disarmed : tablet.shell.rwArmed = false)
    (leaving : tablet.shell.ignoring = false → exited 130 tablet) (next : returned true tablet) :
    wp (machine device) (fun _ _ => True) exited (closeRw device) returned tablet := by
  simp only [closeRw, Prog.bind_eq, wp_bind]
  refine wp_run _ _ trivial (fun signalled _ => leaving signalled) fun _ => ?_
  change wp (machine device) (fun _ _ => True) exited
    (if tablet.shell.rwArmed = true then _ else Prog.done true) _ tablet
  rw [disarmed]
  exact next

/-- The end of the trap, once the flags are closed. -/
theorem wp_leave {status : Nat} {returned : Empty → Tablet device.size → Prop}
    (ignoring : tablet.shell.ignoring = true)
    (ends : ∀ last, last ≠ 0 ∨ last = status → ∀ after, Released tablet after →
      Ends initial last after) :
    wp (machine device) (fun _ _ => True) (Ends initial) release
      (fun _ => wp (machine device) (fun _ _ => True) (Ends initial) shell fun now =>
        wp (machine device) (fun _ _ => True) (Ends initial)
          (Prog.exit (if now.rwFailed = true ∧ status = 0 then 1 else status)) returned)
      tablet := by
  refine wp_release (fun after released => ends 130 (Or.inl (by decide)) after released)
    fun after released => ?_
  have later : after.shell.ignoring = true := by
    obtain ⟨mounted, locked, rfl⟩ := released
    exact ignoring
  refine wp_shellIgnoring later trivial ?_
  rw [wp_exit]
  split
  · exact ends 1 (Or.inl (by decide)) after released
  · exact ends status (Or.inr rfl) after released

theorem Steady.leaves (steady : Steady initial tablet) (status : Nat) :
    Leaves initial status tablet := by
  have silent := steady.ignore true
  simp only [Leaves, onExit, cleanup, Prog.bind_eq, wp_bind]
  refine wp_resetExitTrap trivial (fun _ => steady.ends 130) ?_
  refine wp_ignoreSignals trivial (fun _ => silent.ends 130) ?_
  refine wp_closeRw_idle silent.disarmed (fun _ => silent.ends 130) ?_
  exact wp_leave rfl fun last _ after released => (released.steady silent).ends last

theorem Closed.leaves (closed : Closed initial tablet) {status : Nat} (failure : status ≠ 0) :
    Leaves initial status tablet := by
  have silent := closed.ignore
  simp only [Leaves, onExit, cleanup, Prog.bind_eq, wp_bind]
  refine wp_resetExitTrap trivial (fun _ => closed.ends (by decide)) ?_
  refine wp_ignoreSignals trivial (fun _ => silent.ends (by decide)) ?_
  refine wp_closeRw_idle silent.disarmed (fun _ => silent.ends (by decide)) ?_
  refine wp_leave rfl fun last cause after released => (released.closed silent).ends ?_
  rcases cause with nonzero | rfl
  · exact nonzero
  · exact failure

theorem Armed.leaves (armed : Armed initial tablet) {status : Nat} (failure : status ≠ 0) :
    Leaves initial status tablet := by
  have silent := armed.ignore
  simp only [Leaves, onExit, cleanup, Prog.bind_eq, wp_bind]
  refine wp_ignoring armed.ignoring trivial fun _ => ?_
  refine wp_ignoring armed.ignoring trivial fun _ => ?_
  refine wp_closeRw silent fun _ after closed _ => ?_
  refine wp_leave closed.ignoring fun last cause after released => (released.closed closed).ends ?_
  rcases cause with nonzero | rfl
  · exact nonzero
  · exact failure

end Trap

/-! ### The functions -/

section Functions

variable {device : Device} {initial : Flag → Bool} {tablet : Tablet device.size}

theorem Steady.bears (steady : Steady initial tablet) :
    Bears (fun _ _ => True) (Leaves initial) tablet :=
  fun _ looked => ⟨fun _ _ => trivial, fun status _ => (looked.steady steady).leaves status⟩

theorem Closed.bears (closed : Closed initial tablet) :
    Bears (fun _ _ => True) (Leaves initial) tablet :=
  fun _ looked => ⟨fun _ _ => trivial, fun _ failure => (looked.closed closed).leaves failure⟩

theorem Armed.bears (armed : Armed initial tablet) :
    Bears (fun _ _ => True) (Leaves initial) tablet :=
  fun _ looked => ⟨fun _ _ => trivial, fun _ failure => (looked.armed armed).leaves failure⟩

/-- Clearing a flag that was recorded as set. -/
theorem wp_clearFlag {flag : Flag} {was : Option Bool} {returned : Bool → Tablet device.size → Prop}
    (armed : Armed initial tablet)
    (recorded : was = some true →
      initial flag = true ∧ (flag = .disk → tablet.shell.rwDisk = true))
    (next : ∀ ok after, Armed initial after → returned ok after) :
    wp (machine device) (fun _ _ => True) (Leaves initial)
      (if was = some true then roSet flag false else Prog.done true) returned tablet := by
  split
  · rename_i sealed
    obtain ⟨set, known⟩ := recorded sealed
    exact wp_roSet armed.ignoring trivial fun ok effect =>
      next ok _ (armed.cleared set known ok effect)
  · exact next true tablet armed

theorem wp_clearFlags {found : Bool} {part disk : Option Bool}
    {returned : Unit → Tablet device.size → Prop} (armed : Armed initial tablet)
    (partWas : part = some true → initial .part = true)
    (diskWas : disk = some true → initial .disk = true ∧ tablet.shell.rwDisk = true)
    (next : ∀ after, Armed initial after → returned () after) :
    wp (machine device) (fun _ _ => True) (Leaves initial) (clearFlags device found part disk)
      returned tablet := by
  simp only [clearFlags, Prog.bind_eq, Prog.pure_eq, wp_bind]
  refine wp_clearFlag armed (fun sealed => ⟨(diskWas sealed).1, fun _ => (diskWas sealed).2⟩)
    fun diskOpen one armed => ?_
  refine wp_orDie armed.bears _ _ fun _ => ?_
  refine wp_clearFlag armed (fun sealed => ⟨partWas sealed, by simp⟩) fun partOpen two armed => ?_
  refine wp_orDie armed.bears _ _ fun _ => ?_
  refine wp_roGet armed.ignoring trivial fun works => ?_
  have armed := (looked_flagRequest two works).armed armed
  refine wp_orDie armed.bears _ _ fun _ => ?_
  cases found with
  | false => exact wp_orDie armed.bears _ _ fun _ => next _ armed
  | true =>
      refine wp_roGet armed.ignoring trivial fun works' => ?_
      have armed := (looked_flagRequest _ works').armed armed
      exact wp_orDie armed.bears _ _ fun _ => next _ armed

/-- open_rw from a closed tablet whose flags are as at the start. -/
theorem wp_openRw {returned : Unit → Tablet device.size → Prop} (closed : Closed initial tablet)
    (restored : tablet.history.restoreFailed = false)
    (next : ∀ after, Armed initial after → returned () after) :
    wp (machine device) (fun _ _ => True) (Leaves initial) (openRw device) returned tablet := by
  have reported := closed.restored restored
  have disk : tablet.diskRo = initial .disk := congrFun reported .disk
  have part : (tablet.partRo || (device.coupled && tablet.diskRo)) = initial .part :=
    congrFun reported .part
  -- until the arming only the shell's own variables and the record change
  have idle : ∀ (shell : Shell) (history : History), shell.ignoring = true →
      shell.rwArmed = false → history.rebooted = false → history.restoreFailed = false →
      Closed initial { tablet with shell := shell, history := history } :=
    fun _ _ ignoring disarmed quiet _ => ⟨ignoring, disarmed, quiet, fun _ => reported⟩
  have arming : ∀ (found : Bool) (history : History) (diskWas : Option Bool),
      history.rebooted = false → history.restoreFailed = false →
      (found = true → diskWas = some (initial .disk)) →
      Armed initial
        { tablet with
          shell := { tablet.shell with
            rwDisk := found, rwPartWas := some (initial .part), rwDiskWas := diskWas,
            rwArmed := true }
          history := history } := by
    intro found history diskWas quiet fine recorded
    constructor
    · exact closed.ignoring
    · rfl
    · exact quiet
    · exact fine
    · rfl
    · exact recorded
    · exact fun _ => disk
    · intro flag clear
      cases flag with
      | disk => exact disk.trans clear
      | part =>
          rw [clear, Bool.or_eq_false_iff] at part
          exact part.1
    · intro couple sealed
      rw [← part, couple, disk, sealed]
      simp
  simp only [openRw, Prog.bind_eq, Prog.pure_eq, wp_bind]
  refine wp_parentDisk closed.ignoring trivial fun found => ?_
  refine wp_assign closed.ignoring trivial ?_
  refine wp_orDie (Closed.bears ?_) _ _ fun _ => ?_
  · exact idle _ _ closed.ignoring closed.disarmed closed.quiet restored
  refine wp_roGet closed.ignoring trivial fun works => ?_
  refine wp_assign closed.ignoring trivial ?_
  refine wp_orDie (Closed.bears ?_) _ _ fun readable => ?_
  · exact idle _ _ closed.ignoring closed.disarmed closed.quiet restored
  cases works with
  | false => exact absurd rfl readable
  | true =>
      have partRead : tablet.reported device.coupled .part = initial .part := congrFun reported .part
      have diskRead : tablet.reported device.coupled .disk = initial .disk := congrFun reported .disk
      cases found with
      | false =>
          simp only [Bool.false_eq_true, if_false, wp_done]
          refine wp_assign closed.ignoring trivial ?_
          refine wp_orDie (Closed.bears ?_) _ _ fun _ => ?_
          · exact idle _ _ closed.ignoring closed.disarmed closed.quiet restored
          refine wp_assign closed.ignoring trivial ?_
          have armed := arming false ((tablet.history.flagRequest false).flagRequest true)
            (some false) closed.quiet restored (by simp)
          rw [← partRead] at armed
          refine wp_clearFlags armed ?_ ?_ next
          · intro sealed
            rw [← partRead]
            exact Option.some.inj sealed
          · intro sealed
            cases sealed
      | true =>
          refine wp_roGet closed.ignoring trivial fun works' => ?_
          refine wp_assign closed.ignoring trivial ?_
          refine wp_orDie (Closed.bears ?_) _ _ fun readable' => ?_
          · exact idle _ _ closed.ignoring closed.disarmed closed.quiet restored
          cases works' with
          | false => exact absurd rfl readable'
          | true =>
              refine wp_assign closed.ignoring trivial ?_
              have armed := arming true
                (((tablet.history.flagRequest true).flagRequest true).flagRequest true)
                (some (initial .disk)) closed.quiet restored (fun _ => rfl)
              rw [← partRead, ← diskRead] at armed
              refine wp_clearFlags armed ?_ ?_ next
              · intro sealed
                rw [← partRead]
                exact Option.some.inj sealed
              · intro sealed
                rw [← diskRead]
                exact ⟨Option.some.inj sealed, rfl⟩

/-- write_image leaves the flags open. -/
theorem wp_writeImage {place : Place} {returned : Bool → Tablet device.size → Prop}
    (armed : Armed initial tablet) (next : ∀ wrote after, Armed initial after → returned wrote after) :
    wp (machine device) (fun _ _ => True) (Leaves initial) (writeImage device place) returned
      tablet := by
  refine wp_of_only (only_writeImage device place) ?_ (fun _ _ _ _ => trivial)
    (fun status failure _ holds => holds.leaves failure) next armed
  rintro operation (observes | ⟨data, rfl⟩) fault before holds
  · exact (observes.looked fault.1 before).armed holds
  · exact ⟨holds.ignoring, holds.armed, holds.quiet, holds.restored, holds.partWas, holds.diskWas,
      holds.diskAlone, holds.clear, holds.coupled⟩

/-- The body of a critical section: open, write, close. -/
theorem wp_section {place : Place} {returned : Bool → Bool → Tablet device.size → Prop}
    (closed : Closed initial tablet) (restored : tablet.history.restoreFailed = false)
    (next : ∀ wrote restored after, Closed initial after →
      (restored = true → after.history.restoreFailed = false) → returned wrote restored after) :
    wp (machine device) (fun _ _ => True) (Leaves initial) (openRw device)
      (fun _ => wp (machine device) (fun _ _ => True) (Leaves initial) (writeImage device place)
        fun wrote => wp (machine device) (fun _ _ => True) (Leaves initial) (closeRw device)
          fun restored => returned wrote restored) tablet := by
  refine wp_openRw closed restored fun one armed => ?_
  refine wp_writeImage armed fun wrote two armed => ?_
  exact wp_closeRw armed fun restored three closed fine => next wrote restored three closed fine

theorem wp_rollback {set : System} {returned : Unit → Tablet device.size → Prop}
    (closed : Closed initial tablet) (restored : tablet.history.restoreFailed = false)
    (next : ∀ after, Closed initial after → returned () after) :
    wp (machine device) (fun _ _ => True) (Leaves initial) (rollback device set) returned
      tablet := by
  simp only [rollback, Prog.bind_eq, Prog.pure_eq, wp_bind]
  refine wp_warn closed.bears _ ?_
  refine wp_checkSet closed.bears set false fun passed one seen meaning => ?_
  have closedOne := seen.looked.closed closed
  have restoredOne := seen.looked.restoreFailed.trans restored
  cases passed with
  | false =>
      simp only [Bool.false_eq_true, not_false_eq_true, if_true, wp_bind]
      exact wp_warn closedOne.bears _ (wp_warn closedOne.bears _ (next one closedOne))
  | true =>
      obtain ⟨image, usable⟩ := meaning.mp rfl
      rw [← seen.looked.store] at usable
      simp only [not_true_eq_false, if_false, wp_bind]
      refine wp_paddedSha closedOne.bears usable ?_
      have hashing := (looked_hashing one (padded device.size image)).looked
      refine wp_section (hashing.closed closedOne) (hashing.restoreFailed.trans restoredOne)
        fun wrote _ three closed _ => ?_
      have verdict : ∀ (verified : Bool) (last : Tablet device.size), Closed initial last →
          wp (machine device) (fun _ _ => True) (Leaves initial)
            (if verified = true then
              warn ("boot_a holds the " ++ set.name ++ " image again (verified); not rebooting")
            else
              (warn ("restoring the " ++ set.name ++
                " image did not verify either; do not reboot:")).bind fun _ =>
                warn "flash boot_a from a host with fastboot first.") returned last := by
        intro verified last closed
        cases verified with
        | true => exact wp_warn closed.bears _ (next last closed)
        | false =>
            simp only [Bool.false_eq_true, if_false, wp_bind]
            exact wp_warn closed.bears _ (wp_warn closed.bears _ (next last closed))
      cases wrote with
      | false => exact verdict false three closed
      | true =>
          simp only [if_true, wp_bind]
          refine wp_shaOfPart closed.bears fun got _ => ?_
          exact verdict _ _ ((looked_hashedPart three got).closed closed)

/-- Steady, and no reboot asked for yet. -/
def Idle (initial : Flag → Bool) (tablet : Tablet device.size) : Prop :=
  Steady initial tablet ∧ tablet.history.rebooted = false

theorem Looked.idle {after : Tablet device.size} (looked : Looked tablet after)
    (idle : Idle initial tablet) : Idle initial after :=
  ⟨looked.steady idle.1, looked.rebooted.trans idle.2⟩

theorem wp_confirmSet {session : Session} (same : session.device = device) {set back : System}
    {want : Line} {wrote : Bool} {returned : Unit → Tablet device.size → Prop}
    (closed : Closed initial tablet) (restored : tablet.history.restoreFailed = false)
    (next : ∀ after, Idle initial after → returned () after) :
    wp (machine device) (fun _ _ => True) (Leaves initial)
      (confirmSet session set back want wrote) returned tablet := by
  subst same
  simp only [confirmSet, Prog.bind_eq, wp_bind]
  refine wp_warnIf closed.bears _ _ ?_
  refine wp_shaOfPart closed.bears fun got _ => ?_
  have read := looked_hashedPart tablet got
  have closed := read.closed closed
  have restored := read.restoreFailed.trans restored
  split
  · simp only [wp_bind]
    refine wp_say closed.bears _ ?_
    refine wp_ignoreSignals trivial (fun _ => ?_) ?_
    · exact ((closed.steady restored).ignore false).leaves 130
    · exact next _ ⟨(closed.steady restored).ignore false, closed.quiet⟩
  · simp only [wp_bind]
    refine wp_warnIf closed.bears _ _ ?_
    exact wp_rollback closed restored fun after closed => wp_die closed.bears _

/-- install_set comes back only with the flags as at the start. -/
theorem wp_installSet {session : Session} (same : session.device = device) {set back : System}
    {returned : Unit → Tablet device.size → Prop} (idle : Idle initial tablet)
    (next : ∀ after, Idle initial after → returned () after) :
    wp (machine device) (fun _ _ => True) (Leaves initial) (installSet session set back) returned
      tablet := by
  subst same
  simp only [installSet, paddedSha, Prog.bind_eq, wp_bind]
  refine wp_catImage idle.1.bears _ ?_
  refine wp_sha256sum idle.1.bears _ ?_
  generalize hashed : tablet.note _ = one
  have idle : Idle initial one := by
    rw [← hashed]
    exact (looked_hashing tablet _).looked.idle idle
  refine wp_catImage idle.1.bears _ ?_
  split
  · exact wp_say idle.1.bears _ (next _ idle)
  simp only [overwrite, Prog.bind_eq, wp_bind]
  refine wp_say idle.1.bears _ ?_
  refine wp_ignoreSignals trivial (fun _ => (idle.1.ignore true).leaves 130) ?_
  have closed : Closed initial (one.ignore true) :=
    ⟨rfl, idle.1.disarmed, idle.2, fun _ => idle.1.reported⟩
  refine wp_section closed idle.1.restored fun wrote restored two closed fine => ?_
  refine wp_orDie closed.bears _ _ fun isRestored => ?_
  exact wp_confirmSet rfl closed (fine isRestored) next

theorem Stored.idle {after : Tablet device.size} (stored : Stored tablet after)
    (idle : Idle initial tablet) : Idle initial after := by
  refine ⟨⟨?_, ?_, ?_⟩, stored.rebooted.trans idle.2⟩
  · rw [stored.shell]
    exact idle.1.disarmed
  · rw [stored.restoreFailed]
    exact idle.1.restored
  · rw [← idle.1.reported]
    funext flag
    cases flag <;> simp [Tablet.reported, stored.partRo, stored.diskRo]

theorem wp_stores {α : Type} {program : Script α} {returned : α → Tablet device.size → Prop}
    (only : program.Only (Op.Stores .android) Fails) (idle : Idle initial tablet)
    (next : ∀ value after, Idle initial after → returned value after) :
    wp (machine device) (fun _ _ => True) (Leaves initial) program returned tablet :=
  wp_of_only only (fun _ stores fault before holds => (stores.stored fault.1 before).idle holds)
    (fun _ _ _ _ => trivial) (fun status _ _ holds => holds.1.leaves status) next idle

theorem wp_doReboot {session : Session} (same : session.device = device)
    {returned : Bool → Tablet device.size → Prop} (idle : Idle initial tablet)
    (next : ∀ ended after, Steady initial after → returned ended after) :
    wp (machine device) (fun _ _ => True) (Leaves initial) (doReboot session) returned tablet := by
  subst same
  have requested : ∀ before : Tablet session.device.size, Steady initial before →
      Steady initial (before.note fun history => { history with rebooted := true }) :=
    fun _ steady => ⟨steady.disarmed, steady.restored, steady.reported⟩
  have requesting : ∀ (before : Tablet session.device.size)
      (post : Bool → Tablet session.device.size → Prop), Steady initial before →
      (∀ ended after, Steady initial after → post ended after) →
      wp (machine session.device) (fun _ _ => True) (Leaves initial) requestReboot post before := by
    intro before post steady continues
    exact wp_run _ _ trivial (fun _ _ => (requested before steady).leaves 130)
      fun ended => continues ended _ (requested before steady)
  simp only [doReboot, cleanup, Prog.bind_eq]
  split
  · rw [wp_bind]
    exact wp_say idle.1.bears _ (next true tablet idle.1)
  rw [wp_bind]
  refine wp_say idle.1.bears _ ?_
  split
  · rw [wp_bind]
    exact requesting tablet _ idle.1 fun _ after steady => next true after steady
  simp only [wp_bind]
  refine wp_closeRw_idle idle.1.disarmed (fun _ => idle.1.leaves 130) ?_
  refine wp_release (fun after released => (released.steady idle.1).leaves 130)
    fun one released => ?_
  have steady := released.steady idle.1
  refine wp_observe trivial steady.bears fun _ => ?_
  refine requesting one _ steady fun ended two steady => ?_
  cases ended with
  | true => exact next true two steady
  | false => exact requesting two _ steady next

/-! ### Commands -/

theorem wp_keepAndroid {session : Session} (same : session.device = device) (live : Live)
    {returned : Unit → Tablet device.size → Prop} (idle : Idle initial tablet)
    (next : ∀ after, Idle initial after → returned () after) :
    wp (machine device) (fun _ _ => True) (Leaves initial) (keepAndroid session live) returned
      tablet := by
  subst same
  simp only [keepAndroid, Prog.bind_eq, wp_bind]
  refine wp_liveIsSet idle.1.bears live .android fun known one seen _ _ => ?_
  have idle := seen.looked.idle idle
  split
  · exact wp_say idle.1.bears _ (next one idle)
  split
  · exact wp_die idle.1.bears _
  · exact wp_stores (only_stashLive session live) idle fun _ after => next after

theorem wp_cmdStash {session : Session} (same : session.device = device)
    {returned : Bool → Tablet device.size → Prop} (idle : Idle initial tablet)
    (next : ∀ ended after, Steady initial after → returned ended after) :
    wp (machine device) (fun _ _ => True) (Leaves initial) (cmdStash session) returned tablet := by
  subst same
  simp only [cmdStash, Prog.bind_eq, wp_bind]
  refine wp_computeLive idle.1.bears fun live one _ looked _ => ?_
  have idle := looked.idle idle
  refine wp_orDie idle.1.bears _ _ fun _ => ?_
  refine wp_liveIsSet idle.1.bears live .android fun known two seen _ _ => ?_
  have idle := seen.looked.idle idle
  split
  · rw [wp_bind]
    exact wp_say idle.1.bears _ (next true two idle.1)
  · rw [wp_bind]
    exact wp_stores (only_stashLive session live) idle fun _ after idle => next true after idle.1

/-- Writing a set and asking for the reboot. -/
theorem wp_install {session : Session} (same : session.device = device) {set back : System}
    {returned : Bool → Tablet device.size → Prop} (idle : Idle initial tablet)
    (next : ∀ ended after, Steady initial after → returned ended after) :
    wp (machine device) (fun _ _ => True) (Leaves initial) (installSet session set back)
      (fun _ => wp (machine device) (fun _ _ => True) (Leaves initial) (writeState session)
        fun _ => wp (machine device) (fun _ _ => True) (Leaves initial) (doReboot session) returned)
      tablet := by
  refine wp_installSet same idle fun one idle => ?_
  refine wp_writeState idle.1.bears ?_
  exact wp_doReboot same idle next

theorem wp_cmdToUbuntu {session : Session} (same : session.device = device)
    {returned : Bool → Tablet device.size → Prop} (idle : Idle initial tablet)
    (next : ∀ ended after, Steady initial after → returned ended after) :
    wp (machine device) (fun _ _ => True) (Leaves initial) (cmdToUbuntu session) returned
      tablet := by
  subst same
  simp only [cmdToUbuntu, Prog.bind_eq, wp_bind]
  refine wp_checkSet idle.1.bears .ubuntu false fun passed one seen _ => ?_
  have idle := seen.looked.idle idle
  refine wp_orDie idle.1.bears _ _ fun _ => ?_
  refine wp_requireSlotA idle.1.bears fun _ => ?_
  refine wp_computeLive idle.1.bears fun live two _ looked _ => ?_
  have idle := looked.idle idle
  refine wp_liveIsSet idle.1.bears live .ubuntu fun known three seen _ _ => ?_
  have idle := seen.looked.idle idle
  split
  · simp only [wp_bind]
    exact wp_say idle.1.bears _ (wp_writeState idle.1.bears (next true three idle.1))
  simp only [wp_bind, overUbuntu]
  split
  · exact wp_say idle.1.bears _ (wp_install rfl idle next)
  · exact wp_keepAndroid rfl live idle fun after idle => wp_install rfl idle next
  · exact wp_die idle.1.bears _

theorem wp_cmdToAndroid {session : Session} (same : session.device = device)
    {returned : Bool → Tablet device.size → Prop} (idle : Idle initial tablet)
    (next : ∀ ended after, Steady initial after → returned ended after) :
    wp (machine device) (fun _ _ => True) (Leaves initial) (cmdToAndroid session) returned
      tablet := by
  subst same
  simp only [cmdToAndroid, Prog.bind_eq, wp_bind]
  refine wp_checkSet idle.1.bears .android false fun android one seen _ => ?_
  have idle := seen.looked.idle idle
  refine wp_orDie idle.1.bears _ _ fun _ => ?_
  refine wp_checkSet idle.1.bears .ubuntu false fun ubuntu two seen _ => ?_
  have idle := seen.looked.idle idle
  refine wp_orDie idle.1.bears _ _ fun _ => ?_
  refine wp_requireSlotA idle.1.bears fun _ => ?_
  refine wp_computeLive idle.1.bears fun live three _ looked _ => ?_
  have idle := looked.idle idle
  refine wp_liveIsSet idle.1.bears live .android fun known four seen _ _ => ?_
  have idle := seen.looked.idle idle
  split
  · simp only [wp_bind]
    exact wp_say idle.1.bears _ (wp_writeState idle.1.bears (next true four idle.1))
  simp only [wp_bind]
  refine wp_orDie idle.1.bears _ _ fun _ => ?_
  refine wp_orDie idle.1.bears _ _ fun _ => ?_
  exact wp_install rfl idle next

theorem wp_dispatch {session : Session} (same : session.device = device) (command : Command)
    {returned : Bool → Tablet device.size → Prop} (idle : Idle initial tablet)
    (next : ∀ ended after, Steady initial after → returned ended after) :
    wp (machine device) (fun _ _ => True) (Leaves initial) (dispatch session command) returned
      tablet := by
  cases command with
  | status =>
      exact wp_cmdStatus same idle.1.bears fun ended after looked =>
        next ended after (looked.steady idle.1)
  | verify =>
      exact wp_cmdVerify same idle.1.bears fun ended after looked =>
        next ended after (looked.steady idle.1)
  | stashAndroid => exact wp_cmdStash same idle next
  | importAndroid file =>
      exact wp_stores (only_cmdImportAndroid session file) idle fun ended after idle =>
        next ended after idle.1
  | toUbuntu => exact wp_cmdToUbuntu same idle next
  | toAndroid => exact wp_cmdToAndroid same idle next

theorem Released.idle {after : Tablet device.size} (released : Released tablet after)
    (idle : Idle initial tablet) : Idle initial after := by
  have steady := released.steady idle.1
  obtain ⟨mounted, locked, rfl⟩ := released
  exact ⟨steady, idle.2⟩

/-- A variable of the lock or of the mount. -/
theorem wp_assign_idle {edit : Shell → Shell} {returned : Unit → Tablet device.size → Prop}
    (idle : Idle initial tablet)
    (released : Released tablet { tablet with shell := edit tablet.shell })
    (next : ∀ after, Idle initial after → returned () after) :
    wp (machine device) (fun _ _ => True) (Leaves initial) (assign edit) returned tablet :=
  wp_run _ _ trivial (fun _ _ => (released.idle idle).1.leaves 130)
    fun _ => next _ (released.idle idle)

theorem wp_openStore {options : Options} {returned : Bool → Tablet device.size → Prop}
    (idle : Idle initial tablet) (next : ∀ storeRo after, Idle initial after → returned storeRo after) :
    wp (machine device) (fun _ _ => True) (Leaves initial) (openStore device options) returned
      tablet := by
  have writing : ∀ (fixedRo : Bool) (one : Tablet device.size), Idle initial one →
      wp (machine device) (fun _ _ => True) (Leaves initial)
        (if options.dryRun = true ∨ fixedRo = true then Prog.done fixedRo
          else testWrite.bind fun writes => Prog.done !writes) returned one := by
    intro fixedRo one idle
    split
    · exact next fixedRo one idle
    · rw [wp_bind]
      exact wp_observe trivial idle.1.bears fun writes => next _ one idle
  simp only [openStore, Prog.bind_eq, Prog.pure_eq]
  rw [wp_bind]
  split
  · exact writing options.readOnlyStore tablet idle
  simp only [mountedStore, Prog.bind_eq, Prog.pure_eq, wp_bind]
  refine wp_mountStore idle.1.bears fun mount => ?_
  cases mount with
  | none => exact wp_die idle.1.bears _
  | some mounted =>
      simp only [wp_bind]
      refine wp_assign_idle idle ⟨mounted, tablet.shell.locked, rfl⟩ fun one idle => ?_
      refine wp_testStore idle.1.bears fun present => ?_
      refine wp_orDie idle.1.bears _ _ fun _ => ?_
      exact writing true one idle

theorem wp_body {options : Options} {command : Command} (idle : Idle initial tablet) :
    wp (machine device) (fun _ _ => True) (Leaves initial) (body device options command)
      (fun _ _ => True) tablet := by
  simp only [body, Prog.bind_eq, wp_bind]
  refine wp_makeLock idle.1.bears fun free => ?_
  refine wp_orDie idle.1.bears _ _ fun _ => ?_
  refine wp_assign_idle idle ⟨tablet.shell.mountedHere, true, rfl⟩ fun one idle => ?_
  refine wp_partBytes idle.1.bears fun sized => ?_
  refine wp_orDie idle.1.bears _ _ fun _ => ?_
  refine wp_orDie idle.1.bears _ _ fun _ => ?_
  refine wp_openStore idle fun storeRo two idle => ?_
  refine wp_dispatch ?_ command idle fun ended three steady => ?_
  · rfl
  · exact steady.leaves _

end Functions

/-- Whatever fails and whenever a signal arrives: an exit finds both flags as
they were, or reports the restore that failed and asked for no reboot. -/
theorem flags_restored {device : Device} {options : Options} {command : Command}
    {tablet last : Tablet device.size} {status : Nat}
    (exits : Reaches (machine device) (main device options command, tablet.started)
      (.exit status, last)) :
    (last.history.restoreFailed = false →
      last.reported device.coupled = tablet.reported device.coupled) ∧
    (last.history.restoreFailed = true → status ≠ 0 ∧ last.history.rebooted = false) := by
  have idle : Idle (tablet.reported device.coupled) tablet.started := ⟨⟨rfl, rfl, rfl⟩, rfl⟩
  have whole : wp (machine device) (fun _ _ => True) (Ends (tablet.reported device.coupled))
      (main device options command) (fun _ _ => True) tablet.started := by
    rw [main, wp_onExit]
    exact wp_body idle
  exact wp_sound whole exits

theorem flags_restored_reference :
    (switchedTablet.history.restoreFailed = false →
      switchedTablet.reported false = ubuntuTablet.reported false) ∧
    (switchedTablet.history.restoreFailed = true →
      0 ≠ 0 ∧ switchedTablet.history.rebooted = false) :=
  flags_restored switchedTablet_reached

end Liuqin.Switch
