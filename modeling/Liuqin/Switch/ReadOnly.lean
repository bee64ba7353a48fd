/-
The read-only flags of boot_a and of its disk.

open_rw arms before it changes anything and close_rw disarms before it
restores, so between runs of the two functions the tablet is steady: the flags
read as they did when the script started.  While they are open every signal is
ignored, and an exit goes through the EXIT trap, which closes them.
-/

import Liuqin.Switch.Frame

namespace Liuqin.Switch

open Liuqin.Library.Program

/-! ### Flag commands -/

section Commands

variable {size : Nat}

@[simp] theorem note_shell (tablet : Tablet size) (edit : History → History) :
    (tablet.note edit).shell = tablet.shell := rfl

@[simp] theorem note_own (tablet : Tablet size) (edit : History → History) :
    (tablet.note edit).own = tablet.own := rfl

@[simp] theorem note_reported (tablet : Tablet size) (edit : History → History) (coupled : Bool) :
    (tablet.note edit).reported coupled = tablet.reported coupled := rfl

@[simp] theorem note_history (tablet : Tablet size) (edit : History → History) :
    (tablet.note edit).history = edit tablet.history := rfl

@[simp] theorem flagRequest_restoreFailed (ok : Bool) (history : History) :
    (history.flagRequest ok).restoreFailed = history.restoreFailed := rfl

@[simp] theorem flagRequest_rebooted (ok : Bool) (history : History) :
    (history.flagRequest ok).rebooted = history.rebooted := rfl

@[simp] theorem setFlag_shell (tablet : Tablet size) (value : Bool) (flag : Flag) :
    (tablet.setFlag value flag).shell = tablet.shell := by
  cases flag <;> rfl

@[simp] theorem setFlag_history (tablet : Tablet size) (value : Bool) (flag : Flag) :
    (tablet.setFlag value flag).history = tablet.history := by
  cases flag <;> rfl

theorem setFlag_own (tablet : Tablet size) (value : Bool) (flag : Flag) :
    (tablet.setFlag value flag).own flag = value := by
  cases flag <;> rfl

theorem setFlag_other (tablet : Tablet size) (value : Bool) {flag other : Flag}
    (different : other ≠ flag) : (tablet.setFlag value flag).own other = tablet.own other := by
  cases flag <;> cases other <;> first | rfl | exact absurd rfl different

@[simp] theorem requested_shell (tablet : Tablet size) (flag : Flag) (value ok effect : Bool) :
    (tablet.requested flag value ok effect).shell = tablet.shell := by
  unfold Tablet.requested
  split <;> simp

@[simp] theorem requested_rebooted (tablet : Tablet size) (flag : Flag) (value ok effect : Bool) :
    (tablet.requested flag value ok effect).history.rebooted = tablet.history.rebooted := by
  unfold Tablet.requested
  split <;> simp

@[simp] theorem requested_restoreFailed (tablet : Tablet size) (flag : Flag)
    (value ok effect : Bool) :
    (tablet.requested flag value ok effect).history.restoreFailed =
      (tablet.history.restoreFailed || (value && !ok)) := by
  unfold Tablet.requested
  split <;> simp

theorem requested_own (tablet : Tablet size) (flag : Flag) (value ok effect : Bool) :
    (tablet.requested flag value ok effect).own flag =
      if ok || effect then value else tablet.own flag := by
  unfold Tablet.requested
  split
  · simp [setFlag_own]
  · simp

theorem requested_other (tablet : Tablet size) {flag other : Flag} (value ok effect : Bool)
    (different : other ≠ flag) :
    (tablet.requested flag value ok effect).own other = tablet.own other := by
  unfold Tablet.requested
  split
  · simp [setFlag_other tablet value different]
  · simp

end Commands

/-! ### The invariant -/

section Invariant

variable {device : Device}

/-- Outside open_rw and close_rw: the flags read as at the start. -/
structure Steady (initial : Flag → Bool) (tablet : Tablet device.size) : Prop where
  disarmed : tablet.shell.rwArmed = false
  restored : tablet.history.restoreFailed = false
  reported : tablet.reported device.coupled = initial

/-- Between open_rw and close_rw.  A flag that read 0 at the start is not
touched; what read 1 is recorded, so the trap can put it back. -/
structure Armed (initial : Flag → Bool) (tablet : Tablet device.size) : Prop where
  ignoring : tablet.shell.ignoring = true
  armed : tablet.shell.rwArmed = true
  quiet : tablet.history.rebooted = false
  restored : tablet.history.restoreFailed = false
  partWas : tablet.shell.rwPartWas = some (initial .part)
  diskWas : tablet.shell.rwDisk = true → tablet.shell.rwDiskWas = some (initial .disk)
  diskAlone : tablet.shell.rwDisk = false → tablet.own .disk = initial .disk
  clear : ∀ flag, initial flag = false → tablet.own flag = false
  coupled : device.coupled = true → initial .disk = true → initial .part = true

/-- After close_rw, whether or not it could restore. -/
structure Closed (initial : Flag → Bool) (tablet : Tablet device.size) : Prop where
  ignoring : tablet.shell.ignoring = true
  disarmed : tablet.shell.rwArmed = false
  quiet : tablet.history.rebooted = false
  restored : tablet.history.restoreFailed = false → tablet.reported device.coupled = initial

/-- What an exit owes. -/
def Ends (initial : Flag → Bool) (status : Nat) (tablet : Tablet device.size) : Prop :=
  (tablet.history.restoreFailed = false → tablet.reported device.coupled = initial) ∧
    (tablet.history.restoreFailed = true → status ≠ 0 ∧ tablet.history.rebooted = false)

variable {initial : Flag → Bool} {tablet : Tablet device.size}

theorem Steady.ends (steady : Steady initial tablet) (status : Nat) :
    Ends initial status tablet := by
  refine ⟨fun _ => steady.reported, fun failed => ?_⟩
  rw [steady.restored] at failed
  cases failed

theorem Closed.ends (closed : Closed initial tablet) {status : Nat} (failure : status ≠ 0) :
    Ends initial status tablet :=
  ⟨closed.restored, fun _ => ⟨failure, closed.quiet⟩⟩

theorem Closed.steady (closed : Closed initial tablet)
    (restored : tablet.history.restoreFailed = false) : Steady initial tablet :=
  ⟨closed.disarmed, restored, closed.restored restored⟩

theorem Steady.ignore (steady : Steady initial tablet) (ignoring : Bool) :
    Steady initial (tablet.ignore ignoring) :=
  ⟨steady.disarmed, steady.restored, steady.reported⟩

theorem Closed.ignore (closed : Closed initial tablet) :
    Closed initial (tablet.ignore true) :=
  ⟨rfl, closed.disarmed, closed.quiet, closed.restored⟩

theorem Armed.ignore (armed : Armed initial tablet) : Armed initial (tablet.ignore true) where
  ignoring := rfl
  armed := armed.armed
  quiet := armed.quiet
  restored := armed.restored
  partWas := armed.partWas
  diskWas := armed.diskWas
  diskAlone := armed.diskAlone
  clear := armed.clear
  coupled := armed.coupled

theorem reported_of_own (fits : device.coupled = true → initial .disk = true → initial .part = true)
    (own : tablet.own = initial) : tablet.reported device.coupled = initial := by
  funext flag
  cases flag with
  | disk => exact congrFun own .disk
  | part =>
      have part := congrFun own .part
      have disk := congrFun own .disk
      simp only [Tablet.own] at part disk
      simp only [Tablet.reported, part, disk]
      cases couple : device.coupled with
      | false => simp
      | true =>
          cases sealed : initial .disk with
          | false => simp
          | true => simp [fits couple sealed]

theorem Looked.steady {after : Tablet device.size} (looked : Looked tablet after)
    (steady : Steady initial tablet) : Steady initial after := by
  refine ⟨?_, ?_, ?_⟩
  · rw [looked.shell]
    exact steady.disarmed
  · rw [looked.restoreFailed]
    exact steady.restored
  · rw [← steady.reported]
    funext flag
    cases flag <;> simp [Tablet.reported, looked.partRo, looked.diskRo]

theorem Looked.armed {after : Tablet device.size} (looked : Looked tablet after)
    (armed : Armed initial tablet) : Armed initial after := by
  have own : after.own = tablet.own := by
    funext flag
    cases flag <;> simp [Tablet.own, looked.partRo, looked.diskRo]
  constructor
  · rw [looked.shell]
    exact armed.ignoring
  · rw [looked.shell]
    exact armed.armed
  · rw [looked.rebooted]
    exact armed.quiet
  · rw [looked.restoreFailed]
    exact armed.restored
  · rw [looked.shell]
    exact armed.partWas
  · rw [looked.shell]
    exact armed.diskWas
  · rw [looked.shell, own]
    exact armed.diskAlone
  · rw [own]
    exact armed.clear
  · exact armed.coupled

theorem Looked.closed {after : Tablet device.size} (looked : Looked tablet after)
    (closed : Closed initial tablet) : Closed initial after := by
  constructor
  · rw [looked.shell]
    exact closed.ignoring
  · rw [looked.shell]
    exact closed.disarmed
  · rw [looked.rebooted]
    exact closed.quiet
  · intro restored
    rw [looked.restoreFailed] at restored
    rw [← closed.restored restored]
    funext flag
    cases flag <;> simp [Tablet.reported, looked.partRo, looked.diskRo]

/-- Clearing a flag that read 1 keeps the record good. -/
theorem Armed.cleared (armed : Armed initial tablet) {flag : Flag} (was : initial flag = true)
    (known : flag = .disk → tablet.shell.rwDisk = true) (ok effect : Bool) :
    Armed initial (tablet.requested flag false ok effect) := by
  constructor
  · simpa using armed.ignoring
  · simpa using armed.armed
  · simpa using armed.quiet
  · simpa using armed.restored
  · simpa using armed.partWas
  · simpa using armed.diskWas
  · rw [requested_shell]
    intro alone
    have different : Flag.disk ≠ flag := by
      intro same
      rw [known same.symm] at alone
      cases alone
    rw [requested_other tablet false ok effect different]
    exact armed.diskAlone alone
  · intro other untouched
    have different : other ≠ flag := by
      intro same
      rw [same, was] at untouched
      cases untouched
    rw [requested_other tablet false ok effect different]
    exact armed.clear other untouched
  · exact armed.coupled

end Invariant

/-! ### Closing -/

section Closing

variable {device : Device} {exited : Nat → Tablet device.size → Prop}
  {initial : Flag → Bool} {tablet : Tablet device.size}

/-- What one restored flag leaves: either the request failed and the record
says so, or the flag is set. -/
structure Restored (flag : Flag) (before after : Tablet device.size) (done : Bool) : Prop where
  shell : after.shell = before.shell
  rebooted : after.history.rebooted = before.history.rebooted
  other : ∀ other, other ≠ flag → after.own other = before.own other
  set : after.history.restoreFailed = false →
    before.history.restoreFailed = false ∧ after.own flag = true
  success : done = true → after.history.restoreFailed = before.history.restoreFailed

theorem wp_restoreFlag {flag : Flag} {returned : Bool → Tablet device.size → Prop}
    (ignoring : tablet.shell.ignoring = true)
    (next : ∀ done after, Restored flag tablet after done → returned done after) :
    wp (machine device) (fun _ _ => True) exited (restoreFlag device flag) returned tablet := by
  simp only [restoreFlag, Prog.bind_eq, wp_bind]
  refine wp_roSet ignoring trivial fun ok effect => ?_
  have requested : ∀ done : Bool, (done = true → ok = true) →
      Restored flag tablet (tablet.requested flag true ok effect) done := by
    intro done success
    constructor
    · simp
    · simp
    · intro other different
      exact requested_other tablet true ok effect different
    · intro restored
      simp only [requested_restoreFailed, Bool.true_and, Bool.or_eq_false_iff,
        Bool.not_eq_false'] at restored
      refine ⟨restored.1, ?_⟩
      rw [requested_own, restored.2]
      rfl
    · intro isDone
      simp [success isDone]
  have later : (tablet.requested flag true ok effect).shell.ignoring = true := by
    simpa using ignoring
  cases ok with
  | false =>
      simp only [Bool.false_eq_true, if_false, Prog.pure_eq, wp_done, reduceCtorEq, wp_bind]
      exact wp_ignoring later trivial fun _ => next false _ (requested false (by simp))
  | true =>
      simp only [if_true]
      refine wp_roGet later trivial fun works => ?_
      have confirmed : ∀ done : Bool, Restored flag tablet
          ((tablet.requested flag true true effect).note (History.flagRequest works)) done := by
        intro done
        have before := requested done (fun _ => rfl)
        exact ⟨before.shell, before.rebooted, before.other, before.set, before.success⟩
      split
      · exact next true _ (confirmed true)
      · simp only [wp_bind]
        exact wp_ignoring (by simpa using ignoring) trivial fun _ => next false _ (confirmed false)

/-- close_rw after open_rw. -/
theorem wp_closeRw {returned : Bool → Tablet device.size → Prop} (armed : Armed initial tablet)
    (next : ∀ closed after, Closed initial after →
      (closed = true → after.history.restoreFailed = false) → returned closed after) :
    wp (machine device) (fun _ _ => True) exited (closeRw device) returned tablet := by
  simp only [closeRw, Prog.bind_eq, wp_bind]
  refine wp_shellIgnoring armed.ignoring trivial ?_
  simp only [armed.armed, if_true, wp_bind]
  refine wp_assign armed.ignoring trivial ?_
  -- after the partition's flag
  have partDone : ∀ (part : Bool) (one : Tablet device.size),
      one.shell = { tablet.shell with rwArmed := false } → one.history.rebooted = false →
      one.own .disk = tablet.own .disk →
      (one.history.restoreFailed = false → one.own .part = initial .part) →
      (part = true → one.history.restoreFailed = false) →
      wp (machine device) (fun _ _ => True) exited
        (if tablet.shell.rwDisk = true ∧ tablet.shell.rwDiskWas = some true then
          restoreFlag device .disk else Prog.done true)
        (fun disk => wp (machine device) (fun _ _ => True) exited
          (if (part && disk) = true then Prog.done true
            else (assign fun shell => { shell with rwFailed := true }).bind
              fun _ => Prog.done false) returned) one := by
    intro part one shell quiet diskKept partSet partSure
    have ignoring : one.shell.ignoring = true := by
      rw [shell]
      exact armed.ignoring
    have diskDone : ∀ (disk : Bool) (two : Tablet device.size), two.shell = one.shell →
        two.history.rebooted = false →
        (two.history.restoreFailed = false → two.own = initial) →
        ((part && disk) = true → two.history.restoreFailed = false) →
        wp (machine device) (fun _ _ => True) exited
          (if (part && disk) = true then Prog.done true
            else (assign fun shell => { shell with rwFailed := true }).bind
              fun _ => Prog.done false) returned two := by
      intro disk two sameShell quiet set sure
      have closed : Closed initial two := by
        constructor
        · rw [sameShell]
          exact ignoring
        · rw [sameShell, shell]
        · exact quiet
        · exact fun restored => reported_of_own armed.coupled (set restored)
      split
      · rename_i both
        exact next true two closed (fun _ => sure both)
      · simp only [wp_bind, wp_done]
        refine wp_assign closed.ignoring trivial ?_
        exact next false _ ⟨closed.ignoring, closed.disarmed, closed.quiet, closed.restored⟩
          (by simp)
    split
    · rename_i known
      refine wp_restoreFlag ignoring fun disk two restored => ?_
      apply diskDone disk two restored.shell (restored.rebooted.trans quiet)
      · intro fine
        obtain ⟨before, set⟩ := restored.set fine
        have wasOne : initial .disk = true := by
          have recorded := armed.diskWas known.1
          rw [known.2] at recorded
          simpa using recorded.symm
        funext flag
        cases flag with
        | part =>
            rw [restored.other .part (by decide)]
            exact partSet before
        | disk => rw [set, wasOne]
      · intro both
        rw [Bool.and_eq_true] at both
        rw [restored.success both.2]
        exact partSure both.1
    · rename_i unknown
      apply diskDone true one rfl quiet
      · intro fine
        funext flag
        cases flag with
        | part => exact partSet fine
        | disk =>
            rw [diskKept]
            cases present : tablet.shell.rwDisk with
            | false => exact armed.diskAlone present
            | true =>
                cases was : initial .disk with
                | false => exact armed.clear .disk was
                | true =>
                    have recorded := armed.diskWas present
                    rw [was] at recorded
                    exact absurd ⟨present, recorded⟩ unknown
      · intro sure
        rw [Bool.and_true] at sure
        exact partSure sure
  split
  · rename_i recorded
    have wasOne : initial .part = true := by
      rw [armed.partWas] at recorded
      simpa using recorded
    refine wp_restoreFlag armed.ignoring fun part one restored => ?_
    refine partDone part one restored.shell (restored.rebooted.trans armed.quiet)
      (restored.other .disk (by decide)) ?_ ?_
    · intro fine
      rw [(restored.set fine).2, wasOne]
    · intro done
      rw [restored.success done]
      exact armed.restored
  · rename_i recorded
    have wasZero : initial .part = false := by
      rw [armed.partWas] at recorded
      simpa using recorded
    refine partDone true _ rfl armed.quiet rfl ?_ (fun _ => armed.restored)
    intro _
    rw [wasZero]
    exact armed.clear .part wasZero

end Closing

end Liuqin.Switch
