/-
A way back exists before the first byte is written.

to-android checks the Ubuntu set first and to-ubuntu keeps the Android image
it is about to overwrite, so rollback finds a usable set.  The exception is
to-ubuntu over another Ubuntu build: nothing looks at the Android set that
rollback would restore.  The theorem is about the runs that do not start like
that; the tablet at the end does.
-/

import Liuqin.Switch.Archive
import Liuqin.Switch.Opened
import Liuqin.Switch.Reference

namespace Liuqin.Switch

open Liuqin.Library.Program

/-- The set that rollback restores. -/
def Command.back : Command → Option System
  | .toUbuntu => some .android
  | .toAndroid => some .ubuntu
  | _ => none

/-- to-ubuntu is about to replace an Ubuntu image with no Android set behind. -/
structure Exposed (device : Device) (options : Options) (command : Command)
    (tablet : Tablet device.size) : Prop where
  command : command = .toUbuntu
  wet : options.dryRun = false
  slot : device.runningSlot ≠ some .b
  kind : tablet.kind = some .ubuntu
  ubuntu : ∃ image, Usable device tablet.store .ubuntu image
  android : ¬∃ image, Usable device tablet.store .android image

/-- The start was not exposed, or the Ubuntu image is the stored one and was
read in full; and an archive got its SHA256SUMS. -/
structure Spared (device : Device) (options : Options) (command : Command)
    (tablet last : Tablet device.size) : Prop where
  start : Exposed device options command tablet → last.history.readShort = false ∧
    ∃ image, Usable device tablet.store .ubuntu image ∧ tablet.whole = padded device.size image
  sums : last.history.sumsFailed = false

/-- `image` is the usable set that rollback would restore. -/
def Behind (device : Device) (command : Command) (store : Store) (image : Bytes) : Prop :=
  ∃ back, command.back = some back ∧ Usable device store back image

/-- The first write has a set behind it, and when it fails that set ends up in
boot_a unless the medium refuses it. -/
structure WayBack (device : Device) (options : Options) (command : Command)
    (tablet : Tablet device.size) (spared undisturbed : Tablet device.size → Prop) : Prop where
  before : ∀ (data : Bytes) (next : Answer (.writeBoot data) → Script Empty)
    (now : Tablet device.size),
    Reaches (machine device) (main device options command, tablet.started)
      (.act (.writeBoot data) next, now) →
    spared now → now.history.writes = 0 → ∃ image, Behind device command now.store image
  after : ∀ (status : Nat) (last : Tablet device.size),
    Reaches (machine device) (main device options command, tablet.started) (.exit status, last) →
    spared last → undisturbed last →
    Set.InjOn device.sha256.digest {data | data ∈ last.history.hashed} →
    last.history.forwardFailed = true → last.history.rollbackRefused = false →
    status ≠ 0 ∧ ∃ image, Behind device command last.history.firstStore image ∧
      last.boot.toList = padded device.size image ∧ last.whole ∈ last.history.hashed

section WayBack

variable {device : Device} {options : Options} {command : Command}
  {start tablet after : Tablet device.size}

/-! ### What a moment owes -/

/-- A write that is the first one has a set behind it. -/
def Guarded (options : Options) (command : Command) (start : Tablet device.size) (operation : Op)
    (tablet : Tablet device.size) : Prop :=
  (∃ data, operation = .writeBoot data) → tablet.history.writes = 0 →
    Spared device options command start tablet → ∃ image, Behind device command tablet.store image

/-- The case in which the end of a run owes anything. -/
structure Due (options : Options) (command : Command) (start tablet : Tablet device.size) : Prop where
  spared : Spared device options command start tablet
  undisturbed : tablet.history.flagFailed = false
  injective : Set.InjOn device.sha256.digest {data | data ∈ tablet.history.hashed}
  forward : tablet.history.forwardFailed = true
  accepted : tablet.history.rollbackRefused = false

/-- boot_a holds the set that was behind the first write, and was read back. -/
def Recovered (command : Command) (tablet : Tablet device.size) : Prop :=
  ∃ image, Behind device command tablet.history.firstStore image ∧
    tablet.boot.toList = padded device.size image ∧ tablet.whole ∈ tablet.history.hashed

def Ended (options : Options) (command : Command) (start : Tablet device.size) (status : Nat)
    (tablet : Tablet device.size) : Prop :=
  Due options command start tablet → status ≠ 0 ∧ Recovered command tablet

theorem Spared.held (spared : Spared device options command start after)
    (held : Held tablet after) : Spared device options command start tablet := by
  refine ⟨fun exposed => ?_, held.sumsFailed ▸ spared.sums⟩
  obtain ⟨complete, stored⟩ := spared.start exposed
  exact ⟨held.readShort ▸ complete, stored⟩

theorem Spared.stored (spared : Spared device options command start after)
    (stored : Stored tablet after) : Spared device options command start tablet := by
  refine ⟨fun exposed => ?_, ?_⟩
  · obtain ⟨complete, set⟩ := spared.start exposed
    refine ⟨?_, set⟩
    cases short : tablet.history.readShort with
    | false => rfl
    | true => rw [stored.readShort short] at complete; cases complete
  · have fine := spared.sums
    cases failed : tablet.history.sumsFailed with
    | false => rfl
    | true => rw [stored.sumsFailed failed] at fine; cases fine

theorem Due.held (due : Due options command start after) (held : Held tablet after) :
    Due options command start tablet := by
  refine ⟨due.spared.held held, ?_, due.injective.mono fun _ member => held.hashed member,
    held.forwardFailed ▸ due.forward, held.rollbackRefused ▸ due.accepted⟩
  have fine := due.undisturbed
  cases failed : tablet.history.flagFailed with
  | false => rfl
  | true => rw [held.flagFailed failed] at fine; cases fine

theorem Ended.held {status last : Nat} (ended : Ended options command start status tablet)
    (held : Held tablet after) (leaves : last ≠ 0 ∨ last = status) :
    Ended options command start last after := by
  intro due
  obtain ⟨failure, image, behind, boot, read⟩ := ended (due.held held)
  refine ⟨?_, image, ?_, ?_, ?_⟩
  · rcases leaves with nonzero | rfl
    · exact nonzero
    · exact failure
  · rw [held.firstStore]
    exact behind
  · rw [held.boot]
    exact boot
  · rw [Tablet.whole, held.boot]
    exact held.hashed read

theorem Op.Flags.guarded {operation : Op} (flags : operation.Flags) (tablet : Tablet device.size) :
    Guarded options command start operation tablet := by
  rintro ⟨data, rfl⟩
  exact flags.elim

theorem Op.Observes.guarded {operation : Op} (observes : operation.Observes)
    (tablet : Tablet device.size) : Guarded options command start operation tablet := by
  rintro ⟨data, rfl⟩
  exact observes.elim

theorem Op.Stores.guarded {operation : Op} {set : System} (stores : operation.Stores set)
    (tablet : Tablet device.size) : Guarded options command start operation tablet := by
  rintro ⟨data, rfl⟩
  exact stores.elim

/-- The trap entered with this status ends as it owes. -/
def Caught (options : Options) (command : Command) (start : Tablet device.size) (status : Nat)
    (tablet : Tablet device.size) : Prop :=
  wp (machine device) (Guarded options command start) (Ended options command start)
    (onExit device status) (fun _ _ => True) tablet

theorem caught {status : Nat} (ended : Ended options command start status tablet) :
    Caught options command start status tablet :=
  wp_of_only (only_onExit device status)
    (fun _ flags fault before held => held.trans (flags.held fault.1 before))
    (fun _ flags after _ => flags.guarded after)
    (fun _ leaves _ held => ended.held held leaves) (fun _ _ _ => trivial) (Held.refl tablet)

/-! ### Before the first write -/

/-- Nothing was written, so the end owes nothing yet. -/
structure Untouched (tablet : Tablet device.size) : Prop where
  unwritten : tablet.history.writes = 0
  forward : tablet.history.forwardFailed = false
  accepted : tablet.history.rollbackRefused = false

theorem Untouched.ended (untouched : Untouched tablet) (status : Nat) :
    Ended options command start status tablet := by
  intro due
  have failed := due.forward
  rw [untouched.forward] at failed
  cases failed

theorem Untouched.looked (untouched : Untouched tablet) (looked : Looked tablet after) :
    Untouched after := by
  obtain ⟨forward, accepted⟩ := looked.early untouched.unwritten
  exact ⟨looked.writes.trans untouched.unwritten, forward.trans untouched.forward,
    accepted.trans untouched.accepted⟩

theorem Untouched.stored (untouched : Untouched tablet) (stored : Stored tablet after) :
    Untouched after := by
  obtain ⟨forward, accepted⟩ := stored.early untouched.unwritten
  exact ⟨stored.writes.trans untouched.unwritten, forward.trans untouched.forward,
    accepted.trans untouched.accepted⟩

theorem Untouched.held (untouched : Untouched tablet) (held : Held tablet after) :
    Untouched after :=
  ⟨held.writes.trans untouched.unwritten, held.forwardFailed.trans untouched.forward,
    held.rollbackRefused.trans untouched.accepted⟩

theorem Untouched.bears (untouched : Untouched tablet) :
    Bears (Guarded options command start) (Caught options command start) tablet :=
  fun after looked => ⟨fun _ observes => observes.guarded after,
    fun status _ => caught ((untouched.looked looked).ended status)⟩

theorem Untouched.suffers (untouched : Untouched tablet) :
    Suffers (Guarded options command start) (Caught options command start) tablet :=
  fun after held => ⟨fun _ flags => flags.guarded after,
    fun status _ => caught ((untouched.held held).ended status)⟩

/-! ### After the first write -/

theorem watches_ignoring (ignoring : tablet.shell.ignoring = true) :
    Watches (Guarded options command start) (Caught options command start) tablet := by
  intro after looked
  refine ⟨fun _ observes => observes.guarded after, fun open_ => ?_⟩
  rw [looked.shell, ignoring] at open_
  cases open_

theorem calm_guarded (tablet : Tablet device.size) :
    Calm (Guarded options command start) tablet :=
  fun after _ _ flags => flags.guarded after

theorem ended_of_failed (failed : tablet.history.flagFailed = true) (status : Nat) :
    Ended options command start status tablet := by
  intro due
  have fine := due.undisturbed
  rw [failed] at fine
  cases fine

theorem excused (tablet : Tablet device.size) : Excused (Caught options command start) tablet :=
  fun _ _ failed status _ => caught (ended_of_failed failed status)

/-- The forward write was made, the set behind it is still in the store. -/
structure Struck (options : Options) (command : Command) (start tablet : Tablet device.size) :
    Prop where
  ignoring : tablet.shell.ignoring = true
  once : tablet.history.writes = 1
  first : tablet.history.firstStore = tablet.store
  accepted : tablet.history.rollbackRefused = false
  behind : Spared device options command start tablet →
    ∃ image, Behind device command tablet.store image

theorem Struck.held (struck : Struck options command start tablet) (held : Held tablet after) :
    Struck options command start after where
  ignoring := held.ignoring struck.ignoring
  once := held.writes.trans struck.once
  first := by rw [held.firstStore, held.store, struck.first]
  accepted := held.rollbackRefused.trans struck.accepted
  behind := by
    intro spared
    rw [held.store]
    exact struck.behind (spared.held held)

/-- The last read-back after the rollback. -/
theorem recovered_of_readBack {back : System} {image got : Bytes}
    {mid five : Tablet device.size} {stored : List.Vector UInt8 device.size}
    (aims : command.back = some back) (struck : Struck options command start mid)
    (usable : Usable device mid.store back image)
    (held : Held (mid.wrote (padded device.size image) stored true) five) (status : Nat)
    (failure : status ≠ 0) :
    Ended options command start status (five.hashedPart got) := by
  intro due
  have accepted := due.accepted
  have writes : five.history.writes = 2 := by
    rw [held.writes]
    change mid.history.writes + 1 = 2
    rw [struck.once]
  have refused : five.history.rollbackRefused = !(stored.toList == padded device.size image) := by
    rw [held.rollbackRefused]
    simp [Tablet.wrote, Tablet.note, History.wroteBoot, struck.once, struck.accepted]
  simp only [Tablet.hashedPart, Tablet.note, History.readBack, writes, refused,
    Bool.or_eq_false_iff, Bool.not_eq_false', beq_iff_eq, decide_true, Bool.true_and,
    le_refl] at accepted
  have boot : five.boot = stored := held.boot
  refine ⟨failure, image, ⟨back, aims, ?_⟩, ?_, ?_⟩
  · have first : five.history.firstStore = mid.store := by
      rw [held.firstStore]
      simp [Tablet.wrote, Tablet.note, History.wroteBoot, struck.once, struck.first]
    change Usable device five.history.firstStore back image
    rw [first]
    exact usable
  · change five.boot.toList = _
    rw [boot]
    exact accepted.1
  · have same : five.whole = got := accepted.2.symm
    change five.whole ∈ got :: five.history.hashed
    rw [same]
    exact List.mem_cons_self

theorem Due.behind_unusable {back : System} (aims : command.back = some back)
    (struck : Struck options command start tablet)
    (unusable : ¬∃ image, Usable device tablet.store back image) :
    ¬Due options command start tablet := by
  intro due
  obtain ⟨image, other, same, usable⟩ := struck.behind due.spared
  rw [aims] at same
  cases same
  exact unusable ⟨image, usable⟩

/-- rollback after a forward write that failed. -/
theorem wp_rollingBack {back : System} (aims : command.back = some back)
    (struck : Struck options command start tablet) {returned : Unit → Tablet device.size → Prop}
    (next : ∀ after, after.shell.ignoring = true →
      Ended options command start 1 after → returned () after) :
    wp (machine device) (Guarded options command start) (Caught options command start)
      (rollback device back) returned tablet := by
  have quiet : ∀ (after : Tablet device.size), after.shell.ignoring = true →
      Ended options command start 1 after → ∀ one two : String,
      wp (machine device) (Guarded options command start) (Caught options command start) (warn one)
        (fun _ => wp (machine device) (Guarded options command start) (Caught options command start)
          (warn two) returned) after :=
    fun after ignoring ended _ _ => wp_warn (watches_ignoring ignoring) _
      (wp_warn (watches_ignoring ignoring) _ (next after ignoring ended))
  simp only [rollback, Prog.bind_eq, Prog.pure_eq, wp_bind]
  refine wp_warn (watches_ignoring struck.ignoring) _ ?_
  refine wp_checkSet (watches_ignoring struck.ignoring) back false fun passed one seen meaning => ?_
  have struckOne := struck.held seen.held
  rw [← seen.looked.store] at meaning
  cases passed with
  | false =>
      simp only [Bool.false_eq_true, not_false_eq_true, if_true, wp_bind]
      refine quiet one struckOne.ignoring (fun due => ?_) _ _
      refine absurd due (Due.behind_unusable aims struckOne fun usable => ?_)
      cases meaning.mpr usable
  | true =>
      obtain ⟨image, usable⟩ := meaning.mp rfl
      simp only [not_true_eq_false, if_false, wp_bind]
      refine wp_paddedSha (watches_ignoring struckOne.ignoring) usable ?_
      have hashing := (looked_hashing one (padded device.size image)).held
      have struckTwo := struckOne.held hashing
      refine wp_opening struckTwo.ignoring (calm_guarded _) (excused _) struckTwo.once.le
        fun three heldThree clear => ?_
      have struckThree := struckTwo.held heldThree
      have usableThree : Usable device three.store back image := by
        rw [heldThree.store]
        exact usable
      -- the verdict only prints
      have verdict : ∀ (verified : Bool) (last : Tablet device.size), last.shell.ignoring = true →
          Ended options command start 1 last →
          wp (machine device) (Guarded options command start) (Caught options command start)
            (if verified = true then
              warn ("boot_a holds the " ++ back.name ++ " image again (verified); not rebooting")
            else
              (warn ("restoring the " ++ back.name ++
                " image did not verify either; do not reboot:")).bind fun _ =>
                warn "flash boot_a from a host with fastboot first.") returned last := by
        intro verified last ignoring ended
        cases verified with
        | true => exact wp_warn (watches_ignoring ignoring) _ (next last ignoring ended)
        | false =>
            simp only [Bool.false_eq_true, if_false, wp_bind]
            exact quiet last ignoring ended _ _
      refine wp_writing struckThree.ignoring (calm_guarded _) struckThree.once.le clear usableThree
        ?_ (fun _ _ _ _ => calm_guarded _) ?_ ?_
      · intro mid held _ unwritten
        rw [(struckThree.held held).once] at unwritten
        cases unwritten
      · intro four held failed
        have ignoring := held.ignoring struckThree.ignoring
        refine wp_closing ignoring (calm_guarded _) fun _ five heldFive _ => ?_
        exact verdict false five (heldFive.ignoring ignoring)
          (ended_of_failed (heldFive.flagFailed failed) 1)
      · intro mid stored ok held
        have struckMid := struckThree.held held
        have ignoring : (mid.wrote (padded device.size image) stored ok).shell.ignoring = true :=
          struckMid.ignoring
        refine wp_closing ignoring (calm_guarded _) fun _ five heldFive _ => ?_
        cases ok with
        | false =>
            refine verdict false five (heldFive.ignoring ignoring) fun due => ?_
            have accepted := due.accepted
            rw [heldFive.rollbackRefused] at accepted
            simp [Tablet.wrote, Tablet.note, History.wroteBoot, struckMid.once] at accepted
        | true =>
            simp only [if_true, wp_bind]
            refine wp_shaOfPart (watches_ignoring (heldFive.ignoring ignoring)) fun got _ => ?_
            have usableMid : Usable device mid.store back image := by
              rw [held.store]
              exact usableThree
            refine verdict _ _ (heldFive.ignoring ignoring) ?_
            exact recovered_of_readBack aims struckMid usableMid heldFive 1 (by decide)

/-! ### The forward write -/

/-- Whatever the status, the end owes nothing or has been given it. -/
def Settled (options : Options) (command : Command) (start tablet : Tablet device.size) : Prop :=
  ∀ status, Ended options command start status tablet

theorem Settled.held (settled : Settled options command start tablet) (held : Held tablet after) :
    Settled options command start after :=
  fun status => (settled status).held held (Or.inr rfl)

theorem Settled.ignore (settled : Settled options command start tablet) (ignoring : Bool) :
    Settled options command start (tablet.ignore ignoring) :=
  fun status due => settled status ⟨⟨due.spared.start, due.spared.sums⟩, due.undisturbed,
    due.injective, due.forward, due.accepted⟩

/-- A flag request failed; a set is still behind whatever is written next. -/
structure Doomed (options : Options) (command : Command) (start tablet : Tablet device.size) :
    Prop where
  failed : tablet.history.flagFailed = true
  behind : Spared device options command start tablet →
    ∃ image, Behind device command tablet.store image

theorem Doomed.looked (doomed : Doomed options command start tablet)
    (looked : Looked tablet after) : Doomed options command start after where
  failed := looked.flagFailed doomed.failed
  behind := by
    intro spared
    rw [looked.store]
    exact doomed.behind (spared.stored looked.stored)

theorem Doomed.held (doomed : Doomed options command start tablet) (held : Held tablet after) :
    Doomed options command start after where
  failed := held.flagFailed doomed.failed
  behind := by
    intro spared
    rw [held.store]
    exact doomed.behind (spared.held held)

theorem wp_dying {α : Type} {returned : α → Tablet device.size → Prop} (text : String)
    (ignoring : tablet.shell.ignoring = true) (ended : Ended options command start 1 tablet) :
    wp (machine device) (Guarded options command start) (Caught options command start)
      (die text) returned tablet := by
  rw [die, Prog.bind_eq, wp_bind]
  exact wp_warn (watches_ignoring ignoring) text (caught ended)

/-- install_set goes on after a write that was never made. -/
theorem wp_confirmDoomed {session : Session} (same : session.device = device) {set back : System}
    {want : Line} {returned : Unit → Tablet device.size → Prop}
    (ignoring : tablet.shell.ignoring = true) (doomed : Doomed options command start tablet) :
    wp (machine device) (Guarded options command start) (Caught options command start)
      (confirmSet session set back want false) returned tablet := by
  subst same
  have dying : ∀ after : Tablet session.device.size, Doomed options command start after → ∀ status,
      Caught options command start status after :=
    fun after doomed status => caught (ended_of_failed doomed.failed status)
  simp only [confirmSet, Prog.bind_eq, wp_bind]
  refine wp_warnIf (watches_ignoring ignoring) _ _ ?_
  refine wp_shaOfPart (watches_ignoring ignoring) fun got _ => ?_
  have read := looked_hashedPart tablet got
  have later := doomed.looked read
  simp only [Bool.false_eq_true, false_and, if_false, wp_bind]
  refine wp_warnIf (watches_ignoring (by rw [read.shell, ignoring])) _ _ ?_
  refine wp_of_only (only_rollback session.device back) ?_ ?_
    (fun status _ after doomed => dying after doomed status) ?_ later
  · rintro operation ((observes | ⟨data, rfl⟩) | flags) fault before doomed
    · exact doomed.looked (observes.looked fault.1 before)
    · exact ⟨doomed.failed, fun spared => doomed.behind ⟨spared.start, spared.sums⟩⟩
    · exact doomed.held (flags.held fault.1 before)
  · rintro operation ((observes | ⟨data, rfl⟩) | flags) after doomed
    · exact observes.guarded after
    · exact fun _ _ => doomed.behind
    · exact flags.guarded after
  · intro _ after doomed
    refine wp_die ?_ _
    exact fun last looked => ⟨fun _ observes => observes.guarded last,
      fun status _ => dying last (doomed.looked looked) status⟩

/-- A verified write read back as written. -/
theorem settled_of_verified {set : System} {image got : Bytes}
    (usable : Usable device tablet.store set image) (once : tablet.history.writes = 1)
    (written : tablet.history.written = padded device.size image)
    (forward : tablet.history.forwardFailed = false)
    (wanted : padded device.size image ∈ tablet.history.hashed) (part : got <+: tablet.whole)
    (digests : device.sha256.digest got = device.sha256.digest (padded device.size image)) :
    Settled options command start (tablet.hashedPart got) := by
  intro status due
  have same : got = padded device.size image :=
    due.injective List.mem_cons_self (List.mem_cons_of_mem _ wanted) digests
  have length : device.size ≤ wholeBlocks device.size := by
    have short := part.length_le
    have bound := range_length_le tablet.boot.toList 0 (wholeBlocks device.size)
    rw [same, padded_length usable.fits] at short
    exact short.trans bound
  have whole : range (padded device.size image) 0 (wholeBlocks device.size) =
      padded device.size image := by
    rw [range, List.drop_zero, List.take_of_length_le]
    rw [padded_length usable.fits]
    exact length
  have failed := due.forward
  simp [Tablet.hashedPart, Tablet.note, History.readBack, once, forward, written, whole, same]
    at failed

theorem Struck.readBack (struck : Struck options command start tablet) (got : Bytes) :
    Struck options command start (tablet.hashedPart got) where
  ignoring := struck.ignoring
  once := struck.once
  first := struck.first
  accepted := by
    simp [Tablet.hashedPart, Tablet.note, History.readBack, struck.once, struck.accepted]
  behind := by
    intro spared
    exact struck.behind (spared.stored (looked_hashedPart tablet got).stored)

theorem wp_confirmStruck {session : Session} (same : session.device = device) {set back : System}
    (aims : command.back = some back) {image : Bytes} {want : Line} {wrote : Bool}
    {returned : Unit → Tablet device.size → Prop} (struck : Struck options command start tablet)
    (usable : Usable device tablet.store set image)
    (written : tablet.history.written = padded device.size image)
    (forward : wrote = true → tablet.history.forwardFailed = false)
    (wanted : padded device.size image ∈ tablet.history.hashed)
    (digest : want = device.sha256.digest (padded device.size image))
    (next : ∀ after, Settled options command start after → returned () after) :
    wp (machine device) (Guarded options command start) (Caught options command start)
      (confirmSet session set back want wrote) returned tablet := by
  subst same
  simp only [confirmSet, Prog.bind_eq, wp_bind]
  refine wp_warnIf (watches_ignoring struck.ignoring) _ _ ?_
  refine wp_shaOfPart (watches_ignoring struck.ignoring) fun got part => ?_
  have struckTwo := struck.readBack got
  split
  · rename_i verified
    have settled : Settled options command start (tablet.hashedPart got) :=
      settled_of_verified usable struck.once written (forward verified.1) wanted part
        (verified.2.trans digest)
    simp only [wp_bind]
    refine wp_say (watches_ignoring struckTwo.ignoring) _ ?_
    refine wp_ignoring struckTwo.ignoring ?_ fun _ => next _ (settled.ignore false)
    rintro ⟨data, impossible⟩
    cases impossible
  · simp only [wp_bind]
    refine wp_warnIf (watches_ignoring struckTwo.ignoring) _ _ ?_
    exact wp_rollingBack aims struckTwo fun after ignoring ended => wp_dying _ ignoring ended

theorem wp_overwriting {session : Session} (same : session.device = device) {set back : System}
    (aims : command.back = some back) {image : Bytes} {want : Line}
    {returned : Unit → Tablet device.size → Prop} (untouched : Untouched tablet)
    (behind : Spared device options command start tablet →
      ∃ image, Behind device command tablet.store image)
    (usable : Usable device tablet.store set image)
    (wanted : padded device.size image ∈ tablet.history.hashed)
    (digest : want = device.sha256.digest (padded device.size image))
    (next : ∀ after, Settled options command start after → returned () after) :
    wp (machine device) (Guarded options command start) (Caught options command start)
      (overwrite session set back want) returned tablet := by
  subst same
  have few : ∀ {after : Tablet session.device.size}, Held tablet after →
      after.history.writes ≤ 1 := by
    intro after held
    rw [held.writes, untouched.unwritten]
    exact Nat.zero_le 1
  have ready : ∀ {after : Tablet session.device.size}, Held tablet after →
      Spared session.device options command start after →
      ∃ image, Behind session.device command after.store image := by
    intro after held spared
    rw [held.store]
    exact behind (spared.held held)
  simp only [overwrite, criticalBegin, Prog.bind_eq, wp_bind]
  have heldOne : Held tablet (tablet.ignore true) :=
    ⟨fun _ => rfl, rfl, rfl, fun _ => id, rfl, rfl, rfl, rfl, rfl, rfl, rfl, id⟩
  have ignoringOne : (tablet.ignore true).shell.ignoring = true := rfl
  refine wp_ignoreSignals ((calm_guarded tablet).now rfl) ?_ ?_
  · exact fun _ => caught ((untouched.held heldOne).ended 130)
  generalize tablet.ignore true = one at heldOne ignoringOne ⊢
  refine wp_opening ignoringOne (calm_guarded one) (excused one) (few heldOne) fun two further clear => ?_
  have heldTwo := heldOne.trans further
  have ignoringTwo := further.ignoring ignoringOne
  have usableTwo : Usable session.device two.store set image := by
    rw [heldTwo.store]
    exact usable
  refine wp_writing ignoringTwo (calm_guarded two) (few heldTwo) clear usableTwo ?_
    (fun _ _ _ _ => calm_guarded _) ?_ ?_
  · exact fun mid held _ _ => ready (heldTwo.trans held)
  · intro three held failed
    have heldThree := heldTwo.trans held
    have ignoringThree := held.ignoring ignoringTwo
    refine wp_closing ignoringThree (calm_guarded three) fun closed four heldFour _ => ?_
    have doomed : Doomed options command start four :=
      ⟨heldFour.flagFailed failed, ready (heldThree.trans heldFour)⟩
    refine wp_excusing (heldFour.ignoring ignoringThree) (calm_guarded four) (excused four) _ _
      (fun _ => doomed.failed) fun _ => ?_
    exact wp_confirmDoomed rfl (heldFour.ignoring ignoringThree) doomed
  · intro mid stored ok held
    have heldMid := heldTwo.trans held
    have ignoringMid := held.ignoring ignoringTwo
    have unwritten : mid.history.writes = 0 := heldMid.writes.trans untouched.unwritten
    have forward : mid.history.forwardFailed = false :=
      heldMid.forwardFailed.trans untouched.forward
    have accepted : mid.history.rollbackRefused = false :=
      heldMid.rollbackRefused.trans untouched.accepted
    have struck : Struck options command start
        (mid.wrote (padded session.device.size image) stored ok) := by
      constructor
      · exact ignoringMid
      · change mid.history.writes + 1 = 1
        rw [unwritten]
      · simp [Tablet.wrote, Tablet.note, History.wroteBoot, unwritten]
      · simp [Tablet.wrote, Tablet.note, History.wroteBoot, unwritten, accepted]
      · intro spared
        change ∃ image, Behind session.device command mid.store image
        exact ready heldMid ⟨spared.start, spared.sums⟩
    refine wp_closing struck.ignoring (calm_guarded _) fun closed four heldFour worked => ?_
    have struckFour := struck.held heldFour
    refine wp_excusing struckFour.ignoring (calm_guarded four) (excused four) _ _
      (fun open_ => (worked struck.once.le).resolve_left open_) fun _ => ?_
    refine wp_confirmStruck rfl aims struckFour ?_ ?_ ?_ ?_ digest next
    · rw [heldFour.store]
      change Usable session.device mid.store set image
      rw [heldMid.store]
      exact usable
    · rw [heldFour.written]
      rfl
    · intro isOk
      rw [heldFour.forwardFailed]
      simp [Tablet.wrote, Tablet.note, History.wroteBoot, forward, isOk]
    · exact heldFour.hashed (heldMid.hashed wanted)

/-- What is left once nothing more is owed. -/
theorem wp_finishing {session : Session} (same : session.device = device)
    (settled : Settled options command start tablet) :
    wp (machine device) (Guarded options command start) (Caught options command start)
      (writeState session)
      (fun _ => wp (machine device) (Guarded options command start) (Caught options command start)
        (doReboot session) fun ended after =>
          Caught options command start (if ended then 0 else 1) after) tablet := by
  subst same
  refine wp_of_only (only_writeState session)
    (fun _ flags fault before settled => Settled.held settled (flags.held fault.1 before))
    (fun _ flags after _ => flags.guarded after) (fun status _ after settled => caught (settled status))
    (fun _ two settled => ?_) settled
  refine wp_of_only (only_doReboot session) ?_ ?_ ?_ ?_ settled
  · rintro operation (flags | rfl) fault before settled
    · exact settled.held (flags.held fault.1 before)
    · exact settled.held ⟨id, rfl, rfl, fun _ => id, rfl, rfl, rfl, rfl, rfl, rfl, rfl, id⟩
  · rintro operation (flags | rfl) after _
    · exact flags.guarded after
    · rintro ⟨data, impossible⟩
      cases impossible
  · exact fun status _ after settled => caught (settled status)
  · exact fun _ _ settled => caught (settled _)

/-- Writing a set and asking for the reboot. -/
theorem wp_installing {session : Session} (same : session.device = device) {set back : System}
    (aims : command.back = some back) {image : Bytes} (untouched : Untouched tablet)
    (behind : session.dryRun = false → Spared device options command start tablet →
      ∃ image, Behind device command tablet.store image)
    (usable : Usable device tablet.store set image) :
    wp (machine device) (Guarded options command start) (Caught options command start)
      (installSet session set back)
      (fun _ => wp (machine device) (Guarded options command start) (Caught options command start)
        (writeState session)
        (fun _ => wp (machine device) (Guarded options command start)
          (Caught options command start) (doReboot session) fun ended after =>
            Caught options command start (if ended then 0 else 1) after)) tablet := by
  subst same
  simp only [installSet, Prog.bind_eq, wp_bind]
  refine wp_paddedSha untouched.bears.watches usable ?_
  have seen := looked_hashing tablet (padded session.device.size image)
  have untouched := untouched.held seen.held
  refine wp_catImage untouched.bears.watches _ ?_
  cases dry : session.dryRun with
  | true =>
      simp only [if_true]
      exact wp_say untouched.bears.watches _ (wp_finishing rfl fun status => untouched.ended status)
  | false =>
      have behind := fun spared => behind dry (Spared.held spared seen.held)
      simp only [Bool.false_eq_true, if_false, wp_bind]
      refine wp_say untouched.bears.watches _ ?_
      exact wp_overwriting rfl aims untouched behind usable List.mem_cons_self rfl
        fun one settled => wp_finishing rfl settled

/-! ### Commands -/

theorem Untouched.caught (untouched : Untouched tablet) (status : Nat) :
    Caught options command start status tablet :=
  Switch.caught (untouched.ended status)

/-- The archive is the usable Android set, unless SHA256SUMS was not written. -/
theorem usable_of_filed {live : Live} {image : Bytes} (archive : Matches live image tablet)
    (filed : Filed (.live .android) image tablet) (fine : tablet.history.sumsFailed = false) :
    Usable device tablet.store .android image := by
  obtain ⟨sums, stored, named⟩ := filed
  refine ⟨⟨[sumsLine (device.sha256.digest image)], ?_, sumsLookup_sumsLine device.sha256 image⟩,
    ?_, archive.identifies⟩
  · rw [stored, named fine]
  · rw [archive.length]
    exact Nat.div_mul_le_self _ _

/-- The Ubuntu image to-ubuntu replaces is not the stored one. -/
theorem behind_of_another {live : Live} {got image : Bytes} {before now : Tablet device.size}
    (toUbuntu : command = .toUbuntu) (wet : options.dryRun = false)
    (slot : device.runningSlot ≠ some .b) (sameStore : before.store = start.store)
    (sameBoot : before.boot = start.boot) (untouched : Untouched before)
    (known : Known before tablet live got) (seen : Seen tablet now) (kept : now.store = start.store)
    (usable : Usable device before.store .ubuntu image)
    (identified : live.identified = some .ubuntu)
    (another : ¬∃ image, Usable device tablet.store .ubuntu image ∧
      device.sha256.digest (padded device.size image) = live.full)
    (tabletStore : tablet.store = start.store)
    (spared : Spared device options command start now) :
    ∃ image, Behind device command now.store image := by
  have kind : start.kind = some .ubuntu := by
    have truth := known.identified.1
    rw [identified] at truth
    rw [Tablet.kind, ← sameBoot]
    exact truth.of_some
  by_cases android : ∃ image, Usable device start.store .android image
  · obtain ⟨other, usable⟩ := android
    refine ⟨other, .android, ?_, ?_⟩
    · rw [toUbuntu]
      rfl
    · rw [kept]
      exact usable
  · rw [sameStore] at usable
    obtain ⟨complete, stored, storedUsable, whole⟩ :=
      spared.start ⟨toUbuntu, wet, slot, kind, ⟨image, usable⟩, android⟩
    have exact_ := known.complete untouched.unwritten (readShort_of_looked seen.looked complete)
    refine absurd ⟨stored, ?_, ?_⟩ another
    · rw [tabletStore]
      exact storedUsable
    · rw [known.full, exact_, ← whole, Tablet.whole, Tablet.whole, sameBoot]

theorem wp_keptAndroid {session : Session} (same : session.device = device) (live : Live)
    (aims : command.back = some .android) {image : Bytes} (untouched : Untouched tablet)
    (usable : Usable device tablet.store .ubuntu image)
    {returned : Unit → Tablet device.size → Prop}
    (next : ∀ after, Untouched after → Usable device after.store .ubuntu image →
      (session.dryRun = false → Spared device options command start after →
        ∃ image, Behind device command after.store image) → returned () after) :
    wp (machine device) (Guarded options command start) (Caught options command start)
      (keepAndroid session live) returned tablet := by
  subst same
  simp only [keepAndroid, Prog.bind_eq, wp_bind]
  refine wp_liveIsSet untouched.bears.watches live .android fun known one seen meaning _ => ?_
  have untouchedOne := untouched.looked seen.looked
  rw [← seen.looked.store] at usable meaning
  split
  · rename_i isKnown
    obtain ⟨stored, storedUsable, _⟩ := meaning.mp isKnown
    exact wp_say untouchedOne.bears.watches _
      (next one untouchedOne usable fun _ _ => ⟨stored, .android, aims, storedUsable⟩)
  split
  · exact wp_die untouchedOne.bears _
  cases dry : session.dryRun with
  | true =>
      simp only [stashLive, dry, if_true]
      refine wp_say untouchedOne.bears.watches _ (next one untouchedOne usable fun wet => ?_)
      rw [dry] at wet
      cases wet
  | false =>
      refine wp_stashLive rfl dry ?_ (fun _ => ?_) fun two archived committing filed => ?_
      · exact fun after staged => ⟨fun _ stores => stores.guarded after,
          fun status _ => (untouchedOne.stored staged.stored).caught status⟩
      · exact fun after committing => ⟨fun _ stores => stores.guarded after,
          fun status _ => (untouchedOne.stored committing.stored).caught status⟩
      · refine next two (untouchedOne.stored committing.stored) ?_ fun _ spared => ?_
        · exact usable.of_same committing.ubuntu
        · exact ⟨archived, .android, aims, usable_of_filed committing.archive filed spared.sums⟩

theorem wp_backToUbuntu {session : Session} (same : session.device = device)
    (dry : session.dryRun = options.dryRun) (toUbuntu : command = .toUbuntu)
    (untouched : Untouched tablet) (sameStore : tablet.store = start.store)
    (sameBoot : tablet.boot = start.boot) :
    wp (machine device) (Guarded options command start) (Caught options command start)
      (cmdToUbuntu session)
      (fun ended after => Caught options command start (if ended then 0 else 1) after) tablet := by
  subst same
  have aims : command.back = some .android := by
    rw [toUbuntu]
    rfl
  simp only [cmdToUbuntu, Prog.bind_eq, wp_bind]
  refine wp_checkSet untouched.bears.watches .ubuntu false fun passed one seen meaning => ?_
  have untouchedOne := untouched.looked seen.looked
  rw [← seen.looked.store] at meaning
  refine wp_orDie untouchedOne.bears _ _ fun checked => ?_
  obtain ⟨image, usable⟩ := meaning.mp checked
  refine wp_requireSlotA untouchedOne.bears fun slot => ?_
  refine wp_computeLive untouchedOne.bears fun live two got looked known => ?_
  have untouchedTwo := untouchedOne.looked looked
  have storeOne : one.store = start.store := seen.looked.store.trans sameStore
  have bootOne : one.boot = start.boot := seen.looked.boot.trans sameBoot
  have storeTwo : two.store = start.store := looked.store.trans storeOne
  refine wp_liveIsSet untouchedTwo.bears.watches live .ubuntu fun already three further same _ => ?_
  have untouchedThree := untouchedTwo.looked further.looked
  have storeThree : three.store = start.store := further.looked.store.trans storeTwo
  have usableThree : Usable session.device three.store .ubuntu image := by
    rw [storeThree, ← storeOne]
    exact usable
  split
  · simp only [wp_bind]
    refine wp_say untouchedThree.bears.watches _ ?_
    exact wp_writeState untouchedThree.bears.watches (untouchedThree.caught 0)
  rename_i another
  simp only [wp_bind, overUbuntu]
  split
  · rename_i identified
    refine wp_say untouchedThree.bears.watches _ ?_
    refine wp_installing rfl aims untouchedThree (fun wet spared => ?_) usableThree
    exact behind_of_another toUbuntu (dry.symm.trans wet) slot storeOne bootOne untouchedOne known
      further storeThree usable identified (fun stored => another (same.mpr stored)) storeTwo spared
  · exact wp_keptAndroid rfl live aims untouchedThree usableThree fun four untouched usable behind =>
      wp_installing rfl aims untouched behind usable
  · exact wp_die untouchedThree.bears _

theorem wp_backToAndroid {session : Session} (same : session.device = device)
    (aims : command.back = some .ubuntu) (untouched : Untouched tablet) :
    wp (machine device) (Guarded options command start) (Caught options command start)
      (cmdToAndroid session)
      (fun ended after => Caught options command start (if ended then 0 else 1) after) tablet := by
  subst same
  simp only [cmdToAndroid, Prog.bind_eq, wp_bind]
  refine wp_checkSet untouched.bears.watches .android false fun android one seen meaning => ?_
  have untouched := untouched.looked seen.looked
  rw [← seen.looked.store] at meaning
  refine wp_orDie untouched.bears _ _ fun checked => ?_
  obtain ⟨image, usable⟩ := meaning.mp checked
  refine wp_checkSet untouched.bears.watches .ubuntu false fun ubuntu two seen meaning => ?_
  have untouched := untouched.looked seen.looked
  rw [← seen.looked.store] at usable meaning
  refine wp_orDie untouched.bears _ _ fun checked => ?_
  obtain ⟨back, usableBack⟩ := meaning.mp checked
  refine wp_requireSlotA untouched.bears fun _ => ?_
  refine wp_computeLive untouched.bears fun live three _ looked _ => ?_
  have untouched := untouched.looked looked
  rw [← looked.store] at usable usableBack
  refine wp_liveIsSet untouched.bears.watches live .android fun already four seen _ _ => ?_
  have untouched := untouched.looked seen.looked
  rw [← seen.looked.store] at usable usableBack
  split
  · simp only [wp_bind]
    refine wp_say untouched.bears.watches _ ?_
    exact wp_writeState untouched.bears.watches (untouched.caught 0)
  simp only [wp_bind]
  refine wp_orDie untouched.bears _ _ fun _ => ?_
  refine wp_orDie untouched.bears _ _ fun _ => ?_
  exact wp_installing rfl aims untouched (fun _ _ => ⟨back, .ubuntu, aims, usableBack⟩) usable

theorem wp_untouched {program : Script Bool} (only : program.Only (Op.Stores .android) Fails)
    (untouched : Untouched tablet) :
    wp (machine device) (Guarded options command start) (Caught options command start) program
      (fun ended after => Caught options command start (if ended then 0 else 1) after) tablet :=
  wp_of_only only (fun _ stores fault before untouched =>
      Untouched.stored untouched (stores.stored fault.1 before))
    (fun _ stores after _ => stores.guarded after) (fun status _ _ untouched => untouched.caught status)
    (fun _ _ untouched => untouched.caught _) untouched

theorem wp_backedStash {session : Session} (same : session.device = device)
    (untouched : Untouched tablet) :
    wp (machine device) (Guarded options command start) (Caught options command start)
      (cmdStash session)
      (fun ended after => Caught options command start (if ended then 0 else 1) after) tablet := by
  subst same
  simp only [cmdStash, Prog.bind_eq, wp_bind]
  refine wp_computeLive untouched.bears fun live one _ looked _ => ?_
  have untouched := untouched.looked looked
  refine wp_orDie untouched.bears _ _ fun _ => ?_
  refine wp_liveIsSet untouched.bears.watches live .android fun known two seen _ _ => ?_
  have untouched := untouched.looked seen.looked
  split
  · rw [wp_bind]
    exact wp_say untouched.bears.watches _ (untouched.caught 0)
  · exact wp_untouched (Prog.only_bind (only_stashLive session live) fun _ => trivial) untouched

theorem wp_backed (untouched : Untouched tablet) (sameStore : tablet.store = start.store)
    (sameBoot : tablet.boot = start.boot) :
    wp (machine device) (Guarded options command start) (Caught options command start)
      (body device options command) (fun _ _ => True) tablet := by
  simp only [body, Prog.bind_eq, wp_bind]
  refine wp_makeLock untouched.bears.watches fun free => ?_
  refine wp_orDie untouched.bears _ _ fun _ => ?_
  refine wp_flags (only_assign fun _ => rfl) untouched.suffers fun _ one held => ?_
  have untouched := untouched.held held
  refine wp_partBytes untouched.bears.watches fun sized => ?_
  refine wp_orDie untouched.bears _ _ fun _ => ?_
  refine wp_orDie untouched.bears _ _ fun _ => ?_
  refine wp_flags (only_openStore device options) untouched.suffers fun storeRo two further => ?_
  have untouched := untouched.held further
  have held := held.trans further
  have sameStore : two.store = start.store := held.store.trans sameStore
  have sameBoot : two.boot = start.boot := held.boot.trans sameBoot
  cases chosen : command with
  | status =>
      refine wp_cmdStatus ?_ untouched.bears fun _ three looked => ?_
      · rfl
      · exact (untouched.looked looked).caught _
  | verify =>
      refine wp_cmdVerify ?_ untouched.bears fun _ three looked => ?_
      · rfl
      · exact (untouched.looked looked).caught _
  | stashAndroid => exact wp_backedStash rfl untouched
  | importAndroid file => exact wp_untouched (only_cmdImportAndroid _ file) untouched
  | toUbuntu => exact wp_backToUbuntu rfl rfl rfl untouched sameStore sameBoot
  | toAndroid => exact wp_backToAndroid rfl rfl untouched

end WayBack

/-- In every run that is spared the exposed start, a set is behind the first
write; and when that write fails, no flag request does and the medium takes
the rollback, boot_a ends up with that set. -/
theorem way_back (device : Device) (options : Options) (command : Command)
    (tablet : Tablet device.size) :
    WayBack device options command tablet (Spared device options command tablet)
      (fun last => last.history.flagFailed = false) := by
  have whole : wp (machine device) (Guarded options command tablet) (Ended options command tablet)
      (main device options command) (fun _ _ => True) tablet.started := by
    rw [main, wp_onExit]
    exact wp_backed ⟨rfl, rfl, rfl⟩ rfl rfl
  constructor
  · intro data next now run spared unwritten
    exact wp_sound whole run ⟨data, rfl⟩ unwritten spared
  · intro status last run spared undisturbed injective forward accepted
    exact wp_sound whole run ⟨spared, undisturbed, injective, forward, accepted⟩

theorem anotherBuild_fits : (ubuntuImage [1]).length ≤ referenceDevice.size := by
  decide +kernel

/-- boot_a holds another Ubuntu build, and the store no Android set. -/
def exposedTablet : Tablet referenceDevice.size :=
  { referenceTablet (holding referenceDevice.size (ubuntuImage [1]) anotherBuild_fits) with
    store := fun place =>
      match place with
      | .live .ubuntu =>
          storedSet referenceDevice (padded referenceDevice.size (ubuntuImage []))
      | _ => none }

/-- to-ubuntu on the exposed tablet, stopped before its first write. -/
def exposedRun : Script Empty × Tablet referenceDevice.size :=
  play (machine referenceDevice) (faultless referenceDevice) 47
    (main referenceDevice referenceOptions .toUbuntu, exposedTablet.started)

theorem exposedRun_writes : isWriting exposedRun.1 = true ∧ exposedRun.2.history.writes = 0 ∧
    (exposedRun.2.store (.live .android)).isNone = true := by
  decide +kernel

theorem way_back_exposed :
    ¬WayBack referenceDevice referenceOptions .toUbuntu exposedTablet (fun _ => True)
      (fun _ => True) := by
  intro claimed
  obtain ⟨writing, unwritten, absent⟩ := exposedRun_writes
  obtain ⟨data, next, run⟩ := writes_of_play (faultless referenceDevice) 47 writing
  obtain ⟨image, back, aims, usable⟩ := claimed.before data next exposedRun.2 run trivial unwritten
  cases aims
  obtain ⟨sums, stored, _⟩ := usable.stored
  rw [stored] at absent
  cases absent

end Liuqin.Switch
