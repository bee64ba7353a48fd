/-
Every run of the stage-1 init script.

The rescue shell and stage 2 find every node read-only and no partition mounted,
whatever the calls came to, as long as the set of the nodes stays.  The handoff
finds the root that was looked at twice, and no other node writable.
-/

import Liuqin.Initramfs.Handoff
import Liuqin.Initramfs.Reference

namespace Liuqin.Initramfs

open Liuqin.Library Liuqin.Library.Program
open Liuqin.Slot (initSlot)

/-- Closed, unless the set of the nodes changed. -/
def Safe (disk : Name → Option Name) (tablet : Tablet) : Prop :=
  tablet.changes = 0 → Closed disk tablet

/-- What holds where a call is made. -/
def Watched (disk : Name → Option Name) (operation : Op) (tablet : Tablet) : Prop :=
  (operation = .telnetd ∨ operation = .stage2 → Safe disk tablet) ∧
    (operation = .switchRoot → HandsOver disk tablet)

section Boot

variable {disk : Name → Option Name} {exited : Nat → Tablet → Prop} {tablet after : Tablet}

theorem calm_watched : Calm (Watched disk) := by
  intro operation tablet harmless
  constructor
  · rintro (telnet | stage)
    · rw [telnet] at harmless
      cases harmless
    · rw [stage] at harmless
      cases harmless
  · intro switch
    rw [switch] at harmless
    cases harmless

theorem Safe.still (safe : Safe disk tablet) (still : Still tablet after) : Safe disk after := by
  intro unchanged
  have mono := still.changes
  have fixed : after.changes = tablet.changes := by omega
  have closed := safe (by omega)
  constructor
  · intro name node
    rw [still.entries fixed] at node
    rw [still.ro fixed]
    exact closed.ro name node
  · rw [still.probe, closed.probe]
  · rw [still.newroot, closed.newroot]

/-! ### The rescue shell -/

theorem wp_linkPartition {label : String} {target : Name} {returned : Bool → Tablet → Prop}
    (next : ∀ result after, Still tablet after → returned result after) :
    wp (machine disk) (Watched disk) exited (linkPartition label target) returned tablet := by
  unfold linkPartition
  rw [Prog.bind_eq, wp_bind]
  apply wp_isBlock calm_watched
  intro one quietOne
  split
  · exact next false one quietOne.toStill
  rw [Prog.bind_eq, wp_bind]
  apply wp_getro calm_watched
  intro ro two quietTwo _
  have untilTwo := quietOne.toStill.trans quietTwo.toStill
  split
  · apply wp_ask calm_watched rfl
    intro works three quietThree
    exact next works three (untilTwo.trans quietThree.toStill)
  · exact next false two untilTwo

theorem wp_linkPartitions {labels : List String} {returned : Bool → Tablet → Prop}
    (next : ∀ result after, Still tablet after → returned result after) :
    wp (machine disk) (Watched disk) exited (linkPartitions labels) returned tablet := by
  induction labels generalizing tablet with
  | nil => exact next true tablet (Still.refl tablet)
  | cons label rest ih =>
      have further : ∀ {one : Tablet}, Still tablet one →
          wp (machine disk) (Watched disk) exited (linkPartitions rest) returned one := by
        intro one still
        apply ih
        intro result after last
        exact next result after (still.trans last)
      unfold linkPartitions
      rw [Prog.bind_eq, wp_bind]
      apply wp_uevents calm_watched
      intro infos one stillOne _
      cases node : labelNode label none infos with
      | none => exact next false one stillOne
      | some target =>
          cases target with
          | none =>
              dsimp only
              split
              · exact further stillOne
              · exact next false one stillOne
          | some name =>
              dsimp only
              rw [Prog.bind_eq, wp_bind]
              apply wp_linkPartition
              intro linked two stillTwo
              split
              · exact further (stillOne.trans stillTwo)
              · exact next false two (stillOne.trans stillTwo)

theorem wp_telnetd (safe : Safe disk tablet) {returned : Unit → Tablet → Prop}
    (next : ∀ after, Still tablet after → returned () after) :
    wp (machine disk) (Watched disk) exited telnetd returned tablet := by
  apply wp_run
  · exact ⟨fun _ => safe, fun impossible => nomatch impossible⟩
  · exact fun _ change => next _ (quiet_shift tablet change).toStill

theorem wp_startTelnet {safe : Bool} (closed : safe = true → Safe disk tablet)
    {returned : Unit → Tablet → Prop} (next : ∀ after, Still tablet after → returned () after) :
    wp (machine disk) (Watched disk) exited (startTelnet safe) returned tablet := by
  unfold startTelnet
  split
  · exact next tablet (Still.refl tablet)
  rename_i good
  have closed := closed (Bool.not_eq_false _ ▸ good)
  rw [Prog.bind_eq, wp_bind]
  apply wp_ask calm_watched rfl
  intro installs one quietOne
  have closedOne := closed.still quietOne.toStill
  split
  · apply wp_telnetd closedOne
    exact fun two still => next two (quietOne.toStill.trans still)
  rw [Prog.bind_eq, wp_bind]
  apply wp_ask calm_watched rfl
  intro made two quietTwo
  have untilTwo := quietOne.toStill.trans quietTwo.toStill
  split
  · exact next two untilTwo
  rw [Prog.bind_eq, wp_bind]
  apply wp_linkPartitions
  intro linked three stillThree
  have untilThree := untilTwo.trans stillThree
  split
  · apply wp_telnetd (closed.still untilThree)
    exact fun four still => next four (untilThree.trans still)
  · exact next three untilThree

theorem wp_rescue {safe : Bool} (closed : safe = true → Safe disk tablet)
    {returned : Bool → Tablet → Prop}
    (next : ∀ result after, (result = true → Safe disk after) → returned result after) :
    wp (machine disk) (Watched disk) exited (rescue safe) returned tablet := by
  unfold rescue
  split
  · exact next false tablet fun impossible => nomatch impossible
  rename_i good
  have closed := closed (Bool.not_eq_false _ ▸ good)
  rw [Prog.bind_eq, wp_bind]
  apply wp_ask calm_watched rfl
  intro network one quietOne
  have closedOne := closed.still quietOne.toStill
  split
  · exact next true one fun _ => closedOne
  rw [Prog.bind_eq, wp_bind]
  apply wp_startTelnet fun _ => closedOne
  intro two still
  exact next true two fun _ => closedOne.still still

/-! ### The persistent boot -/

theorem wp_slotSuccess {returned : Bool → Tablet → Prop}
    (next : ∀ result after, Frame tablet after → returned result after) :
    wp (machine disk) (Watched disk) exited slotSuccess returned tablet := by
  unfold slotSuccess
  rw [Prog.bind_eq, wp_bind]
  apply wp_ask calm_watched rfl
  intro text one quietOne
  cases slot : initSlot text with
  | none => exact next false one quietOne.toFrame
  | some slot =>
      dsimp only
      rw [Prog.bind_eq, wp_bind]
      apply wp_flag calm_watched rfl
      intro already two frameTwo
      have untilTwo := quietOne.toFrame.trans frameTwo
      split
      · exact next true two untilTwo
      rw [Prog.bind_eq, wp_bind]
      apply wp_flag calm_watched rfl
      intro marked three frameThree
      have untilThree := untilTwo.trans frameThree
      split
      · exact next false three untilThree
      apply wp_flag calm_watched rfl
      intro checked four frameFour
      exact next checked four (untilThree.trans frameFour)

/-- What a rejected root leaves. -/
def Rejected (disk : Name → Option Name) (safe : Bool) (shell : Shell) (tablet : Tablet) : Prop :=
  safe = true → shell.fallbackSafe = true → Safe disk tablet

theorem wp_relock {safe : Bool} {shell : Shell} (rejected : Rejected disk safe shell tablet)
    {returned : Bool → Tablet → Prop}
    (next : ∀ result after, (result = true → Safe disk after) → returned result after) :
    wp (machine disk) (Watched disk) exited (relock safe shell) returned tablet := by
  unfold relock
  split
  · rename_i fallback
    rw [Prog.bind_eq, wp_bind]
    apply wp_lockAll calm_watched
    intro locked one frame sealed
    apply wp_rescue _ next
    intro both unchanged
    rw [Bool.and_eq_true] at both
    have mono := frame.changes
    have closed := rejected both.1 fallback (by omega)
    constructor
    · exact sealed both.2 (by omega)
    · rw [frame.probe, closed.probe]
    · rw [frame.newroot, closed.newroot]
  · apply wp_rescue _ next
    exact fun impossible => nomatch impossible

theorem wp_persistentBoot {image : Image} (panics : ∀ last, exited 1 last) (probe : tablet.probe = [])
    (newroot : tablet.newroot = []) {returned : Bool → Tablet → Prop}
    (next : ∀ result after, (result = true → Safe disk after) → returned result after) :
    wp (machine disk) (Watched disk) exited (persistentBoot image) returned tablet := by
  unfold persistentBoot
  rw [Prog.bind_eq, wp_bind]
  apply wp_preparePersistentRoot calm_watched ⟨⟨probe, rfl⟩, ⟨newroot, rfl⟩⟩
  intro passed shell one _ prepared rejected
  dsimp only
  split
  · rename_i failed
    exact wp_relock (fun _ fallback => rejected failed fallback) next
  rename_i good
  obtain ⟨prepared, owed⟩ := prepared (Bool.not_eq_false _ ▸ good)
  rw [Prog.bind_eq, wp_bind]
  apply wp_slotSuccess
  intro slotOk two frameTwo
  have owedTwo := owed.frame frameTwo ⟨rfl, rfl⟩
  split
  · rw [Prog.bind_eq, wp_bind]
    apply wp_abort calm_watched owedTwo
    rintro ⟨safe, other⟩ three _ _ closed
    exact wp_rescue closed next
  rw [Prog.bind_eq, wp_bind]
  apply wp_switchPersistentRoot calm_watched (prepared.frame frameTwo) owedTwo
  · intro last hands
    constructor
    · rintro (impossible | impossible)
      · cases impossible
      · cases impossible
    · exact fun _ => hands
  · exact panics
  · rintro ⟨safe, other⟩ three _ _ closed
    exact wp_relock (fun good _ => closed good) next

/-! ### The whole script -/

theorem wp_mdev {returned : Unit → Tablet → Prop}
    (next : ∀ after, after.probe = tablet.probe → after.newroot = tablet.newroot →
      returned () after) :
    wp (machine disk) (Watched disk) exited mdev returned tablet := by
  apply wp_step calm_watched rfl
  intro entries after quiet
  exact next after quiet.probe quiet.newroot

theorem wp_enumerate {found : Bool} {attempts : Nat} {returned : Bool → Tablet → Prop}
    (next : ∀ result after, after.probe = tablet.probe → after.newroot = tablet.newroot →
      returned result after) :
    wp (machine disk) (Watched disk) exited (enumerate found attempts) returned tablet := by
  induction attempts generalizing found tablet with
  | zero => exact next found tablet rfl rfl
  | succ attempts ih =>
      unfold enumerate
      rw [Prog.bind_eq, wp_bind]
      apply wp_mdev
      intro one probeOne newrootOne
      rw [Prog.bind_eq, wp_bind]
      apply wp_glob calm_watched
      intro two globbed
      rw [Prog.bind_eq, wp_bind]
      apply wp_sealNodes calm_watched
      intro result three frame _
      apply ih
      intro last after probe newroot
      apply next last after
      · rw [probe, frame.probe, globbed.probe, probeOne]
      · rw [newroot, frame.newroot, globbed.newroot, newrootOne]

theorem wp_finish {safe : Bool} (closed : safe = true → Safe disk tablet) :
    wp (machine disk) (Watched disk) (fun _ _ => True) (finish safe) (fun _ _ => False) tablet := by
  unfold finish
  split
  · rename_i good
    rw [Prog.bind_eq, wp_bind]
    apply wp_run
    · exact ⟨fun _ => closed good, fun impossible => nomatch impossible⟩
    · exact fun _ _ => trivial
  · trivial

theorem wp_main {image : Image} (probe : tablet.probe = []) (newroot : tablet.newroot = []) :
    wp (machine disk) (Watched disk) (fun _ _ => True) (main image) (fun _ _ => False) tablet := by
  unfold main
  rw [Prog.bind_eq, wp_bind]
  apply wp_mdev
  intro one probeOne newrootOne
  rw [Prog.bind_eq, wp_bind]
  apply wp_enumerate
  intro found two probeTwo newrootTwo
  have probeTwo : two.probe = [] := by rw [probeTwo, probeOne, probe]
  have newrootTwo : two.newroot = [] := by rw [newrootTwo, newrootOne, newroot]
  rw [Prog.bind_eq, wp_bind]
  have rest : ∀ (safe : Bool) (three : Tablet), three.probe = [] → three.newroot = [] →
      (safe = true → Safe disk three) →
      wp (machine disk) (Watched disk) (fun _ _ => True)
        (charger >>= fun charging =>
          if image.subroot = true ∧ charging = true then .exit 0
          else network image safe >>= fun _ =>
            if image.persistent = true ∧ safe = true then persistentBoot image >>= fun safe => finish safe
            else finish safe) (fun _ _ => False) three := by
    intro safe three probeThree newrootThree closed
    rw [Prog.bind_eq, wp_bind]
    apply wp_ask calm_watched rfl
    intro charging four quietFour
    split
    · trivial
    have closedFour := fun good => (closed good).still quietFour.toStill
    have goes : ∀ five, Still four five →
        wp (machine disk) (Watched disk) (fun _ _ => True)
          (if image.persistent = true ∧ safe = true then
            persistentBoot image >>= fun safe => finish safe else finish safe)
          (fun _ _ => False) five := by
      intro five stillFive
      split
      · rw [Prog.bind_eq, wp_bind]
        apply wp_persistentBoot fun _ => trivial
        · rw [stillFive.probe, quietFour.probe, probeThree]
        · rw [stillFive.newroot, quietFour.newroot, newrootThree]
        intro safe six closedSix
        exact wp_finish closedSix
      · exact wp_finish fun good => (closedFour good).still stillFive
    unfold network
    rw [Prog.bind_eq, wp_bind, Prog.bind_eq, wp_bind]
    apply wp_ask calm_watched rfl
    intro up five quietFive
    split
    · apply wp_startTelnet fun good => (closedFour good).still quietFive.toStill
      exact fun six still => goes six (quietFive.toStill.trans still)
    · exact goes five quietFive.toStill
  split
  · apply wp_lockAll calm_watched
    intro safe three frame sealed
    apply rest safe three
    · rw [frame.probe, probeTwo]
    · rw [frame.newroot, newrootTwo]
    · intro good unchanged
      have mono := frame.changes
      constructor
      · exact sealed good (by omega)
      · rw [frame.probe, probeTwo]
      · rw [frame.newroot, newrootTwo]
  · exact rest false two probeTwo newrootTwo fun impossible => nomatch impossible

end Boot

/-! ### Results -/

section Results

variable {disk : Name → Option Name} {image : Image} {entries : Entries} {own : Name → Bool}
  {operation : Op} {next : Reply operation → Script Empty} {last : Tablet}

theorem run_watched
    (run : Reaches (machine disk) (main image, Tablet.start entries own)
      (.act operation next, last)) : Watched disk operation last := by
  have holds : wp (machine disk) (Watched disk) (fun _ _ => True) (main image)
      (fun _ _ => False) (Tablet.start entries own) := wp_main rfl rfl
  exact wp_sound holds run

/-- Whenever the rescue shell is started or stage 2 entered, every sd* node is
read-only and no partition is mounted, unless nodes came or went after the last
mdev. -/
theorem rescue_closed
    (run : Reaches (machine disk) (main image, Tablet.start entries own)
      (.act operation next, last)) (opens : operation = .telnetd ∨ operation = .stage2)
    (unchanged : last.changes = 0) : Closed disk last :=
  (run_watched run).1 opens unchanged

theorem rescue_closed_reference : ∃ last : Tablet, Closed referenceDisk last := by
  obtain ⟨next, last, run, unchanged⟩ := reference_rescues
  exact ⟨last, rescue_closed run (Or.inl rfl) unchanged⟩

/-- At the handoff the root was chosen by name and label and checked on both
mounts; and unless nodes came or went after the last glob, they are those of the
snapshot, and exactly sda, the root and the opened home are writable. -/
theorem handoff_exact
    (run : Reaches (machine disk) (main image, Tablet.start entries own)
      (.act operation next, last)) (switches : operation = .switchRoot) :
    ∃ shell, Prepared shell last ∧ (last.changes = last.looked →
      Collected last .moved shell.snapshot ∧ parent ∈ shell.snapshot ∧
        shell.target ∈ shell.snapshot ∧
        ∀ name ∈ shell.snapshot, last.ro disk name = !shell.opens name) := by
  obtain ⟨shell, prepared, checked⟩ := (run_watched run).2 switches
  refine ⟨shell, prepared, ?_⟩
  intro unchanged
  have exact_ := checked unchanged
  have listed : ∀ {name : Name}, last.entry .moved name = some .node → name ∈ shell.snapshot := by
    intro name node
    rw [exact_.collected.all]
    rw [entry_here exact_.collected.here] at node
    exact mem_of_lookup node
  refine ⟨exact_.collected, listed exact_.pair.1, listed exact_.pair.2, ?_⟩
  intro name member
  cases opens : shell.opens name with
  | false => exact exact_.siblings name member opens
  | true =>
      rw [Shell.opens, Bool.or_eq_true, Bool.or_eq_true, beq_iff_eq, beq_iff_eq, beq_iff_eq] at opens
      rcases opens with (disk | target) | home
      · rw [disk]
        exact exact_.front
      · rw [target]
        exact exact_.target
      · exact exact_.home name home

theorem handoff_exact_reference : ∃ (shell : Shell) (last : Tablet), Prepared shell last ∧
    Collected last .moved shell.snapshot := by
  obtain ⟨next, last, run, unchanged⟩ := reference_switches
  obtain ⟨shell, prepared, checked⟩ := handoff_exact run rfl
  exact ⟨shell, last, prepared, (checked unchanged).1⟩

end Results

end Liuqin.Initramfs
