/-
Preparing the persistent root and handing over to it.

A preparation that succeeds has looked at the root twice, before the nodes were
opened and after the mount for writing; any other ends in a rejection.
-/

import Liuqin.Initramfs.Root

namespace Liuqin.Initramfs

open Liuqin.Library Liuqin.Library.Program

/-- Nothing is forgotten. -/
structure Later (before after : Tablet) : Prop where
  history : before.history <:+ after.history
  changes : before.changes ≤ after.changes

theorem Frame.later {before after : Tablet} (frame : Frame before after) : Later before after :=
  ⟨frame.history, frame.changes⟩

theorem Later.trans {first second third : Tablet} (one : Later first second)
    (two : Later second third) : Later first third :=
  ⟨one.history.trans two.history, Nat.le_trans one.changes two.changes⟩

theorem Later.refl (tablet : Tablet) : Later tablet tablet := ⟨List.suffix_rfl, Nat.le_refl _⟩

/-- What is mounted is owed an unmount. -/
structure Owed (shell : Shell) (tablet : Tablet) : Prop where
  probe : tablet.probe.length ≤ 1 ∧ (shell.probeMounted = false → tablet.probe = [])
  newroot : tablet.newroot.length ≤ 1 ∧ (shell.rootMounted = false → tablet.newroot = [])

/-- Nothing is mounted. -/
structure Fresh (shell : Shell) (tablet : Tablet) : Prop where
  probe : tablet.probe = [] ∧ shell.probeMounted = false
  newroot : tablet.newroot = [] ∧ shell.rootMounted = false

theorem Fresh.owed {shell : Shell} {tablet : Tablet} (fresh : Fresh shell tablet) :
    Owed shell tablet := by
  constructor
  · rw [fresh.probe.1]
    exact ⟨Nat.zero_le _, fun _ => rfl⟩
  · rw [fresh.newroot.1]
    exact ⟨Nat.zero_le _, fun _ => rfl⟩

theorem Fresh.frame {shell other : Shell} {tablet after : Tablet} (fresh : Fresh shell tablet)
    (frame : Frame tablet after) (same : SameMounts shell other) : Fresh other after := by
  constructor
  · rw [frame.probe, same.probe]
    exact fresh.probe
  · rw [frame.newroot, same.root]
    exact fresh.newroot

theorem Owed.frame {shell other : Shell} {tablet after : Tablet} (owed : Owed shell tablet)
    (frame : Frame tablet after) (same : SameMounts shell other) : Owed other after := by
  constructor
  · rw [frame.probe, same.probe]
    exact owed.probe
  · rw [frame.newroot, same.root]
    exact owed.newroot

/-- Every node is read-only, and no partition is mounted. -/
structure Closed (disk : Name → Option Name) (tablet : Tablet) : Prop where
  ro : AllRo disk tablet
  probe : tablet.probe = []
  newroot : tablet.newroot = []

/-- One more event on top of others. -/
theorem more_events {event : Event} {events history further : List Event}
    (before : events.Sublist history) (happened : event :: history <:+ further) :
    (event :: events).Sublist further :=
  (before.cons_cons event).trans happened.sublist

section Handoff

variable {disk : Name → Option Name} {during : Op → Tablet → Prop} {exited : Nat → Tablet → Prop}
  {tablet : Tablet} (calm : Calm during)
include calm

theorem wp_step {operation : Op} {returned : Reply operation → Tablet → Prop}
    (harmless : operation.guarded = false)
    (next : ∀ choice after, Quiet (react disk operation choice tablet).2 after →
      returned (react disk operation choice tablet).1 after) :
    wp (machine disk) during exited (run operation) returned tablet :=
  wp_run (calm _ _ harmless) fun choice change => next choice _ (quiet_shift _ change)

/-! ### A rejection -/

theorem wp_umount {place : Place} {returned : Bool → Tablet → Prop}
    (next : ∀ works after, Later tablet after →
      (∀ other, other ≠ place → after.mounts other = tablet.mounts other) →
      (after.mounts place = (tablet.mounts place).tail ∨
        works = false ∧ after.mounts place = tablet.mounts place) → returned works after) :
    wp (machine disk) during exited (umount place) returned tablet := by
  apply wp_step calm rfl
  rintro ⟨works, effect⟩ after quiet
  have mounts : ∀ other, after.mounts other =
      (react disk (.umount place) (works, effect) tablet).2.mounts other := by
    intro other
    cases other with
    | probe => exact quiet.probe
    | newroot => exact quiet.newroot
  have later : Later (react disk (.umount place) (works, effect) tablet).2 after :=
    quiet.toFrame.later
  apply next works after
  · apply Later.trans _ later
    show Later tablet (if _ then _ else _)
    split
    · cases place with
      | probe => exact ⟨List.suffix_rfl, Nat.le_refl _⟩
      | newroot => exact ⟨List.suffix_rfl, Nat.le_refl _⟩
    · exact Later.refl tablet
  · intro other differs
    rw [mounts other]
    show Tablet.mounts (if _ then _ else _) other = _
    split
    · cases place with
      | probe =>
          cases other with
          | probe => exact absurd rfl differs
          | newroot => rfl
      | newroot =>
          cases other with
          | probe => rfl
          | newroot => exact absurd rfl differs
    · rfl
  · rw [mounts place]
    show Tablet.mounts (if _ then _ else _) place = _ ∨ _ ∧ Tablet.mounts (if _ then _ else _) place = _
    split
    · left
      cases place with
      | probe => rfl
      | newroot => rfl
    · rename_i neither
      right
      cases works with
      | false => exact ⟨rfl, rfl⟩
      | true => exact absurd (Bool.true_or effect) neither

theorem wp_unmount {place : Place} {owed : Bool} {returned : Bool × Bool → Tablet → Prop}
    (short : (tablet.mounts place).length ≤ 1) (none_ : owed = false → tablet.mounts place = [])
    (next : ∀ result after, Later tablet after →
      (∀ other, other ≠ place → after.mounts other = tablet.mounts other) →
      (result.1 = true → after.mounts place = []) → returned result after) :
    wp (machine disk) during exited (unmount place owed) returned tablet := by
  unfold unmount
  split
  · rename_i free
    exact next _ tablet (Later.refl tablet) (fun _ _ => rfl) (fun _ => none_ free)
  · rw [Prog.bind_eq, wp_bind]
    apply wp_umount calm
    intro works after later others here
    apply next (works, !works) after later others
    intro done
    rcases here with gone | ⟨failed, _⟩
    · rw [gone]
      cases stack : tablet.mounts place with
      | nil => rfl
      | cons mount rest =>
          rw [stack, List.length_cons] at short
          have empty : rest = [] := List.eq_nil_of_length_eq_zero (by omega)
          exact empty
    · rw [failed] at done
      cases done

/-- A rejection that calls the tablet safe has closed it. -/
theorem wp_abort {shell : Shell} {returned : Bool × Shell → Tablet → Prop}
    (owed : Owed shell tablet)
    (next : ∀ result after, Later tablet after → result.2.fallbackSafe = result.1 →
      (result.1 = true → after.changes = 0 → Closed disk after) → returned result after) :
    wp (machine disk) during exited (abort shell) returned tablet := by
  unfold abort
  rw [Prog.bind_eq, wp_bind]
  apply wp_unmount calm (show (tablet.mounts .newroot).length ≤ 1 from owed.newroot.1)
    owed.newroot.2
  rintro ⟨first, rootMounted⟩ one laterOne othersOne goneOne
  have probeOne : one.probe = tablet.probe := othersOne .probe (by decide)
  dsimp only
  rw [Prog.bind_eq, wp_bind]
  apply wp_unmount calm
  · show one.probe.length ≤ 1
    rw [probeOne]
    exact owed.probe.1
  · intro free
    show one.probe = []
    rw [probeOne]
    exact owed.probe.2 free
  rintro ⟨second, probeMounted⟩ two laterTwo othersTwo goneTwo
  have newrootTwo : two.newroot = one.newroot := othersTwo .newroot (by decide)
  dsimp only
  rw [Prog.bind_eq, wp_bind]
  apply wp_lockAll calm
  intro locked three frameThree sealed
  rw [Prog.bind_eq, wp_bind]
  apply wp_snapshotAllRo calm
  intro same four still
  have frameFour := still.toFrame
  apply next _ four (((laterOne.trans laterTwo).trans frameThree.later).trans frameFour.later) rfl
  intro safe unchanged
  have parts : ((first = true ∧ second = true) ∧ locked = true) ∧ same = true := by
    rw [← Bool.and_eq_true, ← Bool.and_eq_true, ← Bool.and_eq_true]
    exact safe
  have low := frameThree.changes
  have high := frameFour.changes
  have fixed : four.changes = three.changes := by omega
  constructor
  · intro name node
    rw [still.entries fixed] at node
    rw [still.ro fixed]
    exact sealed parts.1.2 (by omega) name node
  · rw [frameFour.probe, frameThree.probe]
    exact goneTwo parts.1.1.2
  · rw [frameFour.newroot, frameThree.newroot, newrootTwo]
    exact goneOne parts.1.1.1

theorem wp_reject {shell : Shell} {returned : Bool × Shell → Tablet → Prop}
    (owed : Owed shell tablet)
    (next : ∀ other after, Later tablet after →
      (other.fallbackSafe = true → after.changes = 0 → Closed disk after) →
      returned (false, other) after) :
    wp (machine disk) during exited (reject shell) returned tablet := by
  unfold reject
  rw [Prog.bind_eq, wp_bind]
  apply wp_abort calm owed
  intro result after later same closed
  apply next _ after later
  rw [same]
  exact closed

/-! ### The read-only look -/

theorem wp_rootOk {place : Place} {returned : Bool → Tablet → Prop}
    (next : ∀ passes after, Frame tablet after →
      (passes = true → Event.checked (tablet.mounts place).head? :: tablet.history <:+ after.history) →
      returned passes after) :
    wp (machine disk) during exited (rootOk place) returned tablet := by
  apply wp_step calm rfl
  intro passes after quiet
  cases passes with
  | false => exact next false after quiet.toFrame fun impossible => nomatch impossible
  | true => exact next true after ((frame_saw tablet _).trans quiet.toFrame) fun _ => quiet.history

theorem wp_probeRoot {shell : Shell} {returned : Bool × Shell → Tablet → Prop}
    (fresh : Fresh shell tablet)
    (next : ∀ passed mounted after, Later tablet after →
      Owed { shell with probeMounted := mounted } after →
      (passed = true → Fresh { shell with probeMounted := mounted } after ∧
        Event.checked (some { source := shell.target, writable := false }) :: tablet.history <:+
          after.history) → returned (passed, { shell with probeMounted := mounted }) after) :
    wp (machine disk) during exited (probeRoot shell) returned tablet := by
  have unmounted : ({ shell with probeMounted := false } : Shell) = shell := by
    rw [← fresh.probe.2]
  unfold probeRoot
  rw [Prog.bind_eq, wp_bind]
  apply wp_step calm rfl
  intro mounted one quietOne
  cases mounted with
  | false =>
      have last := next false false one quietOne.toFrame.later
      rw [unmounted] at last
      exact last (fresh.owed.frame quietOne.toFrame ⟨rfl, rfl⟩) fun impossible => nomatch impossible
  | true =>
      have probeOne : one.probe = [{ source := shell.target, writable := false }] := by
        rw [quietOne.probe]
        show _ :: tablet.probe = _
        rw [fresh.probe.1]
      have newrootOne : one.newroot = [] := by
        rw [quietOne.newroot]
        exact fresh.newroot.1
      have laterOne : Later tablet one := ⟨quietOne.history, quietOne.changes⟩
      have historyOne : one.history = tablet.history := quietOne.saw
      have owedOne : Owed { shell with probeMounted := true } one := by
        constructor
        · rw [probeOne]
          exact ⟨Nat.le_refl _, fun impossible => nomatch impossible⟩
        · rw [newrootOne]
          exact ⟨Nat.zero_le _, fun _ => rfl⟩
      show wp _ _ _ (Prog.bind _ _) _ _
      rw [wp_bind]
      apply wp_rootOk calm
      intro passes two frameTwo looked
      have owedTwo : Owed { shell with probeMounted := true } two :=
        owedOne.frame frameTwo ⟨rfl, rfl⟩
      cases passes with
      | false =>
          exact next false true two (laterOne.trans frameTwo.later) owedTwo
            fun impossible => nomatch impossible
      | true =>
          have checked := looked rfl
          rw [show one.mounts .probe = one.probe from rfl, probeOne, historyOne] at checked
          show wp _ _ _ (Prog.bind _ _) _ _
          rw [wp_bind]
          apply wp_umount calm
          intro works three laterThree others here
          have newrootThree : three.newroot = [] := by
            have same : three.newroot = two.newroot := others .newroot (by decide)
            rw [same, frameTwo.newroot, newrootOne]
          have probeTwo : two.mounts .probe = [{ source := shell.target, writable := false }] :=
            frameTwo.probe.trans probeOne
          have stack : three.probe.length ≤ 1 ∧ (works = true → three.probe = []) := by
            rw [probeTwo] at here
            rcases here with gone | ⟨failed, kept⟩
            · have empty : three.probe = [] := gone
              rw [empty]
              exact ⟨Nat.zero_le _, fun _ => rfl⟩
            · have full : three.probe = [{ source := shell.target, writable := false }] := kept
              rw [full, failed]
              exact ⟨Nat.le_refl _, fun impossible => nomatch impossible⟩
          apply next works (!works) three ((laterOne.trans frameTwo.later).trans laterThree)
          · constructor
            · refine ⟨stack.1, ?_⟩
              intro free
              exact stack.2 (Bool.not_eq_false' _ ▸ free)
            · rw [newrootThree]
              exact ⟨Nat.zero_le _, fun _ => rfl⟩
          · intro done
            constructor
            · constructor
              · exact ⟨stack.2 done, by rw [done]; rfl⟩
              · exact ⟨newrootThree, fresh.newroot.2⟩
            · exact checked.trans laterThree.history

/-! ### The snapshot and the flags -/

/-- Where the snapshot comes from. -/
structure Snapped (before after : List Event) (shell : Shell) : Prop where
  saw : ∃ names, Event.globbed names :: before <:+ after ∧ shell.snapshot.Sublist names
  home : ∀ home, shell.home = some home → home ∈ shell.snapshot

theorem wp_snapshotSdNodes {shell : Shell} {returned : Bool × Shell → Tablet → Prop}
    (next : ∀ result after, Frame tablet after → SameMounts shell result.2 →
      result.2.target = shell.target →
      (result.1 = true → Snapped tablet.history after.history result.2 ∧
        ∀ history, Rooted shell history → Rooted result.2 history) → returned result after) :
    wp (machine disk) during exited (snapshotSdNodes shell) returned tablet := by
  unfold snapshotSdNodes
  rw [Prog.bind_eq, wp_bind]
  apply wp_collect calm
  intro nodes one still _ found
  have frame := still.toFrame
  cases nodes with
  | none => exact next _ one frame ⟨rfl, rfl⟩ rfl fun impossible => nomatch impossible
  | some nodes =>
      dsimp only
      split
      · apply next _ one frame ⟨rfl, rfl⟩ rfl
        intro _
        obtain ⟨names, history, sublist⟩ := (found nodes rfl).saw
        constructor
        · constructor
          · exact ⟨names, by rw [history], sublist⟩
          · intro home here
            exact of_decide_eq_true (Option.filter_eq_some_iff.mp here).2
        · intro history rooted
          constructor
          · exact rooted.chosen
          · exact rooted.labelled
          · intro home here
            exact rooted.home home (Option.filter_eq_some_iff.mp here).1
      · exact next _ one frame ⟨rfl, rfl⟩ rfl fun impossible => nomatch impossible

theorem wp_setrw {name : Name} {returned : Bool → Tablet → Prop}
    (next : ∀ works after, Frame tablet after → Event.opened name :: tablet.history <:+ after.history →
      returned works after) :
    wp (machine disk) during exited (setrw name) returned tablet := by
  apply wp_step calm rfl
  intro outcome after quiet
  have frame := frame_setFlag tablet .dev name false outcome
  have history : (tablet.setFlag .dev name false outcome).2.history = tablet.history := by
    unfold Tablet.setFlag
    cases tablet.device .dev name with
    | none => rfl
    | some device =>
        dsimp only
        split
        · rfl
        · rfl
  apply next _ after ((frame.trans (frame_saw _ _)).trans quiet.toFrame)
  rw [← history]
  exact quiet.history

theorem wp_openHome {shell : Shell} {returned : Shell → Tablet → Prop}
    (next : ∀ home after, Frame tablet after → (home = shell.home ∨ home = none) →
      returned { shell with home := home } after) :
    wp (machine disk) during exited (openHome shell) returned tablet := by
  unfold openHome
  cases home : shell.home with
  | none =>
      have last := next shell.home tablet (Frame.refl tablet) (Or.inl rfl)
      exact last
  | some name =>
      dsimp only
      rw [Prog.bind_eq, wp_bind]
      apply wp_setrw calm
      intro works one frame _
      show returned (if _ then _ else _) one
      split
      · exact next shell.home one frame (Or.inl rfl)
      · exact next none one frame (Or.inr rfl)

theorem wp_openNodes {shell : Shell} {returned : Bool × Shell → Tablet → Prop}
    (next : ∀ passed home after, Frame tablet after → (home = shell.home ∨ home = none) →
      (passed = true → (Event.opened shell.target :: Event.opened parent :: tablet.history).Sublist
        after.history) → returned (passed, { shell with home := home }) after) :
    wp (machine disk) during exited (openNodes shell) returned tablet := by
  unfold openNodes
  rw [Prog.bind_eq, wp_bind]
  apply wp_setrw calm
  intro first one frameOne openedOne
  split
  · exact next false shell.home one frameOne (Or.inl rfl) fun impossible => nomatch impossible
  rw [Prog.bind_eq, wp_bind]
  apply wp_setrw calm
  intro second two frameTwo openedTwo
  have untilTwo := frameOne.trans frameTwo
  split
  · exact next false shell.home two untilTwo (Or.inl rfl) fun impossible => nomatch impossible
  rw [Prog.bind_eq, wp_bind]
  apply wp_openHome calm
  intro home three frameThree homeSame
  rw [Prog.bind_eq, wp_bind]
  apply wp_glob calm
  intro four globbed
  rw [Prog.bind_eq, wp_bind]
  apply wp_sealSiblings calm
  intro siblings five frameFive
  have further := (frameThree.trans globbed.toFrame).trans frameFive
  have untilFive := untilTwo.trans further
  split
  · exact next false home five untilFive homeSame fun impossible => nomatch impossible
  rw [Prog.bind_eq, wp_bind]
  apply wp_snapshotPersistentOk calm
  intro passed six frameSix _
  apply next passed home six (untilFive.trans frameSix) homeSame
  intro _
  have order : (Event.opened shell.target :: Event.opened parent :: tablet.history).Sublist
      two.history := more_events openedOne.sublist openedTwo
  exact order.trans (further.trans frameSix).history.sublist

/-! ### The mount for writing -/

theorem wp_mountRoot {subroot : Bool} {shell : Shell} {returned : Bool × Shell → Tablet → Prop}
    (fresh : Fresh shell tablet)
    (next : ∀ passed probe root after, Later tablet after →
      Owed { shell with probeMounted := probe, rootMounted := root } after →
      (passed = true → after.probe = [] ∧
        after.newroot = [{ source := shell.target, writable := true }]) →
      returned (passed, { shell with probeMounted := probe, rootMounted := root }) after) :
    wp (machine disk) during exited (mountRoot subroot shell) returned tablet := by
  unfold mountRoot
  have same : ∀ (root : Bool), ({ shell with probeMounted := false, rootMounted := root } : Shell) =
      { shell with rootMounted := root } := by
    intro root
    rw [← fresh.probe.2]
  split
  · rw [Prog.bind_eq, wp_bind]
    apply wp_step calm rfl
    intro works one quiet
    have probe : one.probe = [] := by
      rw [quiet.probe]
      cases works with
      | false => exact fresh.probe.1
      | true => exact fresh.probe.1
    have last := next works false works one
    rw [same works] at last
    cases works with
    | false =>
        have newroot : one.newroot = [] := quiet.newroot.trans fresh.newroot.1
        apply last quiet.toFrame.later
        · constructor
          · rw [probe]
            exact ⟨Nat.zero_le _, fun _ => rfl⟩
          · rw [newroot]
            exact ⟨Nat.zero_le _, fun _ => rfl⟩
        · exact fun impossible => nomatch impossible
    | true =>
        have newroot : one.newroot = [{ source := shell.target, writable := true }] := by
          rw [quiet.newroot]
          show _ :: tablet.newroot = _
          rw [fresh.newroot.1]
        apply last ⟨quiet.history, quiet.changes⟩
        · constructor
          · rw [probe]
            exact ⟨Nat.zero_le _, fun _ => rfl⟩
          · rw [newroot]
            exact ⟨Nat.le_refl _, fun impossible => nomatch impossible⟩
        · exact fun _ => ⟨probe, newroot⟩
  · rw [Prog.bind_eq, wp_bind]
    apply wp_step calm rfl
    intro works one quiet
    cases works with
    | false =>
        have last := next false shell.probeMounted shell.rootMounted one quiet.toFrame.later
        exact last (fresh.owed.frame quiet.toFrame ⟨rfl, rfl⟩) fun impossible => nomatch impossible
    | true =>
        have probeOne : one.probe = [{ source := shell.target, writable := true }] := by
          rw [quiet.probe]
          show _ :: tablet.probe = _
          rw [fresh.probe.1]
        have newrootOne : one.newroot = [] := by
          rw [quiet.newroot]
          exact fresh.newroot.1
        have laterOne : Later tablet one := ⟨quiet.history, quiet.changes⟩
        show wp _ _ _ (Prog.bind _ _) _ _
        rw [wp_bind]
        apply wp_step calm rfl
        intro bound two quietTwo
        cases bound with
        | false =>
            have probeTwo : two.probe = one.probe := quietTwo.probe
            have newrootTwo : two.newroot = one.newroot := quietTwo.newroot
            apply next false true shell.rootMounted two
            · exact laterOne.trans ⟨quietTwo.history, quietTwo.changes⟩
            · constructor
              · rw [probeTwo, probeOne]
                exact ⟨Nat.le_refl _, fun impossible => nomatch impossible⟩
              · rw [newrootTwo, newrootOne]
                exact ⟨Nat.zero_le _, fun _ => rfl⟩
            · exact fun impossible => nomatch impossible
        | true =>
            have probeTwo : two.probe = [{ source := shell.target, writable := true }] := by
              rw [quietTwo.probe]
              exact probeOne
            have newrootTwo : two.newroot = [{ source := shell.target, writable := true }] := by
              rw [quietTwo.newroot]
              show one.probe.take 1 ++ one.newroot = _
              rw [probeOne, newrootOne]
              rfl
            have laterTwo : Later tablet two :=
              laterOne.trans ⟨quietTwo.history, quietTwo.changes⟩
            show wp _ _ _ (Prog.bind _ _) _ _
            rw [wp_bind]
            apply wp_umount calm
            intro detached three laterThree others here
            have newroot : three.newroot = [{ source := shell.target, writable := true }] := by
              have same : three.newroot = two.newroot := others .newroot (by decide)
              rw [same, newrootTwo]
            rw [show two.mounts .probe = two.probe from rfl, probeTwo] at here
            have stack : three.probe.length ≤ 1 ∧ (detached = true → three.probe = []) := by
              rcases here with gone | ⟨failed, kept⟩
              · have empty : three.probe = [] := gone
                rw [empty]
                exact ⟨Nat.zero_le _, fun _ => rfl⟩
              · have full : three.probe = [{ source := shell.target, writable := true }] := kept
                rw [full, failed]
                exact ⟨Nat.le_refl _, fun impossible => nomatch impossible⟩
            apply next detached (!detached) true three (laterTwo.trans laterThree)
            · constructor
              · exact ⟨stack.1, fun free => stack.2 (Bool.not_eq_false' _ ▸ free)⟩
              · rw [newroot]
                exact ⟨Nat.le_refl _, fun impossible => nomatch impossible⟩
            · exact fun done => ⟨stack.2 done, newroot⟩

theorem wp_checkRoot {shell : Shell} {returned : Bool → Tablet → Prop}
    (next : ∀ passed after, Frame tablet after →
      (passed = true → Event.checked tablet.newroot.head? :: tablet.history <:+ after.history) →
      returned passed after) :
    wp (machine disk) during exited (checkRoot shell) returned tablet := by
  unfold checkRoot
  rw [Prog.bind_eq, wp_bind]
  apply wp_rootOk calm
  intro passes one frameOne checked
  split
  · exact next false one frameOne fun impossible => nomatch impossible
  rename_i good
  apply wp_snapshotPersistentOk calm
  intro passed two frameTwo _
  apply next passed two (frameOne.trans frameTwo)
  exact fun _ => (checked (Bool.not_eq_false _ ▸ good)).trans frameTwo.history

/-! ### The whole preparation -/

omit calm

/-- How the root came to be mounted for writing. -/
structure Prepared (shell : Shell) (tablet : Tablet) : Prop where
  rooted : Rooted shell tablet.history
  /-- Its label was found, its contract holds on the read-only mount, the nodes
  were listed, sda and the partition opened, and the contract holds again. -/
  order : ∃ names, shell.snapshot.Sublist names ∧
    [Event.checked (some { source := shell.target, writable := true }), .opened shell.target,
      .opened parent, .globbed names, .checked (some { source := shell.target, writable := false }),
      .found .root shell.target].Sublist tablet.history
  home : ∀ home, shell.home = some home → home ∈ shell.snapshot
  probe : tablet.probe = []
  newroot : tablet.newroot = [{ source := shell.target, writable := true }]

theorem Prepared.later {shell : Shell} {after : Tablet} (prepared : Prepared shell tablet)
    (later : Later tablet after) (probe : after.probe = tablet.probe)
    (newroot : after.newroot = tablet.newroot) : Prepared shell after := by
  obtain ⟨names, sublist, order⟩ := prepared.order
  constructor
  · exact prepared.rooted.later later.history
  · exact ⟨names, sublist, order.trans later.history.sublist⟩
  · exact prepared.home
  · rw [probe, prepared.probe]
  · rw [newroot, prepared.newroot]

theorem Prepared.frame {shell : Shell} {after : Tablet} (prepared : Prepared shell tablet)
    (frame : Frame tablet after) : Prepared shell after :=
  prepared.later frame.later frame.probe frame.newroot

include calm

theorem wp_preparePersistentRoot {subroot : Bool} {shell : Shell}
    {returned : Bool × Shell → Tablet → Prop} (fresh : Fresh shell tablet)
    (next : ∀ passed other after, Later tablet after →
      (passed = true → Prepared other after ∧ Owed other after) →
      (passed = false → other.fallbackSafe = true → after.changes = 0 → Closed disk after) →
      returned (passed, other) after) :
    wp (machine disk) during exited (preparePersistentRoot subroot shell) returned tablet := by
  have rejects : ∀ {now : Shell} {after : Tablet}, Later tablet after → Owed now after →
      wp (machine disk) during exited (reject now) returned after := by
    intro now after later owed
    apply wp_reject calm owed
    intro other last further closed
    exact next false other last (later.trans further) (fun impossible => nomatch impossible)
      fun _ => closed
  unfold preparePersistentRoot
  rw [Prog.bind_eq, wp_bind]
  apply wp_identityOk calm
  rintro ⟨identified, known⟩ one frameOne same rooted
  have freshOne := fresh.frame frameOne same
  dsimp only
  split
  · exact rejects frameOne.later freshOne.owed
  rename_i good
  have rootedOne := rooted (Bool.not_eq_false _ ▸ good)
  rw [Prog.bind_eq, wp_bind]
  apply wp_probeRoot calm freshOne
  intro probed mounted two laterTwo owedTwo looked
  have untilTwo := frameOne.later.trans laterTwo
  dsimp only
  split
  · exact rejects untilTwo owedTwo
  rename_i probing
  obtain ⟨freshTwo, checked⟩ := looked (Bool.not_eq_false _ ▸ probing)
  rw [Prog.bind_eq, wp_bind]
  apply wp_snapshotSdNodes calm
  rintro ⟨taken, listed⟩ three frameThree sameThree target snapshot
  have untilThree := untilTwo.trans frameThree.later
  have freshThree := freshTwo.frame frameThree sameThree
  dsimp only
  split
  · exact rejects untilThree freshThree.owed
  rename_i snapping
  obtain ⟨snapped, keeps⟩ := snapshot (Bool.not_eq_false _ ▸ snapping)
  rw [Prog.bind_eq, wp_bind]
  apply wp_openNodes calm
  intro opened home four frameFour homeSame order
  have untilFour := untilThree.trans frameFour.later
  have freshFour : Fresh { listed with home := home } four := freshThree.frame frameFour ⟨rfl, rfl⟩
  dsimp only
  split
  · exact rejects untilFour freshFour.owed
  rename_i opening
  rw [Prog.bind_eq, wp_bind]
  apply wp_mountRoot calm freshFour
  intro mounts probe root five laterFive owedFive piles
  have untilFive := untilFour.trans laterFive
  dsimp only
  split
  · exact rejects untilFive owedFive
  rename_i mounting
  obtain ⟨probeFive, newrootFive⟩ := piles (Bool.not_eq_false _ ▸ mounting)
  rw [Prog.bind_eq, wp_bind]
  apply wp_checkRoot calm
  intro checks six frameSix again
  have untilSix := untilFive.trans frameSix.later
  have owedSix := owedFive.frame frameSix ⟨rfl, rfl⟩
  split
  · exact rejects untilSix owedSix
  rename_i checking
  apply next _ _ six untilSix
  · intro _
    refine ⟨?_, owedSix⟩
    obtain ⟨names, listing, sublist⟩ := snapped.saw
    change listed.target = known.target at target
    have knownRooted : Rooted { known with probeMounted := mounted } one.history :=
      ⟨rootedOne.chosen, rootedOne.labelled, rootedOne.home⟩
    have listedRooted := keeps one.history knownRooted
    have until_ : one.history <:+ six.history :=
      (((laterTwo.trans frameThree.later).trans frameFour.later).trans laterFive).history.trans
        frameSix.history
    have homes : ∀ name, home = some name → listed.home = some name := by
      intro name here
      rcases homeSame with same | none_
      · rw [← same]
        exact here
      · rw [none_] at here
        cases here
    constructor
    · constructor
      · exact (listedRooted.later until_).chosen
      · exact (listedRooted.later until_).labelled
      · exact fun name here => (listedRooted.later until_).home name (homes name here)
    · refine ⟨names, sublist, ?_⟩
      show (Event.checked (some { source := listed.target, writable := true }) ::
        Event.opened listed.target :: _).Sublist six.history
      rw [newrootFive] at again
      have found : [Event.found .root known.target].Sublist one.history :=
        List.singleton_sublist.mpr rootedOne.labelled
      have probes := more_events found checked
      have lists := more_events probes listing
      rw [← target] at lists
      have opens := ((lists.cons_cons _).cons_cons _).trans (order (Bool.not_eq_false _ ▸ opening))
      exact more_events (opens.trans laterFive.history.sublist)
        (again (Bool.not_eq_false _ ▸ checking))
    · exact fun name here => snapped.home name (homes name here)
    · rw [frameSix.probe, probeFive]
    · rw [frameSix.newroot, newrootFive]
  · exact fun impossible => nomatch impossible

/-! ### Switching -/

theorem wp_move {fs : KernelFs} {back : Bool} {returned : Bool → Tablet → Prop}
    (next : ∀ works after, Later tablet after → after.probe = tablet.probe →
      after.newroot = tablet.newroot → returned works after) :
    wp (machine disk) during exited (move fs back) returned tablet := by
  apply wp_step calm rfl
  intro works after quiet
  have moved : (react disk (.move fs back) works tablet).2.history = tablet.history ∧
      (react disk (.move fs back) works tablet).2.changes = tablet.changes ∧
      (react disk (.move fs back) works tablet).2.probe = tablet.probe ∧
      (react disk (.move fs back) works tablet).2.newroot = tablet.newroot := by
    show (bif works && fs == .dev then _ else tablet).history = _ ∧
      (bif works && fs == .dev then _ else tablet).changes = _ ∧
      (bif works && fs == .dev then _ else tablet).probe = _ ∧
      (bif works && fs == .dev then _ else tablet).newroot = _
    cases works && fs == .dev with
    | false => exact ⟨rfl, rfl, rfl, rfl⟩
    | true => exact ⟨rfl, rfl, rfl, rfl⟩
  obtain ⟨history, changes, probe, newroot⟩ := moved
  apply next works after
  · constructor
    · rw [← history]
      exact quiet.history
    · rw [← changes]
      exact quiet.changes
  · rw [quiet.probe, probe]
  · rw [quiet.newroot, newroot]

theorem wp_moveAll {moved names : List KernelFs} {returned : List KernelFs × Bool → Tablet → Prop}
    (next : ∀ result after, Later tablet after → after.probe = tablet.probe →
      after.newroot = tablet.newroot → returned result after) :
    wp (machine disk) during exited (moveAll moved names) returned tablet := by
  induction names generalizing moved tablet with
  | nil => exact next _ tablet (Later.refl tablet) rfl rfl
  | cons fs rest ih =>
      unfold moveAll
      rw [Prog.bind_eq, wp_bind]
      apply wp_move calm
      intro works one later probe newroot
      split
      · apply ih
        intro result after further probeAfter newrootAfter
        exact next result after (later.trans further) (probeAfter.trans probe)
          (newrootAfter.trans newroot)
      · exact next _ one later probe newroot

theorem wp_moveBack {names : List KernelFs} {returned : Unit → Tablet → Prop}
    (next : ∀ after, Later tablet after → after.probe = tablet.probe →
      after.newroot = tablet.newroot → returned () after) :
    wp (machine disk) during exited (moveBack names) returned tablet := by
  induction names generalizing tablet with
  | nil => exact next tablet (Later.refl tablet) rfl rfl
  | cons fs rest ih =>
      unfold moveBack
      rw [Prog.bind_eq, wp_bind]
      apply wp_move calm
      intro works one later probe newroot
      apply ih
      intro after further probeAfter newrootAfter
      exact next after (later.trans further) (probeAfter.trans probe) (newrootAfter.trans newroot)

omit calm

theorem Owed.same {shell : Shell} {after : Tablet} (owed : Owed shell tablet)
    (probe : after.probe = tablet.probe) (newroot : after.newroot = tablet.newroot) :
    Owed shell after := by
  constructor
  · rw [probe]
    exact owed.probe
  · rw [newroot]
    exact owed.newroot

/-- The handoff is allowed to go on. -/
def HandsOver (disk : Name → Option Name) (tablet : Tablet) : Prop :=
  ∃ shell, Prepared shell tablet ∧
    (tablet.changes = tablet.looked → Exact disk shell tablet .moved)

include calm

theorem wp_switchPersistentRoot {shell : Shell} {returned : Bool × Shell → Tablet → Prop}
    (prepared : Prepared shell tablet) (owed : Owed shell tablet)
    (hands : ∀ last, HandsOver disk last → during .switchRoot last)
    (panics : ∀ last, exited 1 last)
    (next : ∀ result after, Later tablet after → result.2.fallbackSafe = result.1 →
      (result.1 = true → after.changes = 0 → Closed disk after) → returned result after) :
    wp (machine disk) during exited (switchPersistentRoot shell) returned tablet := by
  have aborts : ∀ {after : Tablet}, Later tablet after → Owed shell after →
      wp (machine disk) during exited (abort shell) returned after := by
    intro after later owed
    apply wp_abort calm owed
    intro result last further
    exact next result last (later.trans further)
  unfold switchPersistentRoot
  rw [Prog.bind_eq, wp_bind]
  apply wp_snapshotPersistentOk calm
  intro ok one frameOne _
  have owedOne := owed.frame frameOne ⟨rfl, rfl⟩
  split
  · exact aborts frameOne.later owedOne
  have preparedOne := prepared.frame frameOne
  rw [Prog.bind_eq, wp_bind]
  apply wp_moveAll calm
  rintro ⟨moved, failed⟩ two laterTwo probeTwo newrootTwo
  have untilTwo := frameOne.later.trans laterTwo
  have owedTwo := owedOne.same probeTwo newrootTwo
  dsimp only
  split
  · rw [Prog.bind_eq, wp_bind]
    apply wp_moveBack calm
    intro three laterThree probeThree newrootThree
    exact aborts (untilTwo.trans laterThree) (owedTwo.same probeThree newrootThree)
  have preparedTwo := preparedOne.later laterTwo probeTwo newrootTwo
  rw [Prog.bind_eq, wp_bind]
  apply wp_ask calm rfl
  intro _ three quietThree
  have untilThree := untilTwo.trans quietThree.toFrame.later
  have owedThree := owedTwo.frame quietThree.toFrame ⟨rfl, rfl⟩
  have preparedThree := preparedTwo.frame quietThree.toFrame
  rw [Prog.bind_eq, wp_bind]
  apply wp_snapshotPersistentOk calm
  intro ok four frameFour exact_
  have untilFour := untilThree.trans frameFour.later
  have owedFour := owedThree.frame frameFour ⟨rfl, rfl⟩
  split
  · rw [Prog.bind_eq, wp_bind]
    apply wp_moveBack calm
    intro five laterFive probeFive newrootFive
    exact aborts (untilFour.trans laterFive) (owedFour.same probeFive newrootFive)
  rename_i good
  rw [Prog.bind_eq, wp_bind]
  constructor
  · apply hands
    exact ⟨shell, preparedThree.frame frameFour, exact_ (Bool.not_eq_false _ ▸ good)⟩
  · exact fun _ => panics _

end Handoff

end Liuqin.Initramfs
