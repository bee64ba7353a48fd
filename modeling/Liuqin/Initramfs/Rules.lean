/-
What the calls and the loops of the storage functions come to.

An answer is true of the tablet it was asked on, and of a later one as long as the
set of the nodes has not changed in between.
-/

import Liuqin.Initramfs.Flow

namespace Liuqin.Initramfs

open Liuqin.Library Liuqin.Library.Program

/-! ### Frames -/

/-- The mounts stay, and nothing is forgotten. -/
structure Frame (before after : Tablet) : Prop where
  probe : after.probe = before.probe
  newroot : after.newroot = before.newroot
  moved : after.moved = before.moved
  history : before.history <:+ after.history
  changes : before.changes ≤ after.changes

/-- Besides, the nodes and their flags stay as long as their set does. -/
structure Still (before after : Tablet) : Prop extends Frame before after where
  entries : after.changes = before.changes → after.entries = before.entries
  own : after.changes = before.changes → after.own = before.own

/-- And nothing was learned. -/
structure Quiet (before after : Tablet) : Prop extends Still before after where
  saw : after.history = before.history
  looked : after.looked = before.looked

section Frames

variable {first second third before after : Tablet}

theorem Frame.refl (tablet : Tablet) : Frame tablet tablet :=
  ⟨rfl, rfl, rfl, List.suffix_rfl, Nat.le_refl _⟩

theorem Frame.trans (one : Frame first second) (two : Frame second third) : Frame first third :=
  ⟨two.probe.trans one.probe, two.newroot.trans one.newroot, two.moved.trans one.moved,
    one.history.trans two.history, Nat.le_trans one.changes two.changes⟩

/-- Where nothing changed over two steps, nothing changed in either. -/
theorem Frame.between (one : Frame first second) (two : Frame second third)
    (same : third.changes = first.changes) :
    second.changes = first.changes ∧ third.changes = second.changes := by
  have low := one.changes
  have high := two.changes
  omega

theorem Still.refl (tablet : Tablet) : Still tablet tablet :=
  ⟨Frame.refl tablet, fun _ => rfl, fun _ => rfl⟩

theorem Still.trans (one : Still first second) (two : Still second third) : Still first third := by
  constructor
  · exact one.toFrame.trans two.toFrame
  · intro same
    obtain ⟨left, right⟩ := one.toFrame.between two.toFrame same
    exact (two.entries right).trans (one.entries left)
  · intro same
    obtain ⟨left, right⟩ := one.toFrame.between two.toFrame same
    exact (two.own right).trans (one.own left)

theorem Quiet.refl (tablet : Tablet) : Quiet tablet tablet := ⟨Still.refl tablet, rfl, rfl⟩

theorem Quiet.trans (one : Quiet first second) (two : Quiet second third) : Quiet first third :=
  ⟨one.toStill.trans two.toStill, two.saw.trans one.saw, two.looked.trans one.looked⟩

theorem quiet_shift (tablet : Tablet) (change : Option Change) :
    Quiet tablet (tablet.shift change) := by
  cases change with
  | none => exact Quiet.refl tablet
  | some change =>
      constructor
      · constructor
        · exact ⟨rfl, rfl, rfl, List.suffix_rfl, Nat.le_succ _⟩
        · intro impossible
          exact absurd impossible (Nat.succ_ne_self _)
        · intro impossible
          exact absurd impossible (Nat.succ_ne_self _)
      · rfl
      · rfl

theorem Still.entry (quiet : Still before after) (same : after.changes = before.changes) (dir : Dir)
    (name : Name) : after.entry dir name = before.entry dir name := by
  rw [Tablet.entry, Tablet.entry, Tablet.here, Tablet.here, quiet.moved, quiet.entries same]

theorem Still.device (quiet : Still before after) (same : after.changes = before.changes)
    (dir : Dir) (name : Name) : after.device dir name = before.device dir name := by
  rw [Tablet.device, Tablet.device, quiet.entry same dir name]
  cases before.entry dir name with
  | none => rfl
  | some entry =>
      cases entry with
      | node => rfl
      | plain => rfl
      | link target =>
          dsimp only
          rw [quiet.entry same dir target]

theorem Still.ro (quiet : Still before after) (same : after.changes = before.changes)
    (disk : Name → Option Name) (name : Name) : after.ro disk name = before.ro disk name := by
  rw [Tablet.ro, Tablet.ro, quiet.own same]

/-- An entry that is a device and no link is a node. -/
theorem node_of_device {tablet : Tablet} {dir : Dir} {name : Name}
    (block : (tablet.device dir name).isSome = true)
    (straight : Entry.isLink (tablet.entry dir name) = false) :
    tablet.entry dir name = some .node := by
  rw [Tablet.device] at block
  cases entry : tablet.entry dir name with
  | none =>
      rw [entry] at block
      cases block
  | some kind =>
      cases kind with
      | node => rfl
      | plain =>
          rw [entry] at block
          cases block
      | link target =>
          rw [entry] at straight
          cases straight

theorem device_of_node {tablet : Tablet} {dir : Dir} {name : Name}
    (node : tablet.entry dir name = some .node) : tablet.device dir name = some name := by
  rw [Tablet.device, node]

theorem frame_setFlag (tablet : Tablet) (dir : Dir) (name : Name) (value : Bool)
    (outcome : Bool × Bool) : Frame tablet (tablet.setFlag dir name value outcome).2 := by
  rw [Tablet.setFlag]
  cases tablet.device dir name with
  | none => exact Frame.refl tablet
  | some device =>
      dsimp only
      split
      · exact ⟨rfl, rfl, rfl, List.suffix_rfl, Nat.le_refl _⟩
      · exact Frame.refl tablet

theorem frame_saw (tablet : Tablet) (event : Event) : Frame tablet (tablet.saw event) :=
  ⟨rfl, rfl, rfl, List.suffix_cons _ _, Nat.le_refl _⟩

end Frames

/-! ### Calls -/

/-- The calls that the results are about. -/
def Op.guarded : Op → Bool
  | .telnetd => true
  | .stage2 => true
  | .switchRoot => true
  | _ => false

/-- Every other call may be made at any time. -/
def Calm (during : Op → Tablet → Prop) : Prop :=
  ∀ operation tablet, operation.guarded = false → during operation tablet

section Calls

variable {disk : Name → Option Name} {during : Op → Tablet → Prop} {exited : Nat → Tablet → Prop}
  {tablet : Tablet}

theorem wp_run {operation : Op} {returned : Reply operation → Tablet → Prop}
    (asked : during operation tablet)
    (next : ∀ choice change, returned (react disk operation choice tablet).1
      ((react disk operation choice tablet).2.shift change)) :
    wp (machine disk) during exited (run operation) returned tablet :=
  ⟨asked, fun fault => next fault.1 fault.2⟩

variable (calm : Calm during)
include calm

theorem wp_stands {dir : Dir} {name : Name} {returned : Bool → Tablet → Prop}
    (next : ∀ after, Quiet tablet after → returned (tablet.entry dir name).isSome after) :
    wp (machine disk) during exited (stands dir name) returned tablet :=
  wp_run (calm _ _ rfl) fun _ change => next _ (quiet_shift tablet change)

theorem wp_isBlock {dir : Dir} {name : Name} {returned : Bool → Tablet → Prop}
    (next : ∀ after, Quiet tablet after → returned (tablet.device dir name).isSome after) :
    wp (machine disk) during exited (isBlock dir name) returned tablet :=
  wp_run (calm _ _ rfl) fun _ change => next _ (quiet_shift tablet change)

theorem wp_canonical {dir : Dir} {name : Name} {returned : Bool → Tablet → Prop}
    (next : ∀ straight after, Quiet tablet after →
      (straight = true → Entry.isLink (tablet.entry dir name) = false) → returned straight after) :
    wp (machine disk) during exited (canonical dir name) returned tablet := by
  apply wp_run (calm _ _ rfl)
  intro works change
  apply next _ _ (quiet_shift tablet change)
  intro straight
  cases works with
  | false => cases straight
  | true => exact Bool.not_eq_true' _ ▸ straight

theorem wp_getro {dir : Dir} {name : Name} {returned : Option Bool → Tablet → Prop}
    (next : ∀ reply after, Quiet tablet after →
      (∀ value, reply = some value → (tablet.device dir name).map (tablet.ro disk) = some value) →
      returned reply after) :
    wp (machine disk) during exited (getro dir name) returned tablet := by
  apply wp_run (calm _ _ rfl)
  intro works change
  apply next _ _ (quiet_shift tablet change)
  intro value same
  cases works with
  | false => cases same
  | true => exact same

/-- A call that only answers. -/
def Op.asks : Op → Bool
  | .partlabel => true
  | .blockSize => true
  | .size _ => true
  | .sourceMounted _ => true
  | .stopDaemons => true
  | .cmdline => true
  | .charger => true
  | .usb => true
  | .installer => true
  | .makeLinks => true
  | .linkLabel _ _ => true
  | .marker => true
  | .remountRo => true
  | _ => false

theorem wp_ask {operation : Op} {returned : Reply operation → Tablet → Prop}
    (asks : operation.asks = true)
    (next : ∀ reply after, Quiet tablet after → returned reply after) :
    wp (machine disk) during exited (run operation) returned tablet := by
  have harmless : operation.guarded = false := by
    cases operation <;> first | rfl | cases asks
  apply wp_run (calm _ _ harmless)
  intro choice change
  have same : (react disk operation choice tablet).2 = tablet := by
    cases operation <;> first | rfl | cases asks
  rw [same]
  exact next _ _ (quiet_shift tablet change)

/-- A call that touches flags. -/
def Op.flags : Op → Bool
  | .setro _ _ => true
  | .setrw _ => true
  | .slotTool _ _ => true
  | _ => false

theorem wp_flag {operation : Op} {returned : Reply operation → Tablet → Prop}
    (flags : operation.flags = true)
    (next : ∀ reply after, Frame tablet after → returned reply after) :
    wp (machine disk) during exited (run operation) returned tablet := by
  have harmless : operation.guarded = false := by
    cases operation <;> first | rfl | cases flags
  apply wp_run (calm _ _ harmless)
  intro choice change
  apply next
  have frame : Frame tablet (react disk operation choice tablet).2 := by
    cases operation with
    | setro dir name => exact frame_setFlag tablet dir name true choice
    | setrw name => exact (frame_setFlag tablet .dev name false choice).trans (frame_saw _ _)
    | slotTool mark slot => exact ⟨rfl, rfl, rfl, List.suffix_rfl, Nat.le_refl _⟩
    | _ => cases flags
  exact frame.trans (quiet_shift _ change).toFrame

/-- The names of the entries. -/
def Tablet.names (tablet : Tablet) : List Name := tablet.entries.map Prod.fst

/-- A glob, and that it was the last one. -/
structure Globbed (before after : Tablet) (names : List Name) : Prop extends Still before after where
  saw : after.history = .globbed names :: before.history
  looked : after.looked = before.changes

theorem wp_glob {dir : Dir} {returned : List Name → Tablet → Prop}
    (next : ∀ after, Globbed tablet after (if tablet.here dir = true then tablet.names else []) →
      returned (if tablet.here dir = true then tablet.names else []) after) :
    wp (machine disk) during exited (glob dir) returned tablet := by
  apply wp_run (calm _ _ rfl)
  intro choice change
  apply next
  have frame : Frame tablet (react disk (.glob dir) choice tablet).2 :=
    ⟨rfl, rfl, rfl, List.suffix_cons _ _, Nat.le_refl _⟩
  have quiet := quiet_shift (react disk (.glob dir) choice tablet).2 change
  constructor
  · exact ⟨frame.trans quiet.toFrame, quiet.entries, quiet.own⟩
  · rw [quiet.saw]
    rfl
  · rw [quiet.looked]
    rfl

end Calls

end Liuqin.Initramfs
