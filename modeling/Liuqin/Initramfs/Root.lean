/-
The way of the persistent root, from its identity to the handoff.

What was answered and done on the way stands in the history in its order.  A
rejection takes the mounts back and locks the nodes, or says that it could not.
-/

import Liuqin.Initramfs.Nodes

namespace Liuqin.Initramfs

open Liuqin.Library Liuqin.Library.Program

/-! ### Names -/

/-- One node alone has this name, and it is on the first LUN. -/
structure Only (wanted : String) (found : Uevents) (name : Name) : Prop where
  alone : found.filter (fun event => event.2 == some wanted) = [(name, some wanted)]
  lun : onFirstLun name = true

def Without (wanted : String) (found : Uevents) : Prop :=
  found.filter (fun event => event.2 == some wanted) = []

theorem scan_found {wanted : String} {name : Name} {found : Uevents}
    (passed : scan wanted (some name) found = some none) : False := by
  induction found with
  | nil => cases passed
  | cons head rest ih =>
      obtain ⟨node, partname⟩ := head
      unfold scan at passed
      split at passed
      · exact ih passed
      · split at passed
        · cases passed
        · cases passed

theorem scan_more {wanted : String} {name other : Name} {found : Uevents}
    (passed : scan wanted (some name) found = some (some other)) :
    other = name ∧ Without wanted found := by
  induction found with
  | nil =>
      cases passed
      exact ⟨rfl, rfl⟩
  | cons head rest ih =>
      obtain ⟨node, partname⟩ := head
      unfold scan at passed
      split at passed
      · rename_i differs
        obtain ⟨same, without⟩ := ih passed
        refine ⟨same, ?_⟩
        rw [Without, List.filter_cons_of_neg]
        · exact without
        · intro equal
          exact differs (eq_of_beq equal)
      · split at passed
        · cases passed
        · cases passed

theorem scan_only {wanted : String} {name : Name} {found : Uevents}
    (passed : scan wanted none found = some (some name)) : Only wanted found name := by
  induction found with
  | nil => cases passed
  | cons head rest ih =>
      obtain ⟨node, partname⟩ := head
      unfold scan at passed
      split at passed
      · rename_i differs
        have only := ih passed
        constructor
        · rw [List.filter_cons_of_neg]
          · exact only.alone
          · intro equal
            exact differs (eq_of_beq equal)
        · exact only.lun
      · rename_i same
        rw [not_not] at same
        split at passed
        · cases passed
        · rename_i lun
          rw [if_neg (by decide)] at passed
          obtain ⟨here, without⟩ := scan_more passed
          subst here same
          constructor
          · rw [List.filter_cons, if_pos (beq_self_eq_true (some wanted)), without]
          · exact Bool.not_eq_false _ ▸ lun

theorem scan_without {wanted : String} {found : Uevents}
    (passed : scan wanted none found = some none) : Without wanted found := by
  induction found with
  | nil => rfl
  | cons head rest ih =>
      obtain ⟨node, partname⟩ := head
      unfold scan at passed
      split at passed
      · rename_i differs
        rw [Without, List.filter_cons_of_neg]
        · exact ih passed
        · intro equal
          exact differs (eq_of_beq equal)
      · split at passed
        · cases passed
        · rw [if_neg (by decide)] at passed
          exact (scan_found passed).elim

/-! ### Histories -/

/-- The partition that the names chose: the one called linux_root, or the one
called userdata where none is called that. -/
inductive Chosen (history : List Event) : PartName → Name → Prop where
  | linuxRoot {found : Uevents} {name : Name} (asked : Event.uevents found ∈ history)
      (only : Only "linux_root" found name) : Chosen history .linuxRoot name
  | userdata {first second : Uevents} {name : Name}
      (asked : [Event.uevents second, Event.uevents first].Sublist history)
      (without : Without "linux_root" first) (only : Only "userdata" second name) :
      Chosen history .userdata name

theorem Chosen.later {history further : List Event} {partname : PartName} {name : Name}
    (chosen : Chosen history partname name) (suffix : history <:+ further) :
    Chosen further partname name := by
  cases chosen with
  | linuxRoot asked only => exact .linuxRoot (suffix.subset asked) only
  | userdata asked without only => exact .userdata (asked.trans suffix.sublist) without only

/-- The home partition that name and label chose. -/
structure HomeChosen (history : List Event) (target home : Name) : Prop where
  only : ∃ found, Event.uevents found ∈ history ∧ Only "linux_home" found home
  labelled : Event.found .home home ∈ history
  apart : home ≠ target ∧ home ≠ parent

/-- How the root and the home partition were chosen. -/
structure Rooted (shell : Shell) (history : List Event) : Prop where
  chosen : ∃ partname, shell.partname = some partname ∧ Chosen history partname shell.target
  labelled : Event.found .root shell.target ∈ history
  home : ∀ home, shell.home = some home → shell.partname = some .linuxRoot ∧
    HomeChosen history shell.target home

theorem Rooted.later {shell : Shell} {history further : List Event}
    (rooted : Rooted shell history) (suffix : history <:+ further) : Rooted shell further := by
  obtain ⟨partname, same, chosen⟩ := rooted.chosen
  constructor
  · exact ⟨partname, same, chosen.later suffix⟩
  · exact suffix.subset rooted.labelled
  · intro home here
    obtain ⟨linux, homed⟩ := rooted.home home here
    obtain ⟨found, asked, only⟩ := homed.only
    exact ⟨linux, ⟨found, suffix.subset asked, only⟩, suffix.subset homed.labelled, homed.apart⟩

/-- The variables that the search for the root leaves alone. -/
structure SameMounts (before after : Shell) : Prop where
  probe : after.probeMounted = before.probeMounted
  root : after.rootMounted = before.rootMounted

/-! ### Identity -/

section Root

variable {disk : Name → Option Name} {during : Op → Tablet → Prop} {exited : Nat → Tablet → Prop}
  {tablet : Tablet} (calm : Calm during)
include calm

theorem wp_uevents {returned : Uevents → Tablet → Prop}
    (next : ∀ found after, Still tablet after →
      Event.uevents found :: tablet.history <:+ after.history → returned found after) :
    wp (machine disk) during exited uevents returned tablet := by
  apply wp_run (calm _ _ rfl)
  intro found change
  have quiet := quiet_shift (tablet.saw (.uevents found)) change
  apply next found _ (Still.trans ⟨frame_saw tablet _, fun _ => rfl, fun _ => rfl⟩ quiet.toStill)
  exact quiet.history

theorem wp_findfs {label : Label} {returned : Option Name → Tablet → Prop}
    (next : ∀ found after, Frame tablet after →
      (∀ name, found = some name → Event.found label name ∈ after.history) →
      returned found after) :
    wp (machine disk) during exited (findfs label) returned tablet := by
  apply wp_run (calm _ _ rfl)
  intro found change
  have quiet := quiet_shift (tablet.located label found) change
  apply next found _
  · cases found with
    | none => exact quiet.toFrame
    | some name => exact (frame_saw tablet _).trans quiet.toFrame
  · intro name same
    have whole : found = some name := same
    subst whole
    exact quiet.history.subset List.mem_cons_self

theorem wp_resolveName {returned : Option (PartName × Name) → Tablet → Prop}
    (next : ∀ result after, Frame tablet after →
      (∀ partname name, result = some (partname, name) → Chosen after.history partname name) →
      returned result after) :
    wp (machine disk) during exited resolveName returned tablet := by
  unfold resolveName
  rw [Prog.bind_eq, wp_bind]
  apply wp_uevents calm
  intro first one stillOne askedFirst
  have frameOne := stillOne.toFrame
  have refused : ∀ {after : Tablet}, Frame tablet after → returned none after :=
    fun frame => next none _ frame fun _ _ impossible => nomatch impossible
  cases scanned : scan PartName.linuxRoot.text none first with
  | none => exact refused frameOne
  | some found =>
      cases found with
      | some name =>
          apply next _ one frameOne
          intro partname other same
          cases same
          exact .linuxRoot (askedFirst.subset List.mem_cons_self) (scan_only scanned)
      | none =>
          dsimp only
          rw [Prog.bind_eq, wp_bind]
          apply wp_uevents calm
          intro second two stillTwo askedSecond
          have frame := frameOne.trans stillTwo.toFrame
          cases again : scan PartName.userdata.text none second with
          | none => exact refused frame
          | some found =>
              cases found with
              | none => exact refused frame
              | some name =>
                  apply next _ two frame
                  intro partname other same
                  cases same
                  apply Chosen.userdata _ (scan_without scanned) (scan_only again)
                  apply List.Sublist.trans _ askedSecond.sublist
                  apply List.Sublist.cons_cons
                  exact List.singleton_sublist.mpr (askedFirst.subset List.mem_cons_self)

theorem wp_resolveTarget {shell : Shell} {returned : Bool × Shell → Tablet → Prop}
    (next : ∀ result after, Frame tablet after → SameMounts shell result.2 →
      (result.1 = true → ∃ partname, result.2.partname = some partname ∧
        Chosen after.history partname result.2.target) → returned result after) :
    wp (machine disk) during exited (resolveTarget shell) returned tablet := by
  unfold resolveTarget
  rw [Prog.bind_eq, wp_bind]
  apply wp_resolveName calm
  intro named one frameOne chosen
  cases named with
  | none => exact next _ one frameOne ⟨rfl, rfl⟩ fun impossible => nomatch impossible
  | some found =>
      obtain ⟨partname, name⟩ := found
      dsimp only
      rw [Prog.bind_eq, wp_bind]
      apply wp_ask calm rfl
      intro link two quiet
      have frame := frameOne.trans quiet.toFrame
      have kept := (chosen partname name rfl).later quiet.history
      cases link with
      | none => exact next _ two frame ⟨rfl, rfl⟩ fun _ => ⟨partname, rfl, kept⟩
      | some target => exact next _ two frame ⟨rfl, rfl⟩ fun _ => ⟨partname, rfl, kept⟩

theorem wp_resolveHome {shell : Shell} {returned : Option Name → Tablet → Prop}
    (next : ∀ result after, Frame tablet after →
      (∀ home, result = some home → shell.partname = some .linuxRoot ∧
        HomeChosen after.history shell.target home) → returned result after) :
    wp (machine disk) during exited (resolveHome shell) returned tablet := by
  unfold resolveHome
  have refused : ∀ {after : Tablet}, Frame tablet after → returned none after :=
    fun frame => next none _ frame fun _ impossible => nomatch impossible
  split
  · exact refused (Frame.refl tablet)
  rename_i linux
  rw [not_not] at linux
  rw [Prog.bind_eq, wp_bind]
  apply wp_uevents calm
  intro found one stillOne asked
  have frameOne := stillOne.toFrame
  cases scanned : scan "linux_home" none found with
  | none => exact refused frameOne
  | some scannedName =>
      cases scannedName with
      | none => exact refused frameOne
      | some home =>
          dsimp only
          split
          · exact refused frameOne
          rename_i apart
          rw [not_or] at apart
          rw [Prog.bind_eq, wp_bind]
          apply wp_nodeStands calm
          intro stands two quietTwo _
          have frameTwo := frameOne.trans quietTwo.toFrame
          split
          · exact refused frameTwo
          rw [Prog.bind_eq, wp_bind]
          apply wp_findfs calm
          intro label three frameThree located
          have untilThree := frameTwo.trans frameThree
          split
          · exact refused untilThree
          rename_i labelled
          rw [not_not] at labelled
          rw [Prog.bind_eq, wp_bind]
          apply wp_ask calm rfl
          intro mounted four quietFour
          have untilFour := untilThree.trans quietFour.toFrame
          split
          · exact refused untilFour
          apply next _ four untilFour
          intro other same
          cases same
          refine ⟨linux, ⟨found, ?_, scan_only scanned⟩, ?_, apart⟩
          · have later := (quietTwo.toFrame.trans frameThree).trans quietFour.toFrame
            exact later.history.subset (asked.subset List.mem_cons_self)
          · exact quietFour.history.subset (located home labelled)

theorem wp_targetFits {shell : Shell} {returned : Bool → Tablet → Prop}
    (next : ∀ result after, Frame tablet after →
      (result = true → Event.found .root shell.target ∈ after.history) → returned result after) :
    wp (machine disk) during exited (targetFits shell) returned tablet := by
  unfold targetFits
  have refused : ∀ {after : Tablet}, Frame tablet after → returned false after :=
    fun frame => next false _ frame fun impossible => nomatch impossible
  rw [Prog.bind_eq, wp_bind]
  apply wp_pairStands calm
  intro pair one quietOne _
  split
  · exact refused quietOne.toFrame
  rw [Prog.bind_eq, wp_bind]
  apply wp_ask calm rfl
  intro block two quietTwo
  have untilTwo := quietOne.toFrame.trans quietTwo.toFrame
  split
  · exact refused untilTwo
  rw [Prog.bind_eq, wp_bind]
  apply wp_ask calm rfl
  intro sectors three quietThree
  have untilThree := untilTwo.trans quietThree.toFrame
  split
  · exact refused untilThree
  rw [Prog.bind_eq, wp_bind]
  apply wp_findfs calm
  intro label four frameFour located
  have untilFour := untilThree.trans frameFour
  split
  · exact refused untilFour
  rename_i labelled
  rw [not_not] at labelled
  rw [Prog.bind_eq, wp_bind]
  apply wp_ask calm rfl
  intro mounted five quietFive
  have untilFive := untilFour.trans quietFive.toFrame
  split
  · exact refused untilFive
  rw [Prog.bind_eq, wp_bind]
  apply wp_ask calm rfl
  intro partition six quietSix
  apply next _ six (untilFive.trans quietSix.toFrame)
  intro _
  exact (quietFive.toFrame.trans quietSix.toFrame).history.subset (located _ labelled)

theorem wp_identityOk {shell : Shell} {returned : Bool × Shell → Tablet → Prop}
    (next : ∀ result after, Frame tablet after → SameMounts shell result.2 →
      (result.1 = true → Rooted result.2 after.history) → returned result after) :
    wp (machine disk) during exited (identityOk shell) returned tablet := by
  unfold identityOk
  rw [Prog.bind_eq, wp_bind]
  apply wp_resolveTarget calm
  intro resolved one frameOne same chosen
  obtain ⟨ok, found⟩ := resolved
  dsimp only at same chosen ⊢
  split
  · exact next _ one frameOne same fun impossible => nomatch impossible
  rename_i good
  obtain ⟨partname, named, chosen⟩ := chosen (Bool.not_eq_false _ ▸ good)
  rw [Prog.bind_eq, wp_bind]
  apply wp_targetFits calm
  intro fits two frameTwo labelled
  have untilTwo := frameOne.trans frameTwo
  split
  · exact next _ two untilTwo same fun impossible => nomatch impossible
  rename_i fitting
  have located := labelled (Bool.not_eq_false _ ▸ fitting)
  have kept := chosen.later frameTwo.history
  split
  · rw [Prog.bind_eq, wp_bind]
    apply wp_resolveHome calm
    intro home three frameThree homed
    apply next _ three (untilTwo.trans frameThree) ⟨same.probe, same.root⟩
    intro _
    constructor
    · exact ⟨partname, named, kept.later frameThree.history⟩
    · exact frameThree.history.subset located
    · exact homed
  · apply next _ two untilTwo ⟨same.probe, same.root⟩
    intro _
    exact ⟨⟨partname, named, kept⟩, located, fun _ impossible => nomatch impossible⟩

end Root

end Liuqin.Initramfs
