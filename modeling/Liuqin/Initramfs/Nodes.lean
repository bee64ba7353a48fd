/-
The checks of the storage functions: which nodes there are, and which of them are
read-only.

What a check that passes has seen holds of the tablet after it, unless the set of
the nodes changed on the way.
-/

import Liuqin.Initramfs.Rules

namespace Liuqin.Initramfs

open Liuqin.Library Liuqin.Library.Program

/-- Every sd* node is read-only. -/
def AllRo (disk : Name → Option Name) (tablet : Tablet) : Prop :=
  ∀ name, tablet.entries.lookup name = some .node → tablet.ro disk name = true

/-- These names are all there are, and each is a node. -/
structure Collected (tablet : Tablet) (dir : Dir) (names : List Name) : Prop where
  here : tablet.here dir = true
  all : names = tablet.names
  nodes : ∀ name ∈ names, tablet.entry dir name = some .node

section Nodes

variable {disk : Name → Option Name} {during : Op → Tablet → Prop} {exited : Nat → Tablet → Prop}
  {tablet : Tablet}

theorem lookup_isSome {entries : Entries} {name : Name} (member : name ∈ entries.map Prod.fst) :
    (entries.lookup name).isSome = true := by
  induction entries with
  | nil => cases member
  | cons head rest ih =>
      obtain ⟨first, entry⟩ := head
      rw [List.lookup_cons]
      by_cases same : name = first
      · rw [same, beq_self_eq_true]
        rfl
      · rw [beq_eq_false_iff_ne.mpr same]
        apply ih
        rw [List.map_cons, List.mem_cons] at member
        exact member.resolve_left same

theorem mem_of_lookup {entries : Entries} {name : Name} {entry : Entry}
    (found : entries.lookup name = some entry) : name ∈ entries.map Prod.fst := by
  induction entries with
  | nil => cases found
  | cons head rest ih =>
      obtain ⟨first, other⟩ := head
      rw [List.lookup_cons] at found
      rw [List.map_cons, List.mem_cons]
      by_cases same : name = first
      · exact Or.inl same
      · rw [beq_eq_false_iff_ne.mpr same] at found
        exact Or.inr (ih found)

theorem entry_here {dir : Dir} (here : tablet.here dir = true) (name : Name) :
    tablet.entry dir name = tablet.entries.lookup name :=
  if_pos here

theorem Collected.quiet {after : Tablet} {dir : Dir} {names : List Name}
    (collected : Collected tablet dir names) (quiet : Quiet tablet after)
    (same : after.changes = tablet.changes) : Collected after dir names := by
  constructor
  · rw [Tablet.here, quiet.moved]
    exact collected.here
  · rw [Tablet.names, quiet.entries same]
    exact collected.all
  · intro name member
    rw [quiet.entry same]
    exact collected.nodes name member

/-- What getro says of a node. -/
theorem ro_of_node {dir : Dir} {name : Name} {value : Bool}
    (node : tablet.entry dir name = some .node)
    (told : (tablet.device dir name).map (tablet.ro disk) = some value) :
    tablet.ro disk name = value := by
  rw [device_of_node node, Option.map_some] at told
  exact Option.some.inj told

variable (calm : Calm during)
include calm

/-! ### Collecting -/

theorem wp_collectFrom {dir : Dir} {names collected : List Name}
    {returned : Option (List Name) → Tablet → Prop}
    (next : ∀ result after, Quiet tablet after →
      (∀ nodes, result = some nodes → ∃ kept, kept.Sublist names ∧ nodes = collected ++ kept ∧
        nodes ≠ [] ∧ (after.changes = tablet.changes →
          kept = names.filter (fun name => (tablet.entry dir name).isSome) ∧
            ∀ name ∈ kept, tablet.entry dir name = some .node)) → returned result after) :
    wp (machine disk) during exited (collectFrom dir collected names) returned tablet := by
  induction names generalizing collected tablet with
  | nil =>
      apply next _ tablet (Quiet.refl tablet)
      intro nodes passed
      split at passed
      · cases passed
      · rename_i nonempty
        cases passed
        exact ⟨[], List.Sublist.refl _, (List.append_nil _).symm, nonempty,
          fun _ => ⟨rfl, fun _ impossible => nomatch impossible⟩⟩
  | cons name rest ih =>
      unfold collectFrom
      rw [Prog.bind_eq, wp_bind]
      apply wp_stands calm
      intro one quietOne
      by_cases absent : (tablet.entry dir name).isSome = false
      · rw [if_pos absent]
        apply ih
        intro result after quiet facts
        apply next result after (quietOne.trans quiet)
        intro nodes passed
        obtain ⟨kept, sublist, whole, nonempty, exact_⟩ := facts nodes passed
        refine ⟨kept, sublist.cons _, whole, nonempty, ?_⟩
        intro same
        obtain ⟨left, right⟩ := quietOne.toFrame.between quiet.toFrame same
        obtain ⟨filtered, every⟩ := exact_ right
        constructor
        · rw [List.filter_cons_of_neg (by rw [absent]; decide), filtered]
          apply List.filter_congr
          intro other _
          rw [quietOne.entry left]
        · intro other member
          rw [← quietOne.entry left]
          exact every other member
      rw [if_neg absent]
      have present : (tablet.entry dir name).isSome = true := Bool.not_eq_false _ ▸ absent
      rw [Prog.bind_eq, wp_bind]
      apply wp_isBlock calm
      intro two quietTwo
      by_cases alien : (one.device dir name).isSome = false
      · rw [if_pos alien]
        exact next none two (quietOne.trans quietTwo) fun _ impossible => nomatch impossible
      rw [if_neg alien]
      have block : (one.device dir name).isSome = true := Bool.not_eq_false _ ▸ alien
      rw [Prog.bind_eq, wp_bind]
      apply wp_canonical calm
      intro straight three quietThree noLink
      cases straight with
      | false =>
          exact next none three ((quietOne.trans quietTwo).trans quietThree)
            fun _ impossible => nomatch impossible
      | true =>
          rw [if_neg (by decide)]
          apply ih
          intro result after quiet facts
          have front := (quietOne.trans quietTwo).trans quietThree
          apply next result after (front.trans quiet)
          intro nodes passed
          obtain ⟨kept, sublist, whole, nonempty, exact_⟩ := facts nodes passed
          refine ⟨name :: kept, sublist.cons_cons _, ?_, nonempty, ?_⟩
          · rw [whole, List.append_assoc]
            rfl
          intro same
          obtain ⟨left, right⟩ := front.toFrame.between quiet.toFrame same
          obtain ⟨filtered, every⟩ := exact_ right
          obtain ⟨untilTwo, atThree⟩ :=
            (quietOne.trans quietTwo).toFrame.between quietThree.toFrame left
          obtain ⟨untilOne, atTwo⟩ := quietOne.toFrame.between quietTwo.toFrame untilTwo
          constructor
          · have same : rest.filter (fun name => (three.entry dir name).isSome) =
                rest.filter (fun name => (tablet.entry dir name).isSome) := by
              apply List.filter_congr
              intro other _
              rw [front.entry left]
            simp only [List.filter_cons, present, if_true, filtered, same]
          · intro other member
            rcases List.mem_cons.mp member with here | there
            · rw [here, ← (quietOne.trans quietTwo).entry untilTwo]
              apply node_of_device
              · rw [quietTwo.device atTwo]
                exact block
              · exact noLink rfl
            · rw [← front.entry left]
              exact every other there

/-- The names that were collected, and that there are no others. -/
structure Found (before after : Tablet) (dir : Dir) (nodes : List Name) : Prop where
  saw : ∃ names, after.history = .globbed names :: before.history ∧ nodes.Sublist names
  collected : after.changes = before.changes → Collected after dir nodes

theorem wp_collect {dir : Dir} {returned : Option (List Name) → Tablet → Prop}
    (next : ∀ result after, Still tablet after → after.looked = tablet.changes →
      (∀ nodes, result = some nodes → Found tablet after dir nodes) → returned result after) :
    wp (machine disk) during exited (collect dir) returned tablet := by
  unfold collect
  rw [Prog.bind_eq, wp_bind]
  apply wp_glob calm
  intro one globbed
  apply wp_collectFrom calm
  intro result after quiet facts
  apply next result after
  · exact globbed.toStill.trans quiet.toStill
  · exact quiet.looked.trans globbed.looked
  intro nodes passed
  obtain ⟨kept, sublist, whole, nonempty, facts⟩ := facts nodes passed
  rw [List.nil_append] at whole
  subst whole
  constructor
  · exact ⟨_, by rw [quiet.saw, globbed.saw], sublist⟩
  intro same
  obtain ⟨left, right⟩ := globbed.toFrame.between quiet.toFrame same
  obtain ⟨filtered, every⟩ := facts right
  have here : tablet.here dir = true := by
    by_contra elsewhere
    rw [if_neg elsewhere] at filtered
    exact nonempty filtered
  have hereOne : one.here dir = true := by
    rw [Tablet.here, globbed.moved]
    exact here
  have names : one.names = tablet.names := by
    rw [Tablet.names, globbed.entries left, Tablet.names]
  have all : nodes = one.names := by
    rw [if_pos here] at filtered
    rw [filtered, names]
    apply List.filter_eq_self.mpr
    intro name member
    rw [entry_here hereOne]
    apply lookup_isSome
    rw [← names] at member
    exact member
  have collected : Collected one dir nodes := ⟨hereOne, all, every⟩
  exact collected.quiet quiet right

/-! ### Locking -/

theorem wp_sealNodes {seen ok : Bool} {names : List Name} {returned : Bool × Bool → Tablet → Prop}
    (next : ∀ result after, Frame tablet after → (names = [] → result.1 = seen) →
      returned result after) :
    wp (machine disk) during exited (sealNodes seen ok names) returned tablet := by
  induction names generalizing seen ok tablet with
  | nil => exact next _ tablet (Frame.refl tablet) fun _ => rfl
  | cons name rest ih =>
      unfold sealNodes
      rw [Prog.bind_eq, wp_bind]
      apply wp_isBlock calm
      intro one quiet
      split
      · apply ih
        intro result after frame _
        exact next result after (quiet.toFrame.trans frame) fun impossible => nomatch impossible
      · rw [Prog.bind_eq, wp_bind]
        apply wp_flag calm rfl
        intro works two frameTwo
        apply ih
        intro result after frame _
        exact next result after ((quiet.toFrame.trans frameTwo).trans frame)
          fun impossible => nomatch impossible

theorem wp_checkSealed {ok : Bool} {names : List Name} {returned : Bool → Tablet → Prop}
    (next : ∀ result after, Quiet tablet after →
      (result = true → ok = true ∧ (after.changes = tablet.changes →
        ∀ name ∈ names, ∀ device, tablet.device .dev name = some device →
          tablet.ro disk device = true)) → returned result after) :
    wp (machine disk) during exited (checkSealed ok names) returned tablet := by
  induction names generalizing ok tablet with
  | nil =>
      apply next _ tablet (Quiet.refl tablet)
      exact fun passed => ⟨passed, fun _ _ impossible => nomatch impossible⟩
  | cons name rest ih =>
      unfold checkSealed
      rw [Prog.bind_eq, wp_bind]
      apply wp_isBlock calm
      intro one quietOne
      by_cases alien : (tablet.device .dev name).isSome = false
      · rw [if_pos alien]
        apply ih
        intro result after quiet facts
        apply next result after (quietOne.trans quiet)
        intro passed
        obtain ⟨good, every⟩ := facts passed
        refine ⟨good, ?_⟩
        intro same other member device found
        obtain ⟨left, right⟩ := quietOne.toFrame.between quiet.toFrame same
        rcases List.mem_cons.mp member with here | there
        · rw [here] at found
          rw [found] at alien
          cases alien
        · rw [← quietOne.ro left]
          apply every right other there
          rw [quietOne.device left]
          exact found
      rw [if_neg alien, Prog.bind_eq, wp_bind]
      apply wp_getro calm
      intro reply two quietTwo told
      apply ih
      intro result after quiet facts
      have front := quietOne.trans quietTwo
      apply next result after (front.trans quiet)
      intro passed
      obtain ⟨both, every⟩ := facts passed
      rw [Bool.and_eq_true, beq_iff_eq] at both
      refine ⟨both.1, ?_⟩
      intro same other member device found
      obtain ⟨left, right⟩ := front.toFrame.between quiet.toFrame same
      rcases List.mem_cons.mp member with here | there
      · have untilOne := (quietOne.toFrame.between quietTwo.toFrame left).1
        have answer := told true both.2
        rw [quietOne.device untilOne, ← here, found, Option.map_some, Option.some.injEq,
          quietOne.ro untilOne] at answer
        exact answer
      · rw [← front.ro left]
        apply every right other there
        rw [front.device left]
        exact found

/-- `storage_lock_all` that succeeds leaves every node read-only. -/
theorem wp_lockAll {returned : Bool → Tablet → Prop}
    (next : ∀ result after, Frame tablet after →
      (result = true → after.changes = tablet.changes → AllRo disk after) → returned result after) :
    wp (machine disk) during exited lockAll returned tablet := by
  unfold lockAll
  rw [Prog.bind_eq, wp_bind]
  apply wp_collect calm
  intro nodes one stillOne _ _
  have frameOne := stillOne.toFrame
  rw [Prog.bind_eq, wp_bind]
  apply wp_glob calm
  intro two globbedTwo
  have frameTwo := frameOne.trans globbedTwo.toFrame
  rw [Prog.bind_eq, wp_bind]
  apply wp_sealNodes calm
  intro result three frame none_
  have frameThree := frameTwo.trans frame
  obtain ⟨seen, ok⟩ := result
  dsimp only
  cases seen with
  | false => exact next false three frameThree fun impossible => nomatch impossible
  | true =>
      rw [if_neg (by decide)]
      -- the loop met a node, so the directory is in its place
      have here : tablet.here .dev = true := by
        by_contra elsewhere
        have empty : ¬one.here .dev = true := by
          rw [Tablet.here, frameOne.moved]
          exact elsewhere
        rw [if_neg empty] at none_
        cases none_ rfl
      rw [Prog.bind_eq, wp_bind]
      apply wp_glob calm
      intro four globbedFour
      have frameFour := frameThree.trans globbedFour.toFrame
      have hereThree : three.here .dev = true := by
        rw [Tablet.here, frameThree.moved]
        exact here
      have hereFour : four.here .dev = true := by
        rw [Tablet.here, frameFour.moved]
        exact here
      rw [if_pos hereThree, Prog.bind_eq, wp_bind]
      apply wp_checkSealed calm
      intro checked five quietFive sealed
      have frameFive := frameFour.trans quietFive.toFrame
      rw [Prog.bind_eq, wp_bind]
      apply wp_collect calm
      intro verified six still _ _
      apply next _ six (frameFive.trans still.toFrame)
      intro passed same name node
      rw [Bool.and_eq_true] at passed
      obtain ⟨atFive, atSix⟩ := frameFive.between still.toFrame same
      obtain ⟨atFour, further⟩ := frameFour.between quietFive.toFrame atFive
      have later := (frameThree.between globbedFour.toFrame atFour).2
      have nodes : six.entries = three.entries := by
        rw [still.entries atSix, quietFive.entries further, globbedFour.entries later]
      rw [nodes] at node
      have device : four.device .dev name = some name := by
        apply device_of_node
        rw [entry_here hereFour, globbedFour.entries later]
        exact node
      have answer := (sealed passed.1).2 further name (mem_of_lookup node) name device
      rw [still.ro atSix, Tablet.ro, quietFive.own further]
      exact answer

/-! ### The checks of the writable set -/

theorem wp_siblingsSealed {dir : Dir} {excepted : Name → Bool} {names : List Name}
    {returned : Bool → Tablet → Prop}
    (next : ∀ result after, Quiet tablet after →
      (result = true → after.changes = tablet.changes → ∀ name ∈ names, excepted name = false →
        (tablet.device dir name).map (tablet.ro disk) = some true) → returned result after) :
    wp (machine disk) during exited (siblingsSealed dir excepted names) returned tablet := by
  induction names generalizing tablet with
  | nil => exact next true tablet (Quiet.refl tablet) fun _ _ _ impossible => nomatch impossible
  | cons name rest ih =>
      unfold siblingsSealed
      split
      · rename_i skipped
        apply ih
        intro result after quiet facts
        apply next result after quiet
        intro passed same other member kept
        rcases List.mem_cons.mp member with here | there
        · rw [here, skipped] at kept
          cases kept
        · exact facts passed same other there kept
      · rw [Prog.bind_eq, wp_bind]
        apply wp_getro calm
        intro reply one quietOne told
        split
        · rename_i closed
          apply ih
          intro result after quiet facts
          apply next result after (quietOne.trans quiet)
          intro passed same other member kept
          obtain ⟨left, right⟩ := quietOne.toFrame.between quiet.toFrame same
          rcases List.mem_cons.mp member with here | there
          · rw [here]
            exact told true closed
          · have answer := facts passed right other there kept
            rw [quietOne.device left] at answer
            rw [← answer]
            congr 1
            funext device
            rw [quietOne.ro left]
        · exact next false one quietOne fun impossible => nomatch impossible

theorem wp_nodeStands {dir : Dir} {name : Name} {returned : Bool → Tablet → Prop}
    (next : ∀ result after, Quiet tablet after →
      (result = true → after.changes = tablet.changes →
        tablet.entry dir name = some .node) → returned result after) :
    wp (machine disk) during exited (nodeStands dir name) returned tablet := by
  unfold nodeStands
  rw [Prog.bind_eq, wp_bind]
  apply wp_isBlock calm
  intro one quietOne
  split
  · exact next false one quietOne fun impossible => nomatch impossible
  · rename_i block
    apply wp_canonical calm
    intro straight two quietTwo noLink
    apply next straight two (quietOne.trans quietTwo)
    intro passed same
    obtain ⟨left, _⟩ := quietOne.toFrame.between quietTwo.toFrame same
    apply node_of_device
    · exact Bool.not_eq_false _ ▸ block
    · rw [← quietOne.entry left]
      exact noLink passed

theorem wp_pairStands {dir : Dir} {shell : Shell} {returned : Bool → Tablet → Prop}
    (next : ∀ result after, Quiet tablet after →
      (result = true → after.changes = tablet.changes →
        tablet.entry dir parent = some .node ∧ tablet.entry dir shell.target = some .node) →
      returned result after) :
    wp (machine disk) during exited (pairStands dir shell) returned tablet := by
  unfold pairStands
  rw [Prog.bind_eq, wp_bind]
  apply wp_isBlock calm
  intro one quietOne
  split
  · exact next false one quietOne fun impossible => nomatch impossible
  rename_i diskBlock
  rw [Prog.bind_eq, wp_bind]
  apply wp_isBlock calm
  intro two quietTwo
  have untilTwo := quietOne.trans quietTwo
  split
  · exact next false two untilTwo fun impossible => nomatch impossible
  rename_i block
  rw [Prog.bind_eq, wp_bind]
  apply wp_canonical calm
  intro diskStraight three quietThree diskLink
  have untilThree := untilTwo.trans quietThree
  split
  · exact next false three untilThree fun impossible => nomatch impossible
  rename_i notCrooked
  apply wp_canonical calm
  intro straight four quietFour noLink
  apply next straight four (untilThree.trans quietFour)
  intro passed same
  obtain ⟨atThree, _⟩ := untilThree.toFrame.between quietFour.toFrame same
  obtain ⟨atTwo, _⟩ := untilTwo.toFrame.between quietThree.toFrame atThree
  obtain ⟨atOne, _⟩ := quietOne.toFrame.between quietTwo.toFrame atTwo
  constructor
  · apply node_of_device
    · exact Bool.not_eq_false _ ▸ diskBlock
    · rw [← untilTwo.entry atTwo]
      exact diskLink (Bool.not_eq_false _ ▸ notCrooked)
  · apply node_of_device
    · rw [← quietOne.device atOne]
      exact Bool.not_eq_false _ ▸ block
    · rw [← untilThree.entry atThree]
      exact noLink passed

theorem wp_writable {dir : Dir} {name : Name} {returned : Bool → Tablet → Prop}
    (next : ∀ result after, Quiet tablet after →
      (result = true → (tablet.device dir name).map (tablet.ro disk) = some false) →
      returned result after) :
    wp (machine disk) during exited (writable dir name) returned tablet := by
  unfold writable
  rw [Prog.bind_eq, wp_bind]
  apply wp_getro calm
  intro reply one quiet told
  apply next _ one quiet
  intro passed
  exact told false (eq_of_beq passed)

theorem wp_homeOpen {dir : Dir} {home : Option Name} {returned : Bool → Tablet → Prop}
    (next : ∀ result after, Quiet tablet after →
      (result = true → after.changes = tablet.changes → ∀ name, home = some name →
        tablet.ro disk name = false) → returned result after) :
    wp (machine disk) during exited (homeOpen dir home) returned tablet := by
  cases home with
  | none => exact next true tablet (Quiet.refl tablet) fun _ _ _ impossible => nomatch impossible
  | some home =>
      unfold homeOpen
      dsimp only
      rw [Prog.bind_eq, wp_bind]
      apply wp_nodeStands calm
      intro stands one quietOne node
      split
      · exact next false one quietOne fun impossible => nomatch impossible
      rename_i standing
      apply wp_writable calm
      intro result two quietTwo told
      apply next result two (quietOne.trans quietTwo)
      intro passed same name here
      cases here
      obtain ⟨left, _⟩ := quietOne.toFrame.between quietTwo.toFrame same
      rw [← quietOne.ro left]
      apply ro_of_node
      · rw [quietOne.entry left]
        exact node (Bool.not_eq_false _ ▸ standing) left
      · exact told passed

theorem wp_snapshotAllRo {shell : Shell} {returned : Bool → Tablet → Prop}
    (next : ∀ result after, Still tablet after → returned result after) :
    wp (machine disk) during exited (snapshotAllRo shell) returned tablet := by
  unfold snapshotAllRo
  split
  · exact next true tablet (Still.refl tablet)
  rw [Prog.bind_eq, wp_bind]
  apply wp_collect calm
  intro current one stillOne _ _
  split
  · exact next false one stillOne
  rw [Prog.bind_eq, wp_bind]
  apply wp_pairStands calm
  intro pair two quietTwo _
  have stillTwo := stillOne.trans quietTwo.toStill
  split
  · exact next false two stillTwo
  apply wp_siblingsSealed calm
  intro result three quietThree _
  exact next result three (stillTwo.trans quietThree.toStill)

/-- The nodes are those of the snapshot, and the writable ones are known. -/
structure Exact (disk : Name → Option Name) (shell : Shell) (tablet : Tablet) (dir : Dir) :
    Prop where
  collected : Collected tablet dir shell.snapshot
  front : tablet.ro disk parent = false
  target : tablet.ro disk shell.target = false
  home : ∀ name, shell.home = some name → tablet.ro disk name = false
  siblings : ∀ name ∈ shell.snapshot, shell.opens name = false → tablet.ro disk name = true
  pair : tablet.entry dir parent = some .node ∧ tablet.entry dir shell.target = some .node

/-- `storage_snapshot_persistent_ok` that succeeds. -/
theorem wp_snapshotPersistentOk {dir : Dir} {shell : Shell} {returned : Bool → Tablet → Prop}
    (next : ∀ result after, Frame tablet after →
      (result = true → after.changes = after.looked → Exact disk shell after dir) →
      returned result after) :
    wp (machine disk) during exited (snapshotPersistentOk dir shell) returned tablet := by
  unfold snapshotPersistentOk
  split
  · exact next false tablet (Frame.refl tablet) fun impossible => nomatch impossible
  rw [Prog.bind_eq, wp_bind]
  apply wp_collect calm
  intro current one stillOne looked found
  have frameOne := stillOne.toFrame
  have refused : ∀ {after : Tablet}, Quiet one after → returned false after :=
    fun quiet => next false _ (frameOne.trans quiet.toFrame) fun impossible => nomatch impossible
  split
  · exact refused (Quiet.refl one)
  rename_i whole
  rw [not_not] at whole
  rw [Prog.bind_eq, wp_bind]
  apply wp_pairStands calm
  intro pair two quietTwo stands
  split
  · exact refused quietTwo
  rename_i standing
  rw [Prog.bind_eq, wp_bind]
  apply wp_writable calm
  intro diskOpen three quietThree diskTold
  have untilThree := quietTwo.trans quietThree
  split
  · exact refused untilThree
  rename_i diskFine
  rw [Prog.bind_eq, wp_bind]
  apply wp_writable calm
  intro targetOpen four quietFour targetTold
  have untilFour := untilThree.trans quietFour
  split
  · exact refused untilFour
  rename_i targetFine
  rw [Prog.bind_eq, wp_bind]
  apply wp_homeOpen calm
  intro homeFine five quietFive homeTold
  have untilFive := untilFour.trans quietFive
  split
  · exact refused untilFive
  rename_i homeGood
  apply wp_siblingsSealed calm
  intro result six quietSix siblings
  have untilSix := untilFive.trans quietSix
  apply next result six (frameOne.trans untilSix.toFrame)
  intro passed same
  -- nothing changed since the glob, so every answer is about the last tablet
  have fixed : six.changes = tablet.changes := by rw [same, untilSix.looked, looked]
  obtain ⟨atOne, sixOne⟩ := frameOne.between untilSix.toFrame fixed
  obtain ⟨atFive, sixFive⟩ := untilFive.toFrame.between quietSix.toFrame sixOne
  obtain ⟨atFour, fiveFour⟩ := untilFour.toFrame.between quietFive.toFrame atFive
  obtain ⟨atThree, _⟩ := untilThree.toFrame.between quietFour.toFrame atFour
  obtain ⟨atTwo, _⟩ := quietTwo.toFrame.between quietThree.toFrame atThree
  obtain ⟨parentNode, targetNode⟩ := stands (Bool.not_eq_false _ ▸ standing) atTwo
  have collected := (found shell.snapshot whole).collected atOne
  constructor
  · exact collected.quiet untilSix sixOne
  · rw [untilSix.ro sixOne, ← quietTwo.ro atTwo]
    apply ro_of_node
    · rw [quietTwo.entry atTwo]
      exact parentNode
    · exact diskTold (Bool.not_eq_false _ ▸ diskFine)
  · rw [untilSix.ro sixOne, ← untilThree.ro atThree]
    apply ro_of_node
    · rw [untilThree.entry atThree]
      exact targetNode
    · exact targetTold (Bool.not_eq_false _ ▸ targetFine)
  · intro name here
    rw [untilSix.ro sixOne, ← untilFour.ro atFour]
    exact homeTold (Bool.not_eq_false _ ▸ homeGood) fiveFour name here
  · intro name member kept
    rw [untilSix.ro sixOne, ← untilFive.ro atFive]
    apply ro_of_node
    · rw [untilFive.entry atFive]
      exact collected.nodes name member
    · exact siblings passed sixFive name member kept
  · rw [untilSix.entry sixOne, untilSix.entry sixOne]
    exact ⟨parentNode, targetNode⟩

theorem wp_sealSiblings {shell : Shell} {names : List Name} {returned : Bool → Tablet → Prop}
    (next : ∀ result after, Frame tablet after → returned result after) :
    wp (machine disk) during exited (sealSiblings shell names) returned tablet := by
  induction names generalizing tablet with
  | nil => exact next true tablet (Frame.refl tablet)
  | cons name rest ih =>
      unfold sealSiblings
      rw [Prog.bind_eq, wp_bind]
      apply wp_isBlock calm
      intro one quiet
      have further : wp (machine disk) during exited (sealSiblings shell rest) returned one := by
        apply ih
        intro result after frame
        exact next result after (quiet.toFrame.trans frame)
      split
      · exact further
      split
      · exact further
      rw [Prog.bind_eq, wp_bind]
      apply wp_flag calm rfl
      intro works two frameTwo
      have front := quiet.toFrame.trans frameTwo
      split
      · apply ih
        intro result after frame
        exact next result after (front.trans frame)
      · exact next false two front

end Nodes

end Liuqin.Initramfs
