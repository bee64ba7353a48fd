/-
The storage guard of the booted system (liuqin-gnome-storage-guard).

The guard knows the root and the home partition from the mount table and the init
script knew them from names and labels.  A pass leaves every other node read-only;
and what the init script hands over, mounted as it may be, passes.
-/

import Liuqin.Initramfs.Boot

namespace Liuqin.Initramfs

open Liuqin.Library Liuqin.Library.Program
open Liuqin.Library.Lines (Text endedLines keptByRead splitWords strstr)

/-! ### The mount table -/

structure MountLine where
  source : Text
  target : Text
  fstype : Text
  options : Text
  deriving DecidableEq, Repr

/-- `IFS=' ' read -r source target fstype options _` -/
def readMount (line : Text) : MountLine :=
  let words := splitWords (fun char => char == ' ') [] (keptByRead line)
  { source := words.getD 0 []
    target := words.getD 1 []
    fstype := words.getD 2 []
    options := words.getD 3 [] }

def mountLines (text : Text) : List MountLine := (endedLines text).map readMount

def devPath (name : Name) : Text := "/dev/".toList ++ name.toList

/-- "$dev_root"/sda[0-9]* -/
def lunPath (path : Text) : Bool :=
  "/dev/sda".toList.isPrefixOf path && (path.drop 8).head?.any Char.isDigit

/-- *,rw,* -/
def readWrite (options : Text) : Bool := strstr ",rw,".toList (',' :: (options ++ [',']))

def MountLine.isRoot (line : MountLine) : Bool := line.target == "/".toList

def MountLine.isHome (line : MountLine) : Bool := line.target == "/home".toList

/-- The tests of a mount on the first LUN. -/
def MountLine.fits (line : MountLine) : Bool :=
  lunPath line.source && line.fstype == "ext4".toList && readWrite line.options

/-- The variables of the loop over the table. -/
structure Table where
  roots : Nat
  root : Text
  homes : Nat
  home : Option MountLine
  deriving DecidableEq, Repr

def Table.empty : Table :=
  { roots := 0
    root := []
    homes := 0
    home := none }

/-- One round of the loop; none where it fails. -/
def Table.read (table : Table) (line : MountLine) : Option Table :=
  if line.isRoot = true then
    if line.fits = true then
      some { table with roots := table.roots + 1, root := line.source }
    else none
  else if line.isHome = true then
    some { table with homes := table.homes + 1, home := some line }
  else some table

def readTable (text : Text) : Option Table := (mountLines text).foldlM Table.read Table.empty

/-- home_source -/
def Table.homeSource (table : Table) : Option Text :=
  if table.homes = 1 then
    (table.home.filter fun line => line.fits && line.source != table.root).map MountLine.source
  else none

/-- The nodes of the pattern that stay writable. -/
def Table.excepts (table : Table) (path : Text) : Bool :=
  path == devPath parent || path == table.root || table.homeSource == some path

/-! ### The guard -/

def setroMoved (name : Name) : Script Bool := run (.setro .moved name)
def marker : Script Bool := run .marker
def mountTable : Script Text := run .mountTable
def remountRo : Script Unit := run .remountRo

/-- The loop over the nodes: their number, or none where it fails. -/
def guardNodes (excepts : Text → Bool) (total : Nat) : List Name → Script (Option Nat)
  | [] => return some total
  | name :: rest => do
      let block ← isBlock .moved name
      if block = false then guardNodes excepts total rest
      else if excepts (devPath name) = true then
        let ro ← getro .moved name
        if ro = some false then guardNodes excepts (total + 1) rest else return none
      else
        let works ← setroMoved name
        if works = false then return none
        else
          let ro ← getro .moved name
          if ro = some true then guardNodes excepts (total + 1) rest else return none

/-- `fail` -/
def fail : Script Empty := do
  remountRo
  .exit 1

def guard : Script Empty := do
  let stands ← marker
  if stands = false then fail
  else
    let text ← mountTable
    match readTable text with
    | none => fail
    | some table =>
        if table.roots ≠ 1 then fail
        else
          let nodes ← glob .moved
          match ← guardNodes table.excepts 0 nodes with
          | none => fail
          | some total => if total < 2 then fail else .exit 0

/-! ### What the table says -/

/-- The variables after these lines. -/
def Table.after (table : Table) (lines : List MountLine) : Table :=
  { roots := table.roots + (lines.filter MountLine.isRoot).length
    root := ((lines.filter MountLine.isRoot).getLast?.map MountLine.source).getD table.root
    homes := table.homes + (lines.filter MountLine.isHome).length
    home := (lines.filter MountLine.isHome).getLast?.or table.home }

theorem root_not_home {line : MountLine} (root : line.isRoot = true) : line.isHome = false := by
  rw [MountLine.isRoot, beq_iff_eq] at root
  rw [MountLine.isHome, root]
  decide

theorem read_lines (table : Table) (lines : List MountLine) :
    lines.foldlM Table.read table =
      if ∀ line ∈ lines, line.isRoot = true → line.fits = true then some (table.after lines)
      else none := by
  induction lines generalizing table with
  | nil =>
      rw [if_pos fun _ impossible => nomatch impossible]
      rfl
  | cons line rest ih =>
      rw [List.foldlM_cons, Table.read]
      by_cases root : line.isRoot = true
      · rw [if_pos root]
        by_cases fits : line.fits = true
        · rw [if_pos fits, Option.bind_eq_bind, Option.bind_some, ih]
          have after : { table with roots := table.roots + 1, root := line.source }.after rest =
              table.after (line :: rest) := by
            simp only [Table.after, List.filter_cons, root, root_not_home root, if_true,
              Bool.false_eq_true, if_false, List.length_cons, List.getLast?_cons, Option.map_some,
              Option.getD_some, Table.mk.injEq, and_true]
            constructor
            · omega
            · cases (rest.filter MountLine.isRoot).getLast? <;> rfl
          rw [after]
          simp only [List.forall_mem_cons, root, fits, true_implies, true_and]
        · rw [if_neg fits, if_neg]
          · rfl
          · intro every
            exact fits (every line List.mem_cons_self root)
      · rw [if_neg root]
        by_cases home : line.isHome = true
        · rw [if_pos home, Option.bind_eq_bind, Option.bind_some, ih]
          have after : { table with homes := table.homes + 1, home := some line }.after rest =
              table.after (line :: rest) := by
            simp only [Table.after, List.filter_cons, root, home, if_true, if_false,
              Bool.false_eq_true, List.length_cons, List.getLast?_cons, Table.mk.injEq, true_and]
            constructor
            · omega
            · cases (rest.filter MountLine.isHome).getLast? <;> rfl
          rw [after]
          simp only [List.forall_mem_cons, root, Bool.false_eq_true, false_implies, true_and]
        · rw [if_neg home, Option.bind_eq_bind, Option.bind_some, ih]
          have after : table.after rest = table.after (line :: rest) := by
            simp only [Table.after, List.filter_cons, root, home, if_false, Bool.false_eq_true]
          rw [after]
          simp only [List.forall_mem_cons, root, Bool.false_eq_true, false_implies, true_and]

/-- The one home that is in order. -/
def admittedHome (root : MountLine) : List MountLine → List Text
  | [home] => if home.fits = true ∧ home.source ≠ root.source then [home.source] else []
  | _ => []

/-- The paths that a pass leaves writable: sda, the root and the home. -/
def admitted (lines : List MountLine) (root : MountLine) : List Text :=
  devPath parent :: root.source :: admittedHome root (lines.filter MountLine.isHome)

/-- home_source is the home that is in order. -/
theorem homeSource_after {lines : List MountLine} {root : MountLine}
    (only : lines.filter MountLine.isRoot = [root]) (path : Text) :
    ((Table.empty.after lines).homeSource = some path) ↔
      path ∈ admittedHome root (lines.filter MountLine.isHome) := by
  have source : (Table.empty.after lines).root = root.source := by
    rw [Table.after, only]
    rfl
  have count : (Table.empty.after lines).homes = (lines.filter MountLine.isHome).length :=
    Nat.zero_add _
  have last : (Table.empty.after lines).home = (lines.filter MountLine.isHome).getLast? :=
    Option.or_none
  rw [Table.homeSource, source, count, last]
  match lines.filter MountLine.isHome with
  | [] => exact ⟨fun impossible => (nomatch impossible), fun impossible => (nomatch impossible)⟩
  | first :: second :: rest =>
      rw [if_neg (by rw [List.length_cons, List.length_cons]; omega)]
      exact ⟨fun impossible => (nomatch impossible), fun impossible => (nomatch impossible)⟩
  | [home] =>
      rw [if_pos List.length_singleton, admittedHome, List.getLast?_singleton]
      by_cases fit : home.fits = true ∧ home.source ≠ root.source
      · rw [if_pos fit, List.mem_singleton, Option.filter_some, if_pos (by
          rw [Bool.and_eq_true, bne_iff_ne]
          exact fit), Option.map_some, Option.some.injEq, eq_comm]
      · rw [if_neg fit, Option.filter_some, if_neg (by
          rw [Bool.and_eq_true, bne_iff_ne]
          exact fit)]
        exact ⟨fun impossible => (nomatch impossible), fun impossible => (nomatch impossible)⟩

/-- A table that gives exactly one root gives it from its one line. -/
theorem readTable_one {text : Text} {table : Table} (read : readTable text = some table)
    (one : table.roots = 1) :
    ∃ root, (mountLines text).filter MountLine.isRoot = [root] ∧ root.fits = true ∧
      ∀ path, table.excepts path = decide (path ∈ admitted (mountLines text) root) := by
  rw [readTable, read_lines] at read
  split at read
  · rename_i every
    have same := Option.some.inj read
    subst same
    have single : ((mountLines text).filter MountLine.isRoot).length = 1 := by
      have count : 0 + ((mountLines text).filter MountLine.isRoot).length = 1 := one
      omega
    obtain ⟨root, only⟩ := List.length_eq_one_iff.mp single
    have member : root ∈ (mountLines text).filter MountLine.isRoot := by
      rw [only]
      exact List.mem_singleton_self root
    obtain ⟨inside, isRoot⟩ := List.mem_filter.mp member
    refine ⟨root, only, every root inside isRoot, ?_⟩
    intro path
    have source : (Table.empty.after (mountLines text)).root = root.source := by
      rw [Table.after, only]
      rfl
    rw [Table.excepts, source, admitted, Bool.eq_iff_iff, decide_eq_true_iff, Bool.or_eq_true,
      Bool.or_eq_true, beq_iff_eq, beq_iff_eq, beq_iff_eq, homeSource_after only, List.mem_cons,
      List.mem_cons, or_assoc]
  · cases read

/-! ### What a pass has sealed -/

/-- Nodes may become read-only, and nothing else happens. -/
structure Sealing (before after : Tablet) : Prop extends Frame before after where
  looked : after.looked = before.looked
  entries : after.changes = before.changes → after.entries = before.entries
  own : after.changes = before.changes → ∀ name, before.own name = true → after.own name = true

section Sealing

variable {disk : Name → Option Name} {first second third before after : Tablet}

theorem Quiet.sealing (quiet : Quiet before after) : Sealing before after := by
  constructor
  · exact quiet.toFrame
  · exact quiet.looked
  · exact quiet.entries
  · intro same name own
    rw [quiet.own same]
    exact own

theorem Sealing.trans (one : Sealing first second) (two : Sealing second third) :
    Sealing first third := by
  constructor
  · exact one.toFrame.trans two.toFrame
  · exact two.looked.trans one.looked
  · intro same
    obtain ⟨left, right⟩ := one.toFrame.between two.toFrame same
    exact (two.entries right).trans (one.entries left)
  · intro same name own
    obtain ⟨left, right⟩ := one.toFrame.between two.toFrame same
    exact two.own right name (one.own left name own)

theorem sealing_setFlag (tablet : Tablet) (dir : Dir) (name : Name) (outcome : Bool × Bool) :
    Sealing tablet (tablet.setFlag dir name true outcome).2 := by
  have frame := frame_setFlag tablet dir name true outcome
  rw [Tablet.setFlag] at frame ⊢
  cases tablet.device dir name with
  | none => exact (Quiet.refl tablet).sealing
  | some device =>
      dsimp only at frame ⊢
      split
      · constructor
        · exact ⟨rfl, rfl, rfl, List.suffix_rfl, Nat.le_refl _⟩
        · rfl
        · exact fun _ => rfl
        · intro _ other own
          show Function.update tablet.own device true other = true
          by_cases same : other = device
          · rw [same, Function.update_self]
          · rw [Function.update_of_ne same]
            exact own
      · exact (Quiet.refl tablet).sealing

theorem Sealing.ro (sealing : Sealing before after) (same : after.changes = before.changes)
    {name : Name} (sealed : before.ro disk name = true) : after.ro disk name = true := by
  rw [Tablet.ro, Bool.or_eq_true] at sealed ⊢
  rcases sealed with itself | whole
  · exact Or.inl (sealing.own same name itself)
  · right
    cases front : disk name with
    | none =>
        rw [front] at whole
        cases whole
    | some above =>
        rw [front, Option.any_some] at whole
        exact sealing.own same above whole

theorem Sealing.entry (sealing : Sealing before after) (same : after.changes = before.changes)
    (dir : Dir) (name : Name) : after.entry dir name = before.entry dir name := by
  rw [Tablet.entry, Tablet.entry, Tablet.here, Tablet.here, sealing.moved, sealing.entries same]

end Sealing

section Sealed

variable {disk : Name → Option Name} {during : Op → Tablet → Prop} {exited : Nat → Tablet → Prop}
  {tablet : Tablet} (calm : Calm during)
include calm

theorem wp_setroMoved {name : Name} {returned : Bool → Tablet → Prop}
    (next : ∀ works after, Sealing tablet after → returned works after) :
    wp (machine disk) during exited (setroMoved name) returned tablet := by
  apply wp_step calm rfl
  intro outcome after quiet
  exact next _ after ((sealing_setFlag tablet .moved name outcome).trans quiet.sealing)

/-- Each node that a pass of the loop does not except is read-only. -/
theorem wp_guardNodes {excepts : Text → Bool} {total : Nat} {names : List Name}
    {returned : Option Nat → Tablet → Prop}
    (next : ∀ result after, Sealing tablet after →
      (result.isSome = true → after.changes = tablet.changes → ∀ name ∈ names,
        excepts (devPath name) = false → tablet.entry .moved name = some .node →
          after.ro disk name = true) → returned result after) :
    wp (machine disk) during exited (guardNodes excepts total names) returned tablet := by
  induction names generalizing total tablet with
  | nil =>
      exact next _ tablet (Quiet.refl tablet).sealing fun _ _ _ impossible => nomatch impossible
  | cons name rest ih =>
      unfold guardNodes
      rw [Prog.bind_eq, wp_bind]
      apply wp_isBlock calm
      intro one quietOne
      -- what the rest of the loop adds to a front in which this node was dealt with
      have further : ∀ {middle : Tablet} {count : Nat}, Sealing tablet middle →
          (middle.changes = tablet.changes → excepts (devPath name) = false →
            tablet.entry .moved name = some .node → middle.ro disk name = true) →
          wp (machine disk) during exited (guardNodes excepts count rest) returned middle := by
        intro middle count sealing dealt
        apply ih
        intro result after later facts
        apply next result after (sealing.trans later)
        intro passed same other member sibling node
        obtain ⟨left, right⟩ := sealing.toFrame.between later.toFrame same
        rcases List.mem_cons.mp member with here | there
        · rw [here] at sibling node ⊢
          exact later.ro right (dealt left sibling node)
        · apply facts passed right other there sibling
          rw [sealing.entry left]
          exact node
      have failed : ∀ {after : Tablet}, Sealing tablet after → returned none after :=
        fun sealing => next none _ sealing fun impossible => nomatch impossible
      split
      · rename_i alien
        apply further quietOne.sealing
        intro _ _ node
        rw [device_of_node node] at alien
        cases alien
      split
      · rename_i excepted
        rw [Prog.bind_eq, wp_bind]
        apply wp_getro calm
        intro reply two quietTwo _
        have sealing := (quietOne.trans quietTwo).sealing
        split
        · apply further sealing
          intro _ sibling
          rw [excepted] at sibling
          cases sibling
        · exact failed sealing
      · rw [Prog.bind_eq, wp_bind]
        apply wp_setroMoved calm
        intro works two sealingTwo
        have untilTwo := quietOne.sealing.trans sealingTwo
        split
        · exact failed untilTwo
        rw [Prog.bind_eq, wp_bind]
        apply wp_getro calm
        intro reply three quietThree told
        have untilThree := untilTwo.trans quietThree.sealing
        split
        · rename_i closed
          apply further untilThree
          intro same _ node
          obtain ⟨left, right⟩ := untilTwo.toFrame.between quietThree.toFrame same
          rw [quietThree.toStill.ro right]
          apply ro_of_node _ (told true closed)
          rw [untilTwo.entry left]
          exact node
        · exact failed untilThree

/-- The table shows one root, in order, and every node that it does not admit is
read-only, unless nodes came or went after the glob. -/
def Passed (disk : Name → Option Name) (tablet : Tablet) : Prop :=
  ∃ text root, Event.mountTable text ∈ tablet.history ∧
    (mountLines text).filter MountLine.isRoot = [root] ∧ root.fits = true ∧
    (tablet.changes = tablet.looked → ∀ name, tablet.entry .moved name = some .node →
      devPath name ∉ admitted (mountLines text) root → tablet.ro disk name = true)

theorem wp_mountTable {returned : Text → Tablet → Prop}
    (next : ∀ text after, Event.mountTable text ∈ after.history → returned text after) :
    wp (machine disk) during exited mountTable returned tablet := by
  apply wp_step calm rfl
  intro text after quiet
  apply next text after
  rw [quiet.saw]
  exact List.mem_cons_self

theorem wp_fail (refuses : ∀ last, exited 1 last) {returned : Empty → Tablet → Prop} :
    wp (machine disk) during exited fail returned tablet := by
  unfold fail
  rw [Prog.bind_eq, wp_bind]
  apply wp_ask calm rfl
  exact fun _ last _ => refuses last

theorem wp_guard (refuses : ∀ last, exited 1 last)
    (accepts : ∀ last, Passed disk last → exited 0 last) {returned : Empty → Tablet → Prop} :
    wp (machine disk) during exited guard returned tablet := by
  unfold guard
  rw [Prog.bind_eq, wp_bind]
  apply wp_ask calm rfl
  intro stands one _
  split
  · exact wp_fail calm refuses
  rw [Prog.bind_eq, wp_bind]
  apply wp_mountTable calm
  intro text two asked
  cases read : readTable text with
  | none => exact wp_fail calm refuses
  | some table =>
      dsimp only
      split
      · exact wp_fail calm refuses
      rename_i single
      obtain ⟨root, only, fits, excepts⟩ := readTable_one read (not_not.mp single)
      rw [Prog.bind_eq, wp_bind]
      apply wp_glob calm
      intro three globbed
      rw [Prog.bind_eq, wp_bind]
      apply wp_guardNodes calm
      intro result four sealing sealed
      cases result with
      | none => exact wp_fail calm refuses
      | some total =>
          dsimp only
          split
          · exact wp_fail calm refuses
          apply accepts
          refine ⟨text, root, ?_, only, fits, ?_⟩
          · apply sealing.history.subset
            rw [globbed.saw]
            exact List.mem_cons_of_mem _ asked
          · intro unchanged name node sibling
            have low := globbed.changes
            have high := sealing.changes
            have looked := sealing.looked.trans globbed.looked
            have atThree : three.changes = two.changes := by omega
            have atFour : four.changes = three.changes := by omega
            have nodeThree : three.entry .moved name = some .node := by
              rw [← sealing.entry atFour]
              exact node
            have nodeTwo : two.entry .moved name = some .node := by
              rw [← globbed.entry atThree]
              exact nodeThree
            have here : two.here .moved = true := by
              by_contra elsewhere
              rw [Tablet.entry, if_neg elsewhere] at nodeTwo
              cases nodeTwo
            apply sealed rfl atFour name _ _ nodeThree
            · rw [if_pos here]
              rw [entry_here here] at nodeTwo
              exact mem_of_lookup nodeTwo
            · rw [excepts, decide_eq_false sibling]

end Sealed

/-- A guard that exits 0 leaves no node writable but sda, the source of the one root
mount and a home in order. -/
theorem guard_seals {disk : Name → Option Name} {tablet last : Tablet}
    (run : Reaches (machine disk) (guard, tablet) (.exit 0, last)) : Passed disk last := by
  have holds : wp (machine disk) (fun _ _ => True) (fun status last => status = 0 → Passed disk last)
      guard (fun _ _ => True) tablet := by
    apply wp_guard fun _ _ _ => trivial
    · exact fun _ impossible => nomatch impossible
    · exact fun _ passed _ => passed
  exact wp_sound holds run rfl

def referenceMounts : Text :=
  "/dev/sda34 / ext4 rw,noatime 0 0\n/dev/sda35 /home ext4 rw,relatime 0 0\n".toList

/-! ### What passes -/

/-- Each call works, and the table reads so. -/
def bootedChoice (text : Text) : (operation : Op) → Choice operation
  | .mountTable => text
  | operation => workingChoice true operation

def bootedFault (disk : Name → Option Name) (text : Text) (operation : Op) (_ : Tablet) :
    (machine disk).Fault operation :=
  (bootedChoice text operation, none)

/-- A pass over the reference nodes. -/
theorem guard_seals_reference : ∃ last, Passed referenceDisk last := by
  have run := exits_of_play (machine referenceDisk)
    (fun _ => bootedFault referenceDisk referenceMounts) 17
    (by decide +kernel : (play (machine referenceDisk)
      (fun _ => bootedFault referenceDisk referenceMounts) 17
      (guard, { Tablet.start referenceEntries fun _ => false with moved := true })).1.status = some 0)
  exact ⟨_, guard_seals run⟩

/-- The flags after the loop. -/
def sealedOwn (excepts : Text → Bool) (names : List Name) (own : Name → Bool) (name : Name) : Bool :=
  own name || (decide (name ∈ names) && !excepts (devPath name))

section Accepts

variable {disk : Name → Option Name} {text : Text} {excepts : Text → Bool} {tablet : Tablet}

theorem sealedOwn_excepted {names : List Name} {own : Name → Bool} {name : Name}
    (excepted : excepts (devPath name) = true) : sealedOwn excepts names own name = own name := by
  rw [sealedOwn, excepted, Bool.not_true, Bool.and_false, Bool.or_false]

theorem sealedOwn_cons_excepted {names : List Name} {own : Name → Bool} {name : Name}
    (excepted : excepts (devPath name) = true) :
    sealedOwn excepts (name :: names) own = sealedOwn excepts names own := by
  funext other
  by_cases same : other = name
  · rw [same, sealedOwn_excepted excepted, sealedOwn_excepted excepted]
  · rw [sealedOwn, sealedOwn]
    simp only [List.mem_cons, same, false_or]

theorem sealedOwn_cons_sibling {names : List Name} {own : Name → Bool} {name : Name}
    (sibling : excepts (devPath name) = false) :
    sealedOwn excepts (name :: names) own =
      sealedOwn excepts names (Function.update own name true) := by
  funext other
  rw [sealedOwn, sealedOwn]
  by_cases same : other = name
  · rw [same, Function.update_self, sibling, decide_eq_true List.mem_cons_self, Bool.not_false,
      Bool.and_true, Bool.or_true, Bool.true_or]
  · rw [Function.update_of_ne same]
    simp only [List.mem_cons, same, false_or]

/-- The loop over nodes that stand as it wants them. -/
theorem settle_guardNodes {total : Nat} {names : List Name}
    (nodes : ∀ name ∈ names, tablet.entry .moved name = some .node)
    (above : ∀ name whole, excepts (devPath name) = true → disk name = some whole →
      excepts (devPath whole) = true)
    (writable : ∀ name ∈ names, excepts (devPath name) = true → tablet.ro disk name = false) :
    settle (machine disk) (bootedFault disk text) (guardNodes excepts total names) tablet =
      (.ok (some (total + names.length)),
        { tablet with own := sealedOwn excepts names tablet.own }) := by
  induction names generalizing total tablet with
  | nil =>
      have own : sealedOwn excepts [] tablet.own = tablet.own := by
        funext name
        rw [sealedOwn, decide_eq_false List.not_mem_nil, Bool.false_and, Bool.or_false]
      rw [own]
      rfl
  | cons name rest ih =>
      have device := device_of_node (nodes name List.mem_cons_self)
      have block : settle (machine disk) (bootedFault disk text) (isBlock .moved name) tablet =
          (.ok true, tablet) := by
        show (Except.ok (tablet.device .moved name).isSome, tablet) = _
        rw [device]
        rfl
      have count : total + 1 + rest.length = total + (name :: rest).length := by
        rw [List.length_cons]
        omega
      unfold guardNodes
      rw [Prog.bind_eq, settle_bind, block]
      dsimp only
      rw [if_neg (by decide)]
      by_cases excepted : excepts (devPath name) = true
      · have free := writable name List.mem_cons_self excepted
        have told : settle (machine disk) (bootedFault disk text) (getro .moved name) tablet =
            (.ok (some false), tablet) := by
          show (Except.ok ((tablet.device .moved name).map (tablet.ro disk)), tablet) = _
          rw [device, Option.map_some, free]
        rw [if_pos excepted, Prog.bind_eq, settle_bind, told]
        dsimp only
        rw [if_pos rfl, ih, count, sealedOwn_cons_excepted excepted]
        · exact fun other member => nodes other (List.mem_cons_of_mem _ member)
        · exact fun other member => writable other (List.mem_cons_of_mem _ member)
      · have sibling : excepts (devPath name) = false := Bool.not_eq_true _ ▸ excepted
        have locked : settle (machine disk) (bootedFault disk text) (setroMoved name) tablet =
            (.ok true, tablet.flag name true) := by
          show (Except.ok (tablet.setFlag .moved name true (true, true)).1,
            (tablet.setFlag .moved name true (true, true)).2) = _
          rw [Tablet.setFlag, device]
          rfl
        have told : settle (machine disk) (bootedFault disk text) (getro .moved name)
            (tablet.flag name true) = (.ok (some true), tablet.flag name true) := by
          show (Except.ok ((tablet.device .moved name).map ((tablet.flag name true).ro disk)),
            tablet.flag name true) = _
          have own : (tablet.flag name true).own name = true := Function.update_self ..
          rw [device, Option.map_some, Tablet.ro, own, Bool.true_or]
        rw [if_neg excepted, Prog.bind_eq, settle_bind, locked]
        dsimp only
        rw [if_neg (by decide), Prog.bind_eq, settle_bind, told]
        dsimp only
        rw [if_pos rfl, ih, count, sealedOwn_cons_sibling sibling]
        · rfl
        · exact fun other member => nodes other (List.mem_cons_of_mem _ member)
        · intro other member open_
          have free := writable other (List.mem_cons_of_mem _ member) open_
          have apart : ∀ {node : Name}, excepts (devPath node) = true → node ≠ name := by
            intro node admitted same
            rw [same, sibling] at admitted
            cases admitted
          rw [Tablet.ro, Bool.or_eq_false_iff] at free ⊢
          rw [Tablet.flag]
          dsimp only
          rw [Function.update_of_ne (apart open_)]
          refine ⟨free.1, ?_⟩
          cases whole : disk other with
          | none => rfl
          | some front =>
              rw [Option.any_some, Function.update_of_ne (apart (above other front open_ whole))]
              have kept := free.2
              rw [whole, Option.any_some] at kept
              exact kept

/-- The flags that the loop leaves. -/
theorem ro_sealed {names : List Name} {name : Name} (member : name ∈ names)
    (above : ∀ name whole, excepts (devPath name) = true → disk name = some whole →
      excepts (devPath whole) = true)
    (writable : excepts (devPath name) = true → tablet.ro disk name = false) :
    ({ tablet with own := sealedOwn excepts names tablet.own } : Tablet).ro disk name =
      !excepts (devPath name) := by
  show (sealedOwn excepts names tablet.own name ||
    (disk name).any (sealedOwn excepts names tablet.own)) = _
  cases excepted : excepts (devPath name) with
  | false =>
      rw [sealedOwn, decide_eq_true member, excepted, Bool.not_false, Bool.and_true, Bool.or_true,
        Bool.true_or]
  | true =>
      have free := writable excepted
      rw [Tablet.ro, Bool.or_eq_false_iff] at free
      rw [sealedOwn_excepted excepted, free.1, Bool.false_or]
      cases under : disk name with
      | none => rfl
      | some whole =>
          have kept := free.2
          rw [under, Option.any_some] at kept
          rw [Option.any_some, sealedOwn_excepted (above name whole excepted under), kept]
          rfl

end Accepts

/-- How the kernel names disks: the partitions of sda are sda1, sda2 and so on. -/
structure Named (disk : Name → Option Name) : Prop where
  partition : ∀ name, onFirstLun name = true → disk name = some parent
  whole : disk parent = none

/-- What the mount table shows of the tablet that was handed over: its root, once,
and no home that is mounted for writing on a read-only node. -/
structure Shows (disk : Name → Option Name) (tablet : Tablet) (text : Text) (root : MountLine) :
    Prop where
  only : (mountLines text).filter MountLine.isRoot = [root]
  root : ∃ mount, tablet.newroot = [mount] ∧ root.source = devPath mount.source ∧
    root.fstype = "ext4".toList ∧ readWrite root.options = mount.writable
  home : ∀ home ∈ mountLines text, home.isHome = true → readWrite home.options = true →
    ∀ name, home.source = devPath name → tablet.ro disk name = false

theorem devPath_injective {one other : Name} (same : devPath one = devPath other) : one = other :=
  String.toList_inj.mp (List.append_cancel_left same)

theorem lunPath_devPath (name : Name) : lunPath (devPath name) = onFirstLun name := by
  have front : lunPath (devPath name) =
      (['s', 'd', 'a'].isPrefixOf name.toList && (name.toList.drop 3).head?.any Char.isDigit) := by
    rw [lunPath, devPath, Bool.eq_iff_iff, Bool.and_eq_true, Bool.and_eq_true,
      List.isPrefixOf_iff_prefix, List.isPrefixOf_iff_prefix,
      show "/dev/sda".toList = "/dev/".toList ++ ['s', 'd', 'a'] by decide,
      List.prefix_append_right_inj]
    rfl
  rw [front, onFirstLun]
  split
  · rename_i chars
    rw [chars]
    rfl
  · rename_i other
    rw [Bool.and_eq_false_iff]
    by_contra both
    rw [not_or, Bool.not_eq_false, Bool.not_eq_false, List.isPrefixOf_iff_prefix] at both
    obtain ⟨⟨rest, chars⟩, digit⟩ := both
    rw [← chars] at digit
    cases rest with
    | nil => cases digit
    | cons char rest => exact other char rest chars.symm

theorem Chosen.lun {history : List Event} {partname : PartName} {name : Name}
    (chosen : Chosen history partname name) : onFirstLun name = true := by
  cases chosen with
  | linuxRoot _ only => exact only.lun
  | userdata _ _ only => exact only.lun

theorem mem_admittedHome {root : MountLine} {homes : List MountLine} {path : Text}
    (member : path ∈ admittedHome root homes) :
    ∃ home ∈ homes, home.fits = true ∧ path = home.source := by
  match homes, member with
  | [home], member =>
      rw [admittedHome] at member
      split at member
      · rename_i fit
        exact ⟨home, List.mem_singleton_self home, fit.1, List.mem_singleton.mp member⟩
      · cases member

section Accepts

variable {disk : Name → Option Name} {last : Tablet} {text : Text} {root : MountLine}
  {shell : Shell}

/-- The root mount of what was handed over. -/
theorem Shows.fits (shows : Shows disk last text root) (prepared : Prepared shell last) :
    root.source = devPath shell.target ∧ root.fits = true := by
  obtain ⟨mount, newroot, source, fstype, options⟩ := shows.root
  rw [prepared.newroot, List.cons.injEq] at newroot
  rw [← newroot.1] at source options
  obtain ⟨partname, _, chosen⟩ := prepared.rooted.chosen
  refine ⟨source, ?_⟩
  rw [MountLine.fits, source, lunPath_devPath, chosen.lun, fstype, options]
  rfl

/-- The variables of the guard after such a table. -/
theorem Shows.read (shows : Shows disk last text root) (fits : root.fits = true) :
    ∃ table, readTable text = some table ∧ table.roots = 1 ∧
      ∀ path, table.excepts path = decide (path ∈ admitted (mountLines text) root) := by
  have whole : readTable text = some (Table.empty.after (mountLines text)) := by
    rw [readTable, read_lines, if_pos]
    intro line member isRoot
    have inside : line ∈ (mountLines text).filter MountLine.isRoot :=
      List.mem_filter.mpr ⟨member, isRoot⟩
    rw [shows.only, List.mem_singleton] at inside
    rw [inside]
    exact fits
  have one : (Table.empty.after (mountLines text)).roots = 1 := by
    show 0 + ((mountLines text).filter MountLine.isRoot).length = 1
    rw [shows.only]
    rfl
  obtain ⟨other, only, _, excepts⟩ := readTable_one whole one
  rw [shows.only, List.cons.injEq] at only
  rw [← only.1] at excepts
  exact ⟨_, whole, one, excepts⟩

/-- A node that the table admits was handed over writable, and so was its disk. -/
theorem Shows.writable (shows : Shows disk last text root) (named : Named disk)
    (prepared : Prepared shell last) (front : last.ro disk parent = false)
    (target : last.ro disk shell.target = false) {name : Name}
    (member : devPath name ∈ admitted (mountLines text) root) :
    last.ro disk name = false ∧ ∀ whole, disk name = some whole → whole = parent := by
  have under : ∀ {node : Name}, onFirstLun node = true → ∀ whole, disk node = some whole →
      whole = parent := by
    intro node lun whole above
    rw [named.partition node lun] at above
    exact (Option.some.inj above).symm
  obtain ⟨source, fits⟩ := shows.fits prepared
  rw [admitted, List.mem_cons, List.mem_cons, source] at member
  rcases member with isParent | isTarget | isHome
  · rw [devPath_injective isParent]
    refine ⟨front, ?_⟩
    intro whole above
    rw [named.whole] at above
    cases above
  · rw [devPath_injective isTarget]
    obtain ⟨partname, _, chosen⟩ := prepared.rooted.chosen
    exact ⟨target, under chosen.lun⟩
  · obtain ⟨home, among, fit, path⟩ := mem_admittedHome isHome
    obtain ⟨inside, isHome⟩ := List.mem_filter.mp among
    rw [MountLine.fits, ← path, lunPath_devPath, Bool.and_eq_true, Bool.and_eq_true] at fit
    exact ⟨shows.home home inside isHome fit.2 name path.symm, under fit.1.1⟩

theorem two_of_members {names : List Name} {one other : Name} (first : one ∈ names)
    (second : other ∈ names) (apart : one ≠ other) : 2 ≤ names.length := by
  match names, first, second with
  | [name], first, second =>
      rw [List.mem_singleton] at first second
      exact absurd (first.trans second.symm) apart
  | _ :: _ :: _, _, _ =>
      rw [List.length_cons, List.length_cons]
      omega

end Accepts

/-- What the init script hands over passes: the guard exits 0, and the nodes that the
mount table admits stay writable beside sealed ones. -/
theorem guard_accepts {disk : Name → Option Name} {image : Image} {entries : Entries}
    {own : Name → Bool} {next : Reply .switchRoot → Script Empty} {last : Tablet} {text : Text}
    {root : MountLine} (named : Named disk)
    (run : Reaches (machine disk) (main image, Tablet.start entries own)
      (.act .switchRoot next, last)) (unchanged : last.changes = last.looked)
    (shows : Shows disk last text root) :
    ∃ after, settle (machine disk) (bootedFault disk text) guard last = (.error 0, after) ∧
      ∀ name, last.entry .moved name = some .node →
        after.ro disk name = !decide (devPath name ∈ admitted (mountLines text) root) := by
  obtain ⟨shell, prepared, checked⟩ := handoff_exact run rfl
  obtain ⟨collected, frontMember, targetMember, flags⟩ := checked unchanged
  have front : last.ro disk parent = false := by
    rw [flags parent frontMember, Shell.opens, beq_self_eq_true]
    rfl
  have target : last.ro disk shell.target = false := by
    rw [flags shell.target targetMember, Shell.opens, beq_self_eq_true, Bool.or_true]
    rfl
  obtain ⟨_, fits⟩ := shows.fits prepared
  obtain ⟨table, read, one, excepts⟩ := shows.read fits
  have writable : ∀ {name : Name}, table.excepts (devPath name) = true →
      last.ro disk name = false ∧ ∀ whole, disk name = some whole → whole = parent := by
    intro name excepted
    rw [excepts, decide_eq_true_iff] at excepted
    exact shows.writable named prepared front target excepted
  have above : ∀ name whole, table.excepts (devPath name) = true → disk name = some whole →
      table.excepts (devPath whole) = true := by
    intro name whole excepted under
    rw [(writable excepted).2 whole under, Table.excepts, beq_self_eq_true]
    rfl
  let looked : Tablet :=
    { (last.saw (.mountTable text)).saw (.globbed last.names) with looked := last.changes }
  have loop : settle (machine disk) (bootedFault disk text)
      (guardNodes table.excepts 0 shell.snapshot) looked =
        (.ok (some (0 + shell.snapshot.length)),
          { looked with own := sealedOwn table.excepts shell.snapshot last.own }) := by
    apply settle_guardNodes
    · exact collected.nodes
    · exact above
    · exact fun name _ excepted => (writable excepted).1
  have many : ¬0 + shell.snapshot.length < 2 := by
    have apart : parent ≠ shell.target := by
      obtain ⟨partname, _, chosen⟩ := prepared.rooted.chosen
      intro same
      have lun := chosen.lun
      rw [← same] at lun
      exact absurd lun (by decide)
    have two := two_of_members frontMember targetMember apart
    omega
  have globbed : settle (machine disk) (bootedFault disk text) (glob .moved)
      (last.saw (.mountTable text)) = (.ok shell.snapshot, looked) := by
    show (Except.ok (if last.here .moved = true then last.names else []),
      { (last.saw (.mountTable text)).saw (.globbed (if last.here .moved = true then last.names
        else [])) with looked := last.changes }) = _
    rw [if_pos collected.here, collected.all]
  refine ⟨{ looked with own := sealedOwn table.excepts shell.snapshot last.own }, ?_, ?_⟩
  · have marked : settle (machine disk) (bootedFault disk text) marker last = (.ok true, last) := rfl
    have told : settle (machine disk) (bootedFault disk text) mountTable last =
        (.ok text, last.saw (.mountTable text)) := rfl
    unfold guard
    rw [Prog.bind_eq, settle_bind, marked]
    dsimp only
    rw [if_neg (by decide), Prog.bind_eq, settle_bind, told]
    dsimp only
    rw [read]
    dsimp only
    rw [if_neg (not_not.mpr one), Prog.bind_eq, settle_bind, globbed]
    dsimp only
    rw [Prog.bind_eq, settle_bind, loop]
    dsimp only
    rw [if_neg many]
    rfl
  · intro name node
    have member : name ∈ shell.snapshot := by
      rw [collected.all]
      rw [entry_here collected.here] at node
      exact mem_of_lookup node
    rw [← excepts]
    exact ro_sealed member above fun excepted => (writable excepted).1

theorem reference_named : Named referenceDisk := by
  constructor
  · intro name lun
    rw [onFirstLun] at lun
    split at lun
    · rename_i chars
      rw [referenceDisk, chars, if_pos]
      · rfl
      · exact ⟨by rw [List.length_cons, List.length_cons, List.length_cons, List.length_cons]; omega,
          rfl⟩
    · cases lun
  · rfl

def referenceRoot : MountLine :=
  { source := devPath "sda34"
    target := "/".toList
    fstype := "ext4".toList
    options := "rw,noatime".toList }

def referenceHome : MountLine :=
  { source := devPath "sda35"
    target := "/home".toList
    fstype := "ext4".toList
    options := "rw,relatime".toList }

theorem reference_shows {last : Tablet}
    (newroot : last.newroot = [{ source := "sda34", writable := true }])
    (home : last.ro referenceDisk "sda35" = false) :
    Shows referenceDisk last referenceMounts referenceRoot := by
  have table : mountLines referenceMounts = [referenceRoot, referenceHome] := by decide +kernel
  constructor
  · rw [table]
    decide +kernel
  · exact ⟨_, newroot, rfl, rfl, by decide +kernel⟩
  · rw [table]
    intro line member isHome _ name source
    rcases List.mem_cons.mp member with first | second
    · rw [first] at isHome
      exact absurd isHome (by decide +kernel)
    · rw [List.mem_singleton.mp second] at source
      rw [← devPath_injective source]
      exact home

theorem guard_accepts_reference : ∃ after : Tablet,
    after.ro referenceDisk "sda34" = false ∧ after.ro referenceDisk "sda1" = true := by
  obtain ⟨next, run⟩ := acts_of_play (machine referenceDisk) (working true) 341
    (by decide +kernel : (play (machine referenceDisk) (working true) 341
      (main { persistent := true, subroot := true },
        Tablet.start referenceEntries fun _ => false)).1.pending = some .switchRoot)
  obtain ⟨after, _, flags⟩ := guard_accepts reference_named run (by decide +kernel)
    (reference_shows (by decide +kernel) (by decide +kernel))
  refine ⟨after, ?_, ?_⟩
  · rw [flags "sda34" (by decide +kernel)]
    decide +kernel
  · rw [flags "sda1" (by decide +kernel)]
    decide +kernel

end Liuqin.Initramfs
