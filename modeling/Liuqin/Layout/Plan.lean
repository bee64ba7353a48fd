/-
The tail layout computed by plan_layout (tools/lib/liuqin_layout.py).

The plan cuts the region from the start of userdata to the end of the usable
area.  Its boundaries are the greedy ones of `Library.Placement`, which is what
makes a refusal for lack of room a proof that no aligned layout exists.
-/

import Mathlib.Data.List.Chain
import Liuqin.Layout.Disk

namespace Liuqin.Layout

open Liuqin.Library.Checked
open Liuqin.Library.Placement

inductive Mode where
  | linuxOnly
  | dual
  deriving DecidableEq, Repr

inductive Action where
  | shrink
  | delete
  | create
  deriving DecidableEq, Repr

structure Entry where
  number : Nat
  name : String
  start : Int
  endOffset : Int
  action : Action
  detail : String
  deriving DecidableEq, Repr

def Entry.size (entry : Entry) : Int :=
  entry.endOffset - entry.start

def Entry.firstSector (entry : Entry) (sectorSize : Int) : Int :=
  entry.start / sectorSize

def Entry.lastSector (entry : Entry) (sectorSize : Int) : Int :=
  entry.endOffset / sectorSize - 1

structure Plan where
  mode : Mode
  disk : Disk
  entries : List Entry
  regionStart : Int
  regionEnd : Int
  keepHome : Bool
  deriving DecidableEq, Repr

def Plan.entry (plan : Plan) (name : String) : Option Entry :=
  plan.entries.find? (fun item => item.name == name)

def feasibleText (region : Int) (label : String) (minimum others : Int) : String :=
  label ++ " must be between " ++ human minimum ++ " and " ++ human (region - others) ++
    " on this " ++ human region ++ " region"

/-- The first entry: userdata shrunk in place, or deleted for Android size zero. -/
def userdataEntry (userdata : Partition) (regionStart regionEnd android : Int) : Entry :=
  if android ≠ 0 then
    { number := userdata.number
      name := userdataName
      start := regionStart
      endOffset := alignUp (regionStart + android)
      action := .shrink
      detail := "shrink from " ++ human userdata.size ++
        " (keep type GUID, unique GUID and attributes)" }
  else
    { number := userdata.number
      name := userdataName
      start := regionStart
      endOffset := regionEnd
      action := .delete
      detail := "delete (Ubuntu takes the whole tail; no Android data partition)" }

/-- Where linux_root starts: behind the kept userdata, or at the first aligned
offset of the region. -/
def rootStart (regionStart android : Int) : Int :=
  if android ≠ 0 then alignUp (regionStart + android) else alignUp regionStart

def rootEntry (start endOffset : Int) : Entry :=
  { number := rootNumber
    name := rootName
    start := start
    endOffset := endOffset
    action := .create
    detail := "create ext4 LABEL=" ++ rootLabel ++ " (Ubuntu system)" }

def homeEntry (start endOffset : Int) : Entry :=
  { number := homeNumber
    name := homeName
    start := start
    endOffset := endOffset
    action := .create
    detail := "create ext4 LABEL=" ++ homeLabel ++ " (mounted at /home)" }

/-- The last loop of the planner: every kept entry stays in the region and is
made of whole sectors. -/
def checkEntries (sectorSize regionStart regionEnd : Int) : List Entry → Except LayoutError Unit
  | [] => .ok ()
  | item :: rest => do
      if item.action ≠ .delete then
        refuseIf (item.endOffset > regionEnd ∨ item.start < regionStart)
          ⟨"the computed layout leaves the usable area of the disk"⟩
        refuseIf (item.start % sectorSize ≠ 0 ∨ item.endOffset % sectorSize ≠ 0)
          ⟨"the computed layout is not a whole number of sectors"⟩
      checkEntries sectorSize regionStart regionEnd rest

/-- Compute the tail layout.  `android` and `root` are byte counts. -/
def planLayout (disk : Disk) (mode : Mode) (android root : Int) (keepHome : Bool) :
    Except LayoutError Plan := do
  match ← disk.byName userdataName with
  | none => .error ⟨"the partition table has no userdata partition"⟩
  | some userdata =>
      let regionStart := userdata.start
      let regionEnd := disk.usableEnd
      let region := regionEnd - regionStart
      refuseIf (mode = .dual ∧ android = 0)
        ⟨"dual layout needs a non-zero --android-size; use --layout linux-only to remove Android entirely"⟩
      refuseIf (android ≠ 0 ∧ android < minAndroid)
        ⟨"--android-size " ++ human android ++ " is too small: " ++
          feasibleText region "the Android userdata partition" minAndroid (minRoot + minHome)⟩
      refuseIf (root < minRoot)
        ⟨"--root-size " ++ human root ++ " is too small: " ++
          feasibleText region "linux_root" minRoot (minHome + android)⟩
      let cursor := rootStart regionStart android
      let rootEnd := alignUp (cursor + root)
      refuseIf (rootEnd + minHome > regionEnd)
        ⟨"the requested sizes leave less than " ++ human minHome ++ " for linux_home: " ++
          feasibleText region "linux_root" minRoot (minHome + alignUp android)⟩
      let entries :=
        [userdataEntry userdata regionStart regionEnd android,
          rootEntry cursor rootEnd, homeEntry rootEnd regionEnd]
      refuseIf ((homeEntry rootEnd regionEnd).size < minHome)
        ⟨"linux_home would be " ++ human (homeEntry rootEnd regionEnd).size ++ ", below the " ++
          human minHome ++ " minimum"⟩
      checkEntries disk.sectorSize regionStart regionEnd entries
      return { mode := mode, disk := disk, entries := entries, regionStart := regionStart,
               regionEnd := regionEnd, keepHome := keepHome }

/-- The per-partition minima an operator's request has to meet. -/
def MeetsMinima (mode : Mode) (android root : Int) : Prop :=
  (minAndroid ≤ android ∨ mode = .linuxOnly ∧ android = 0) ∧ minRoot ≤ root

/-! ### Alignment at the fixed boundary -/

theorem alignment_pos : 0 < alignment := by decide

theorem le_alignUp (offset : Int) : offset ≤ alignUp offset :=
  le_ceilTo alignment_pos offset

theorem alignUp_lt (offset : Int) : alignUp offset < offset + alignment :=
  ceilTo_lt alignment_pos offset

theorem alignment_dvd_alignUp (offset : Int) : alignment ∣ alignUp offset :=
  step_dvd_ceilTo alignment offset

theorem sector_dvd_of_alignment_dvd {offset : Int} (aligned : alignment ∣ offset) :
    deviceSectorSize ∣ offset :=
  Int.dvd_trans (by decide) aligned

theorem rootStart_eq (start android : Int) :
    rootStart start android = alignUp (start + android) := by
  unfold rootStart
  by_cases kept : android = 0
  · simp [kept]
  · simp [kept]

/-- The planner's two boundaries are the greedy placement of the two requests. -/
theorem rootEnd_eq_finish (start android root : Int) :
    alignUp (rootStart start android + root) =
      finish start (greedy (ceilClosure alignment alignment_pos) start [android, root]) := by
  rw [rootStart_eq]
  rfl

/-! ### What a returned plan is -/

/-- The requests plan_layout accepts on a device table. -/
structure Admissible (disk : Disk) (userdata : Partition) (mode : Mode) (android root : Int) :
    Prop where
  dualKeeps : mode = .dual → android ≠ 0
  androidRoom : android ≠ 0 → minAndroid ≤ android
  rootRoom : minRoot ≤ root
  homeRoom : alignUp (rootStart userdata.start android + root) + minHome ≤ disk.usableEnd

/-- The plan an admissible request gets. -/
def tailPlan (disk : Disk) (userdata : Partition) (mode : Mode) (android root : Int)
    (keepHome : Bool) : Plan :=
  { mode := mode
    disk := disk
    entries :=
      [userdataEntry userdata userdata.start disk.usableEnd android,
        rootEntry (rootStart userdata.start android)
          (alignUp (rootStart userdata.start android + root)),
        homeEntry (alignUp (rootStart userdata.start android + root)) disk.usableEnd]
    regionStart := userdata.start
    regionEnd := disk.usableEnd
    keepHome := keepHome }

/-- The table of a valid GPT: entries in disk order, disjoint and inside the
usable range, all measured in the disk's own sectors. -/
structure ValidTable (disk : Disk) : Prop where
  uniform : ∀ item ∈ disk.partitions, item.sectorSize = disk.sectorSize
  extent : ∀ item ∈ disk.partitions, disk.firstUsable ≤ item.firstSector ∧
    item.firstSector ≤ item.lastSector ∧ item.lastSector ≤ disk.lastUsable
  ordered : disk.partitions.Pairwise (fun low high => low.lastSector < high.firstSector)

theorem StockDevice.sectorSize_eq {disk : Disk} {userdata : Partition}
    (device : StockDevice disk userdata) (valid : ValidTable disk) :
    userdata.sectorSize = deviceSectorSize :=
  (valid.uniform userdata (Disk.byName_mem device.named).1).trans device.sector

theorem StockDevice.endOffset_eq {disk : Disk} {userdata : Partition}
    (device : StockDevice disk userdata) (valid : ValidTable disk) :
    userdata.endOffset = disk.usableEnd := by
  unfold Partition.endOffset Disk.usableEnd
  rw [device.full, device.sectorSize_eq valid, device.sector]

theorem StockDevice.sector_dvd_start {disk : Disk} {userdata : Partition}
    (device : StockDevice disk userdata) (valid : ValidTable disk) :
    disk.sectorSize ∣ userdata.start := by
  unfold Partition.start
  rw [device.sectorSize_eq valid, device.sector]
  exact Int.dvd_mul_left _ _

theorem StockDevice.sector_dvd_of_aligned {disk : Disk} {userdata : Partition}
    (device : StockDevice disk userdata) {offset : Int} (aligned : alignment ∣ offset) :
    disk.sectorSize ∣ offset := by
  rw [device.sector]
  exact sector_dvd_of_alignment_dvd aligned

theorem checkEntries_eq_ok (sectorSize regionStart regionEnd : Int) (entries : List Entry) :
    checkEntries sectorSize regionStart regionEnd entries = .ok () ↔
      ∀ item ∈ entries, item.action ≠ .delete →
        item.endOffset ≤ regionEnd ∧ regionStart ≤ item.start ∧
          item.start % sectorSize = 0 ∧ item.endOffset % sectorSize = 0 := by
  induction entries with
  | nil => simp [checkEntries]
  | cons item rest ih =>
      by_cases deleted : item.action = .delete
      · simp [checkEntries, deleted, ih]
      · simp [checkEntries, deleted, ih, not_or, and_assoc]

/-- The final loop never refuses a plan that reached it. -/
theorem checkEntries_tailPlan {disk : Disk} {userdata : Partition} {mode : Mode}
    {android root : Int} (valid : ValidTable disk) (device : StockDevice disk userdata)
    (request : Admissible disk userdata mode android root) (keepHome : Bool) :
    checkEntries disk.sectorSize userdata.start disk.usableEnd
      (tailPlan disk userdata mode android root keepHome).entries = .ok () := by
  have homeRoom := request.homeRoom
  have rootRoom := request.rootRoom
  have minimum : (0 : Int) < minRoot ∧ 0 < minHome ∧ 0 < minAndroid := by decide
  have rootAbove := le_alignUp (rootStart userdata.start android + root)
  have rootLine := device.sector_dvd_of_aligned (alignment_dvd_alignUp
    (rootStart userdata.start android + root))
  have startLine : disk.sectorSize ∣ rootStart userdata.start android := by
    rw [rootStart_eq]
    exact device.sector_dvd_of_aligned (alignment_dvd_alignUp _)
  have startAbove : userdata.start ≤ rootStart userdata.start android := by
    have above := le_alignUp (userdata.start + android)
    rw [rootStart_eq]
    by_cases kept : android = 0
    · omega
    · have := request.androidRoom kept
      omega
  have usableLine : disk.sectorSize ∣ disk.usableEnd := by
    unfold Disk.usableEnd
    exact Int.dvd_mul_left _ _
  apply (checkEntries_eq_ok _ _ _ _).mpr
  intro item member notDeleted
  simp only [tailPlan, List.mem_cons, List.not_mem_nil, or_false] at member
  rcases member with rfl | rfl | rfl
  · by_cases kept : android = 0
    · simp [userdataEntry, kept] at notDeleted
    · have boundary : rootStart userdata.start android = alignUp (userdata.start + android) :=
        rootStart_eq _ _
      simp only [userdataEntry, ne_eq, kept, not_false_eq_true, if_true, ← boundary]
      exact ⟨by omega, le_rfl, Int.emod_eq_zero_of_dvd (device.sector_dvd_start valid),
        Int.emod_eq_zero_of_dvd startLine⟩
  · exact ⟨by simp only [rootEntry]; omega, startAbove, Int.emod_eq_zero_of_dvd startLine,
      Int.emod_eq_zero_of_dvd rootLine⟩
  · exact ⟨le_rfl, by simp only [homeEntry]; omega, Int.emod_eq_zero_of_dvd rootLine,
      Int.emod_eq_zero_of_dvd usableLine⟩

/-- On an accepted device table the planner returns exactly the tail plan of an
admissible request. -/
theorem planLayout_eq_ok {disk : Disk} {userdata : Partition} (valid : ValidTable disk)
    (device : StockDevice disk userdata) (mode : Mode) (android root : Int) (keepHome : Bool)
    (plan : Plan) :
    planLayout disk mode android root keepHome = .ok plan ↔
      Admissible disk userdata mode android root ∧
        plan = tailPlan disk userdata mode android root keepHome := by
  constructor
  · intro returned
    simp only [planLayout, device.named, bind_eq_ok, refuseIf_eq_ok, pure_eq_ok, not_and, not_lt,
      Except.ok.injEq, exists_eq_left', exists_const_iff, gt_iff_lt] at returned
    obtain ⟨_, dual, _, small, _, rootRoom, _, room, _, _, _, _, same⟩ := returned
    exact ⟨⟨dual, small, rootRoom, room⟩, same.symm⟩
  · rintro ⟨request, rfl⟩
    have checked := checkEntries_tailPlan valid device request keepHome
    simp only [planLayout, device.named, bind_eq_ok, refuseIf_eq_ok, pure_eq_ok, not_and, not_lt,
      Except.ok.injEq, exists_eq_left']
    refine ⟨(), request.dualKeeps, (), request.androidRoom, (), request.rootRoom, (),
      request.homeRoom, (), ?_, (), checked, rfl⟩
    have room := request.homeRoom
    simp only [homeEntry, Entry.size]
    omega

end Liuqin.Layout
