/-
Soundness and completeness of the tail layout.

The planner refuses for lack of room exactly when no pair of aligned
boundaries gives both requests and the home minimum their space, and a plan it
returns is a gapless sequence of whole-sector extents behind the old start of
userdata.
-/

import Liuqin.Layout.Plan

namespace Liuqin.Layout

open Liuqin.Library.Placement

/-- Two aligned boundaries that leave every partition its room. -/
def LayoutExists (disk : Disk) (userdata : Partition) (android root : Int) : Prop :=
  ∃ first second, alignment ∣ first ∧ alignment ∣ second ∧ first ≤ second ∧
    android ≤ first - userdata.start ∧ root ≤ second - first ∧
      minHome ≤ disk.usableEnd - second

def Plan.kept (plan : Plan) : List Entry :=
  plan.entries.filter (fun item => item.action ≠ .delete)

/-- The kept entries of a plan form a gapless aligned tail of the disk. -/
structure SoundTail (disk : Disk) (userdata : Partition) (android root : Int) (plan : Plan) :
    Prop where
  names : plan.kept.map Entry.name =
    if android ≠ 0 then [userdataName, rootName, homeName] else [rootName, homeName]
  filled : ∀ item ∈ plan.kept, item.start < item.endOffset
  ordered : plan.kept.Pairwise (fun low high => low.endOffset ≤ high.start)
  inside : ∀ item ∈ plan.kept, userdata.start ≤ item.start ∧ item.endOffset ≤ disk.usableEnd
  sectors : ∀ item ∈ plan.kept, disk.sectorSize ∣ item.start ∧ disk.sectorSize ∣ item.endOffset
  gapless : plan.kept.IsChain (fun low high => low.endOffset = high.start ∧ alignment ∣ high.start)
  userdata : ∀ item ∈ plan.kept, item.name = userdataName →
    item.number = userdata.number ∧ item.start = userdata.start ∧
      item.endOffset ≤ userdata.endOffset ∧ android ≤ item.size ∧ item.size < android + alignment
  root : ∀ item ∈ plan.kept, item.name = rootName →
    root ≤ item.size ∧ item.size < root + alignment
  home : ∀ item ∈ plan.kept, item.name = homeName →
    item.endOffset = disk.usableEnd ∧ minHome ≤ item.size

/-- The planner's own boundaries meet the limit as soon as any pair does. -/
theorem layoutExists_iff_homeRoom (disk : Disk) (userdata : Partition) {android root : Int}
    (rootRoom : minRoot ≤ root) :
    LayoutExists disk userdata android root ↔
      alignUp (rootStart userdata.start android + root) + minHome ≤ disk.usableEnd := by
  have placement := exists_feasible_iff (ceilClosure alignment alignment_pos) userdata.start
    (disk.usableEnd - minHome) [android, root]
  rw [← rootEnd_eq_finish] at placement
  have minimum : (0 : Int) < minRoot := by decide
  constructor
  · rintro ⟨first, second, firstLine, secondLine, _, androidFits, rootFits, homeFits⟩
    have greedyFits := placement.mp ⟨[first, second],
      ⟨firstLine, by omega, secondLine, by omega, trivial⟩, by simp only [finish]; omega⟩
    omega
  · intro room
    have firstAbove := le_alignUp (userdata.start + android)
    have secondAbove := le_alignUp (rootStart userdata.start android + root)
    rw [rootStart_eq] at room secondAbove
    exact ⟨alignUp (userdata.start + android),
      alignUp (alignUp (userdata.start + android) + root), alignment_dvd_alignUp _,
      alignment_dvd_alignUp _, by omega, by omega, by omega, by omega⟩

theorem admissible_iff (disk : Disk) (userdata : Partition) {mode : Mode} {android root : Int}
    (minima : MeetsMinima mode android root) :
    Admissible disk userdata mode android root ↔ LayoutExists disk userdata android root := by
  obtain ⟨androidMinimum, rootMinimum⟩ := minima
  have positive : (0 : Int) < minAndroid := by decide
  rw [layoutExists_iff_homeRoom disk userdata rootMinimum]
  constructor
  · exact fun request => request.homeRoom
  · intro room
    refine ⟨?_, ?_, rootMinimum, room⟩
    · intro dual
      rcases androidMinimum with large | ⟨linuxOnly, _⟩
      · omega
      · rw [dual] at linuxOnly
        cases linuxOnly
    · intro kept
      rcases androidMinimum with large | ⟨_, zero⟩
      · exact large
      · exact absurd zero kept

theorem tailPlan_kept (disk : Disk) (userdata : Partition) (mode : Mode) (android root : Int)
    (keepHome : Bool) :
    (tailPlan disk userdata mode android root keepHome).kept =
      (if android ≠ 0 then [userdataEntry userdata userdata.start disk.usableEnd android] else []) ++
        [rootEntry (rootStart userdata.start android)
            (alignUp (rootStart userdata.start android + root)),
          homeEntry (alignUp (rootStart userdata.start android + root)) disk.usableEnd] := by
  by_cases kept : android = 0
  · simp [Plan.kept, tailPlan, userdataEntry, rootEntry, homeEntry, kept]
  · simp [Plan.kept, tailPlan, userdataEntry, rootEntry, homeEntry, kept]

/-- The distances between the boundaries of an admissible request. -/
structure TailCuts (disk : Disk) (userdata : Partition) (android root first second : Int) :
    Prop where
  firstLine : alignment ∣ first
  secondLine : alignment ∣ second
  start : userdata.start ≤ first
  androidSize : android ≤ first - userdata.start ∧ first - userdata.start < android + alignment
  rootSize : root ≤ second - first ∧ second - first < root + alignment
  homeSize : minHome ≤ disk.usableEnd - second
  androidFilled : android ≠ 0 → userdata.start < first
  rootFilled : first < second

theorem Admissible.cuts {disk : Disk} {userdata : Partition} {mode : Mode} {android root : Int}
    (request : Admissible disk userdata mode android root) :
    TailCuts disk userdata android root (rootStart userdata.start android)
      (alignUp (rootStart userdata.start android + root)) := by
  have homeRoom := request.homeRoom
  have rootRoom := request.rootRoom
  have androidRoom := request.androidRoom
  have minimum : (0 : Int) < minRoot ∧ 0 < minAndroid := by decide
  have startAbove := le_alignUp (userdata.start + android)
  have startBelow := alignUp_lt (userdata.start + android)
  have rootAbove := le_alignUp (rootStart userdata.start android + root)
  have rootBelow := alignUp_lt (rootStart userdata.start android + root)
  have startLine := alignment_dvd_alignUp (userdata.start + android)
  rw [← rootStart_eq] at startAbove startBelow startLine
  have androidNonneg : 0 ≤ android := by
    by_cases kept : android = 0
    · omega
    · have := androidRoom kept
      omega
  exact { firstLine := startLine
          secondLine := alignment_dvd_alignUp _
          start := by omega
          androidSize := by omega
          rootSize := by omega
          homeSize := by omega
          androidFilled := fun kept => by have := androidRoom kept; omega
          rootFilled := by omega }

theorem kept_cases {disk : Disk} {userdata : Partition} {mode : Mode} {android root : Int}
    {keepHome : Bool} {item : Entry}
    (member : item ∈ (tailPlan disk userdata mode android root keepHome).kept) :
    (android ≠ 0 ∧ item.name = userdataName ∧ item.number = userdata.number ∧
        item.start = userdata.start ∧ item.endOffset = rootStart userdata.start android) ∨
      (item.name = rootName ∧ item.start = rootStart userdata.start android ∧
        item.endOffset = alignUp (rootStart userdata.start android + root)) ∨
      (item.name = homeName ∧ item.start = alignUp (rootStart userdata.start android + root) ∧
        item.endOffset = disk.usableEnd) := by
  rw [tailPlan_kept] at member
  by_cases kept : android = 0
  · simp only [kept, ne_eq, not_true_eq_false, if_false, List.nil_append, List.mem_cons,
      List.not_mem_nil, or_false] at member
    rcases member with rfl | rfl
    · exact Or.inr (Or.inl (by simp [rootEntry, kept]))
    · exact Or.inr (Or.inr (by simp [homeEntry, kept]))
  · simp only [kept, ne_eq, not_false_eq_true, if_true, List.cons_append, List.nil_append,
      List.mem_cons, List.not_mem_nil, or_false] at member
    rcases member with rfl | rfl | rfl
    · exact Or.inl (by simp [userdataEntry, rootStart_eq, kept])
    · exact Or.inr (Or.inl ⟨rfl, rfl, rfl⟩)
    · exact Or.inr (Or.inr ⟨rfl, rfl, rfl⟩)

/-- Every admissible request gets a sound tail. -/
theorem tailPlan_sound {disk : Disk} {userdata : Partition} {mode : Mode} {android root : Int}
    (valid : ValidTable disk) (device : StockDevice disk userdata)
    (request : Admissible disk userdata mode android root) (keepHome : Bool) :
    SoundTail disk userdata android root (tailPlan disk userdata mode android root keepHome) := by
  have cuts := request.cuts
  have sameEnd := device.endOffset_eq valid
  have minimum : (0 : Int) < minHome := by decide
  have rootNotHome : rootName ≠ homeName := by decide
  have userdataNotRoot : userdataName ≠ rootName := by decide
  have userdataNotHome : userdataName ≠ homeName := by decide
  obtain ⟨firstLine, secondLine, startBelow, androidSize, rootSize, homeSize, androidFilled,
    rootFilled⟩ := cuts
  have usableLine : disk.sectorSize ∣ disk.usableEnd := Int.dvd_mul_left _ _
  constructor
  case names =>
    rw [tailPlan_kept]
    by_cases kept : android = 0 <;> simp [kept, userdataEntry, rootEntry, homeEntry]
  case filled =>
    intro item member
    rcases kept_cases member with ⟨kept, _, _, starts, ends⟩ | ⟨_, starts, ends⟩ | ⟨_, starts, ends⟩
    · have := androidFilled kept
      omega
    · omega
    · omega
  case ordered =>
    rw [tailPlan_kept]
    by_cases kept : android = 0
    · simp [kept, rootEntry, homeEntry]
    · simp only [kept, ne_eq, not_false_eq_true, if_true, List.cons_append, List.nil_append,
        List.pairwise_cons, List.mem_cons, List.not_mem_nil, or_false, userdataEntry, rootEntry,
        homeEntry, forall_eq_or_imp, forall_eq, ← rootStart_eq userdata.start android]
      simp only [List.Pairwise.nil, and_true, le_refl, true_and, IsEmpty.forall_iff, implies_true]
      omega
  case inside =>
    intro item member
    rcases kept_cases member with ⟨_, _, _, starts, ends⟩ | ⟨_, starts, ends⟩ | ⟨_, starts, ends⟩ <;>
      omega
  case sectors =>
    intro item member
    have startWhole := device.sector_dvd_start valid
    have firstWhole := device.sector_dvd_of_aligned firstLine
    have secondWhole := device.sector_dvd_of_aligned secondLine
    rcases kept_cases member with ⟨_, _, _, starts, ends⟩ | ⟨_, starts, ends⟩ | ⟨_, starts, ends⟩ <;>
      rw [starts, ends] <;> constructor <;> assumption
  case gapless =>
    rw [tailPlan_kept]
    by_cases kept : android = 0
    · simp [kept, rootEntry, homeEntry, alignment_dvd_alignUp]
    · simp only [kept, ne_eq, not_false_eq_true, if_true, List.cons_append, List.nil_append,
        List.isChain_cons_cons, List.isChain_singleton, userdataEntry, rootEntry, homeEntry,
        ← rootStart_eq userdata.start android]
      exact ⟨⟨trivial, firstLine⟩, ⟨trivial, secondLine⟩, trivial⟩
  case userdata =>
    intro item member named
    rcases kept_cases member with ⟨_, _, number, starts, ends⟩ | ⟨other, _, _⟩ | ⟨other, _, _⟩
    · unfold Entry.size
      exact ⟨number, starts, by omega, by omega, by omega⟩
    · exact absurd (named.symm.trans other) userdataNotRoot
    · exact absurd (named.symm.trans other) userdataNotHome
  case root =>
    intro item member named
    rcases kept_cases member with ⟨_, other, _, _, _⟩ | ⟨_, starts, ends⟩ | ⟨other, _, _⟩
    · exact absurd (other.symm.trans named) userdataNotRoot
    · unfold Entry.size
      exact ⟨by omega, by omega⟩
    · exact absurd (named.symm.trans other) rootNotHome
  case home =>
    intro item member named
    rcases kept_cases member with ⟨_, other, _, _, _⟩ | ⟨other, _, _⟩ | ⟨_, starts, ends⟩
    · exact absurd (other.symm.trans named) userdataNotHome
    · exact absurd (other.symm.trans named) rootNotHome
    · unfold Entry.size
      exact ⟨ends, by omega⟩

/-- plan_layout returns a plan exactly when some layout exists, and every plan
it returns is a sound tail. -/
theorem planLayout_sound_complete {disk : Disk} {userdata : Partition} (valid : ValidTable disk)
    (accepted : checkStockDevice disk = .ok ())
    (named : disk.byName userdataName = .ok (some userdata))
    (mode : Mode) (android root : Int) (keepHome : Bool)
    (minima : MeetsMinima mode android root) :
    ((∃ plan, planLayout disk mode android root keepHome = .ok plan) ↔
      LayoutExists disk userdata android root) ∧
    ∀ plan, planLayout disk mode android root keepHome = .ok plan →
      SoundTail disk userdata android root plan := by
  obtain ⟨found, device⟩ := (checkStockDevice_iff disk).mp accepted
  have same : found = userdata := by
    have both := device.named.symm.trans named
    simpa using both
  subst same
  constructor
  · rw [← admissible_iff disk found minima]
    constructor
    · rintro ⟨plan, returned⟩
      exact ((planLayout_eq_ok valid device mode android root keepHome plan).mp returned).1
    · intro request
      exact ⟨_, (planLayout_eq_ok valid device mode android root keepHome _).mpr ⟨request, rfl⟩⟩
  · intro plan returned
    obtain ⟨request, rfl⟩ :=
      (planLayout_eq_ok valid device mode android root keepHome plan).mp returned
    exact tailPlan_sound valid device request keepHome

def referenceUserdata : Partition :=
  { number := 35
    firstSector := 2758144
    lastSector := 61731834
    name := userdataName
    sectorSize := deviceSectorSize }

theorem referenceStockDisk_valid : ValidTable (referenceStockDisk deviceSectorSize 1) :=
  ⟨by decide, by decide, by decide⟩

/-- The default dual sizes on the factory table. -/
theorem planLayout_sound_complete_reference :
    ((∃ plan, planLayout (referenceStockDisk deviceSectorSize 1) .dual (96 * gib) (32 * gib) false =
        .ok plan) ↔
      LayoutExists (referenceStockDisk deviceSectorSize 1) referenceUserdata (96 * gib) (32 * gib)) ∧
    ∀ plan, planLayout (referenceStockDisk deviceSectorSize 1) .dual (96 * gib) (32 * gib) false =
        .ok plan →
      SoundTail (referenceStockDisk deviceSectorSize 1) referenceUserdata (96 * gib) (32 * gib)
        plan :=
  planLayout_sound_complete referenceStockDisk_valid (by decide) (by decide) .dual (96 * gib)
    (32 * gib) false ⟨Or.inl (by decide), by decide⟩

end Liuqin.Layout
