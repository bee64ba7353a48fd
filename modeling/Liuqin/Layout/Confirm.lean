/-
Comparing the confirmed plan with the one for the connected device
(confirm_plan in tools/install-liuqin.py).

The confirmed plan was computed for a reference disk, the other one for the
device; the two disks may differ in the size of the tail.
-/

import Liuqin.Layout.Tail

namespace Liuqin.Layout

open Liuqin.Library.Checked

def Action.word : Action → String
  | .shrink => "shrink"
  | .delete => "delete"
  | .create => "create"

/-- A refusal that leaves the disk alone. -/
structure Mismatch where
  message : String
  deriving DecidableEq, Repr

/-- The loop over both lists of entries at once. -/
def confirmEntries : List Entry → List Entry → Except Mismatch Unit
  | one :: expected, two :: actual => do
      refuseIf (one.action ≠ two.action ∨ (one.name ≠ homeName ∧ one.size ≠ two.size))
        ⟨"the tablet's partition table does not produce the layout that was confirmed (" ++
          one.name ++ ": " ++ one.action.word ++ " " ++ toString one.size ++ " confirmed, " ++
          two.action.word ++ " " ++ toString two.size ++ " computed); nothing was written"⟩
      confirmEntries expected actual
  | _, _ => .ok ()

def confirmPlan (expected actual : Plan) : Except Mismatch Unit := do
  refuseIf (expected.entries.map Entry.name ≠ actual.entries.map Entry.name)
    ⟨"the computed layout has a different shape from the confirmed one"⟩
  confirmEntries expected.entries actual.entries

/-- Two disks that are the same up to the size of the tail. -/
structure SameButTail (one other : Disk) (userdata otherUserdata : Partition) : Prop where
  sectorSize : one.sectorSize = other.sectorSize
  firstUsable : one.firstUsable = other.firstUsable
  entryCount : one.entryCount = other.entryCount
  front : one.partitions.dropLast = other.partitions.dropLast
  number : userdata.number = otherUserdata.number
  firstSector : userdata.firstSector = otherUserdata.firstSector
  partitionSector : userdata.sectorSize = otherUserdata.sectorSize

/-- The device's plan is confirmed, and only linux_home is laid out differently. -/
structure CapacityFree (expected actual : Plan) : Prop where
  confirmed : confirmPlan expected actual = .ok ()
  others : ∀ pair ∈ expected.entries.zip actual.entries, pair.1.name ≠ homeName →
    pair.1.number = pair.2.number ∧ pair.1.name = pair.2.name ∧ pair.1.start = pair.2.start ∧
      pair.1.endOffset = pair.2.endOffset ∧ pair.1.action = pair.2.action

theorem confirmEntries_eq_ok (expected actual : List Entry) :
    confirmEntries expected actual = .ok () ↔
      ∀ pair ∈ expected.zip actual, pair.1.action = pair.2.action ∧
        (pair.1.name ≠ homeName → pair.1.size = pair.2.size) := by
  induction expected generalizing actual with
  | nil => simp [confirmEntries]
  | cons one expected ih =>
      cases actual with
      | nil => simp [confirmEntries]
      | cons two actual =>
          rw [confirmEntries, bind_eq_ok, List.zip_cons_cons, List.forall_mem_cons, ← ih]
          simp only [refuseIf_eq_ok, not_or, not_not, not_and]
          constructor
          · rintro ⟨_, agree, rest⟩
            exact ⟨agree, rest⟩
          · rintro ⟨agree, rest⟩
            exact ⟨(), agree, rest⟩

/-- A plan that is returned is the tail plan, whatever the rest of the table. -/
theorem planLayout_tailPlan {disk : Disk} {userdata : Partition} {mode : Mode}
    {android root : Int} {keepHome : Bool} {plan : Plan}
    (named : disk.byName userdataName = .ok (some userdata))
    (returned : planLayout disk mode android root keepHome = .ok plan) :
    plan = tailPlan disk userdata mode android root keepHome := by
  simp only [planLayout, named, bind_eq_ok, refuseIf_eq_ok, pure_eq_ok, not_and, not_lt,
    Except.ok.injEq, exists_eq_left', exists_const_iff, gt_iff_lt] at returned
  obtain ⟨_, _, _, _, _, _, _, _, _, _, _, _, same⟩ := returned
  exact same.symm

/-- The names do not depend on the disk. -/
theorem tailPlan_names (one other : Disk) (userdata otherUserdata : Partition) (mode : Mode)
    (android root : Int) (keepHome : Bool) :
    (tailPlan one userdata mode android root keepHome).entries.map Entry.name =
      (tailPlan other otherUserdata mode android root keepHome).entries.map Entry.name := by
  by_cases kept : android = 0
  · simp [tailPlan, userdataEntry, rootEntry, homeEntry, kept]
  · simp [tailPlan, userdataEntry, rootEntry, homeEntry, kept]

theorem userdataEntry_whenKept (userdata : Partition) (start endOffset : Int) {android : Int}
    (kept : android ≠ 0) : (userdataEntry userdata start endOffset android).endOffset =
      alignUp (start + android) ∧
        (userdataEntry userdata start endOffset android).action = .shrink := by
  rw [userdataEntry, if_pos kept]
  exact ⟨rfl, rfl⟩

theorem userdataEntry_whenDeleted (userdata : Partition) (start endOffset : Int) :
    (userdataEntry userdata start endOffset 0).endOffset = endOffset ∧
      (userdataEntry userdata start endOffset 0).action = .delete := by
  rw [userdataEntry, if_neg (by decide)]
  exact ⟨rfl, rfl⟩

theorem userdataEntry_always (userdata : Partition) (start endOffset android : Int) :
    (userdataEntry userdata start endOffset android).number = userdata.number ∧
      (userdataEntry userdata start endOffset android).name = userdataName ∧
      (userdataEntry userdata start endOffset android).start = start := by
  rw [userdataEntry]
  split
  · exact ⟨rfl, rfl, rfl⟩
  · exact ⟨rfl, rfl, rfl⟩

section Pair

variable {one other : Disk} {userdata otherUserdata : Partition} {mode : Mode}
  {android root : Int} {keepHome : Bool}
  (same : SameButTail one other userdata otherUserdata)

include same

theorem same_start : userdata.start = otherUserdata.start := by
  rw [Partition.start, Partition.start, same.firstSector, same.partitionSector]

/-- The first entry is the same but where a deleted userdata follows the capacity. -/
theorem userdataEntry_same (free : android ≠ 0 ∨ one.usableEnd = other.usableEnd) :
    (userdataEntry userdata userdata.start one.usableEnd android).endOffset =
        (userdataEntry otherUserdata otherUserdata.start other.usableEnd android).endOffset ∧
      (userdataEntry userdata userdata.start one.usableEnd android).action =
        (userdataEntry otherUserdata otherUserdata.start other.usableEnd android).action := by
  by_cases kept : android = 0
  · subst kept
    rcases free with kept | ends
    · exact absurd rfl kept
    · rw [(userdataEntry_whenDeleted _ _ _).1, (userdataEntry_whenDeleted _ _ _).1,
        (userdataEntry_whenDeleted _ _ _).2, (userdataEntry_whenDeleted _ _ _).2]
      exact ⟨ends, rfl⟩
  · rw [(userdataEntry_whenKept _ _ _ kept).1, (userdataEntry_whenKept _ _ _ kept).1,
      (userdataEntry_whenKept _ _ _ kept).2, (userdataEntry_whenKept _ _ _ kept).2, same_start same]
    exact ⟨rfl, rfl⟩

/-- A deleted userdata is compared with its size, which is the whole tail. -/
theorem tailPlan_confirmed
    (confirmed : confirmPlan (tailPlan one userdata mode android root keepHome)
      (tailPlan other otherUserdata mode android root keepHome) = .ok ()) :
    android ≠ 0 ∨ one.usableEnd = other.usableEnd := by
  obtain ⟨_, _, entries⟩ := (bind_eq_ok _ _ _).mp confirmed
  have agree := (confirmEntries_eq_ok _ _).mp entries
    (userdataEntry userdata userdata.start one.usableEnd android,
      userdataEntry otherUserdata otherUserdata.start other.usableEnd android) List.mem_cons_self
  by_cases kept : android = 0
  · have notHome : (userdataEntry userdata userdata.start one.usableEnd android).name ≠
        homeName := by
      rw [(userdataEntry_always _ _ _ _).2.1]
      decide
    have sizes := agree.2 notHome
    have start := same_start same
    subst kept
    rw [Entry.size, Entry.size, (userdataEntry_always _ _ _ _).2.2,
      (userdataEntry_always _ _ _ _).2.2, (userdataEntry_whenDeleted _ _ _).1,
      (userdataEntry_whenDeleted _ _ _).1] at sizes
    exact Or.inr (by omega)
  · exact Or.inl kept

theorem tailPlan_capacityFree (free : android ≠ 0 ∨ one.usableEnd = other.usableEnd) :
    CapacityFree (tailPlan one userdata mode android root keepHome)
      (tailPlan other otherUserdata mode android root keepHome) := by
  have start := same_start same
  have fixed := userdataEntry_always userdata userdata.start one.usableEnd android
  have otherFixed := userdataEntry_always otherUserdata otherUserdata.start other.usableEnd android
  have notHome : (userdataEntry userdata userdata.start one.usableEnd android).name ≠ homeName := by
    rw [fixed.2.1]
    decide
  obtain ⟨ends, actions⟩ := userdataEntry_same same free
  have others : ∀ pair ∈ (tailPlan one userdata mode android root keepHome).entries.zip
      (tailPlan other otherUserdata mode android root keepHome).entries,
      pair.1.name ≠ homeName →
        pair.1.number = pair.2.number ∧ pair.1.name = pair.2.name ∧
          pair.1.start = pair.2.start ∧ pair.1.endOffset = pair.2.endOffset ∧
          pair.1.action = pair.2.action := by
    intro pair member distinct
    simp only [tailPlan, List.zip_cons_cons, List.zip_nil_right, List.mem_cons,
      List.not_mem_nil, or_false] at member
    rcases member with rfl | rfl | rfl
    · refine ⟨?_, ?_, ?_, ends, actions⟩
      · rw [fixed.1, otherFixed.1]
        exact same.number
      · rw [fixed.2.1, otherFixed.2.1]
      · rw [fixed.2.2, otherFixed.2.2]
        exact start
    · rw [start]
      exact ⟨rfl, rfl, rfl, rfl, rfl⟩
    · exact absurd rfl distinct
  constructor
  · rw [confirmPlan, bind_eq_ok]
    refine ⟨(), ?_, ?_⟩
    · rw [refuseIf_eq_ok, not_not]
      exact tailPlan_names _ _ _ _ _ _ _ _
    · apply (confirmEntries_eq_ok _ _).mpr
      intro pair member
      by_cases home : pair.1.name = homeName
      · constructor
        · simp only [tailPlan, List.zip_cons_cons, List.zip_nil_right, List.mem_cons,
            List.not_mem_nil, or_false] at member
          rcases member with rfl | rfl | rfl
          · exact absurd home notHome
          · rfl
          · rfl
        · intro distinct
          exact absurd home distinct
      · obtain ⟨_, _, starts, stops, agree⟩ := others pair member home
        constructor
        · exact agree
        · intro _
          rw [Entry.size, Entry.size, starts, stops]
  · exact others

end Pair

/-- The confirmed plan is accepted on a disk of another capacity exactly when userdata is
kept; then only linux_home follows the capacity. -/
theorem confirm_capacity_free {reference device : Disk} {userdata otherUserdata : Partition}
    (stock : StockDevice reference userdata) (stockDevice : StockDevice device otherUserdata)
    (same : SameButTail reference device userdata otherUserdata) {mode : Mode}
    {android root : Int} {keepHome : Bool} {expected actual : Plan}
    (previewed : planLayout reference mode android root keepHome = .ok expected)
    (computed : planLayout device mode android root keepHome = .ok actual) :
    (confirmPlan expected actual = .ok () ↔
        android ≠ 0 ∨ reference.usableEnd = device.usableEnd) ∧
      (android ≠ 0 ∨ reference.usableEnd = device.usableEnd → CapacityFree expected actual) := by
  rw [planLayout_tailPlan stock.named previewed, planLayout_tailPlan stockDevice.named computed]
  constructor
  · constructor
    · intro confirmed
      exact tailPlan_confirmed same confirmed
    · intro free
      exact (tailPlan_capacityFree same free).confirmed
  · intro free
    exact tailPlan_capacityFree same free

/-- The reference disk with a larger tail. -/
def Disk.grown (disk : Disk) (sectors : Int) : Disk :=
  { disk with
    totalSectors := disk.totalSectors + sectors
    lastUsable := disk.lastUsable + sectors
    partitions := disk.partitions.map (fun item =>
      if item.name = userdataName then { item with lastSector := item.lastSector + sectors }
      else item) }

def grownUserdata (sectors : Int) : Partition :=
  { referenceUserdata with lastSector := referenceUserdata.lastSector + sectors }

theorem grown_valid : ValidTable ((referenceStockDisk deviceSectorSize 1).grown 61731840) :=
  ⟨by decide, by decide, by decide⟩

theorem grown_same : SameButTail (referenceStockDisk deviceSectorSize 1)
    ((referenceStockDisk deviceSectorSize 1).grown 61731840) referenceUserdata
      (grownUserdata 61731840) :=
  ⟨rfl, rfl, rfl, by decide, rfl, rfl, rfl⟩

theorem reference_stock :
    StockDevice (referenceStockDisk deviceSectorSize 1) referenceUserdata :=
  ⟨rfl, by decide, by decide, by decide, rfl, by decide⟩

theorem grown_stock :
    StockDevice ((referenceStockDisk deviceSectorSize 1).grown 61731840)
      (grownUserdata 61731840) :=
  ⟨rfl, by decide, by decide, by decide, rfl, by decide⟩

theorem confirm_capacity_free_dual : CapacityFree
    (tailPlan (referenceStockDisk deviceSectorSize 1) referenceUserdata .dual (96 * gib)
      (32 * gib) false)
    (tailPlan ((referenceStockDisk deviceSectorSize 1).grown 61731840) (grownUserdata 61731840)
      .dual (96 * gib) (32 * gib) false) := by
  have previewed := (planLayout_eq_ok referenceStockDisk_valid reference_stock .dual (96 * gib)
    (32 * gib) false _).mpr ⟨⟨by decide, by decide, by decide, by decide⟩, rfl⟩
  have computed := (planLayout_eq_ok grown_valid grown_stock .dual (96 * gib)
    (32 * gib) false _).mpr ⟨⟨by decide, by decide, by decide, by decide⟩, rfl⟩
  exact (confirm_capacity_free reference_stock grown_stock grown_same previewed computed).2
    (Or.inl (by decide))

/-- Ubuntu only, on a tablet of twice the reference capacity: the confirmed plan is refused. -/
theorem linuxOnly_refused :
    ∃ expected actual,
      StockDevice (referenceStockDisk deviceSectorSize 1) referenceUserdata ∧
      StockDevice ((referenceStockDisk deviceSectorSize 1).grown 61731840)
        (grownUserdata 61731840) ∧
      SameButTail (referenceStockDisk deviceSectorSize 1)
        ((referenceStockDisk deviceSectorSize 1).grown 61731840) referenceUserdata
        (grownUserdata 61731840) ∧
      planLayout (referenceStockDisk deviceSectorSize 1) .linuxOnly 0 (32 * gib) false =
        .ok expected ∧
      planLayout ((referenceStockDisk deviceSectorSize 1).grown 61731840) .linuxOnly 0
        (32 * gib) false = .ok actual ∧
      confirmPlan expected actual ≠ .ok () := by
  have previewed := (planLayout_eq_ok referenceStockDisk_valid reference_stock .linuxOnly 0
    (32 * gib) false _).mpr ⟨⟨by decide, by decide, by decide, by decide⟩, rfl⟩
  have computed := (planLayout_eq_ok grown_valid grown_stock .linuxOnly 0
    (32 * gib) false _).mpr ⟨⟨by decide, by decide, by decide, by decide⟩, rfl⟩
  refine ⟨_, _, reference_stock, grown_stock, grown_same, previewed, computed, ?_⟩
  intro confirmed
  rcases tailPlan_confirmed grown_same confirmed with kept | ends
  · exact kept rfl
  · revert ends
    decide

end Liuqin.Layout
