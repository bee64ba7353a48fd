/-
Applying a plan with sgdisk.

The argument list of a planned factory table runs through, leaves every other
partition alone and ends on a table both verifiers accept and the classifier
calls split, which is the state no later run repartitions.
-/

import Liuqin.Layout.Apply
import Liuqin.Layout.Tail

namespace Liuqin.Layout

open Liuqin.Library.Checked

/-- A factory GPT, seen from its userdata entry. -/
structure FactoryTable (table : Gpt) (userdata : GptEntry) : Prop where
  valid : table.Valid
  member : userdata ∈ table.entries
  only : table.entries.filter (fun entry => entry.name == userdataName) = [userdata]
  sector : table.sectorSize = deviceSectorSize
  full : userdata.lastSector = table.lastUsable
  room : (homeNumber : Int) ≤ table.entryCount
  numbered : ∀ entry ∈ table.entries, entry.number ≤ stockPartitionCount
  unnamed : ∀ entry ∈ table.entries, entry.name ≠ rootName ∧ entry.name ≠ homeName
  behind : ∀ entry ∈ table.entries, entry.number ≠ userdata.number →
    entry.lastSector < userdata.firstSector

theorem FactoryTable.named {table : Gpt} {userdata : GptEntry}
    (factory : FactoryTable table userdata) : userdata.name = userdataName := by
  have kept : userdata ∈ table.entries.filter (fun entry => entry.name == userdataName) := by
    rw [factory.only]
    exact List.mem_singleton.mpr rfl
  simpa using (List.mem_filter.mp kept).2

theorem FactoryTable.eq_of_named {table : Gpt} {userdata entry : GptEntry}
    (factory : FactoryTable table userdata) (member : entry ∈ table.entries)
    (named : entry.name = userdataName) : entry = userdata := by
  have kept : entry ∈ table.entries.filter (fun entry => entry.name == userdataName) :=
    List.mem_filter.mpr ⟨member, by simp [named]⟩
  rw [factory.only] at kept
  exact List.mem_singleton.mp kept

/-- Entries of a valid table are told apart by their numbers. -/
theorem Gpt.Valid.eq_of_number {table : Gpt} (valid : table.Valid) {one two : GptEntry}
    (oneMember : one ∈ table.entries) (twoMember : two ∈ table.entries)
    (same : one.number = two.number) : one = two :=
  List.inj_on_of_nodup_map valid.numbers oneMember twoMember same

theorem classify_eq_stock {disk : Disk} (stock : classify disk = .ok .stock) :
    disk.byName rootName = .ok none ∧ disk.byName homeName = .ok none := by
  simp only [classify, bind_eq_ok] at stock
  obtain ⟨userdata, _, root, rootLookup, home, homeLookup, decided⟩ := stock
  cases root with
  | some item =>
      simp only [Option.isSome_some, if_true] at decided
      cases last : disk.partitions.getLast? with
      | none => simp [last] at decided
      | some item =>
          simp only [last, pure_eq_ok] at decided
          split at decided <;> cases decided
  | none =>
      cases home with
      | some item => simp at decided
      | none => exact ⟨rootLookup, homeLookup⟩

/-- The report of a valid GPT is a valid table. -/
theorem Gpt.Valid.report {table : Gpt} (valid : table.Valid) : ValidTable table.report := by
  have entryOf : ∀ item ∈ table.report.partitions, ∃ entry ∈ table.entries,
      entry.partition table.sectorSize = item :=
    fun item member => (Gpt.mem_report table item).mp member
  constructor
  · intro item member
    obtain ⟨entry, _, rfl⟩ := entryOf item member
    rfl
  · intro item member
    obtain ⟨entry, present, rfl⟩ := entryOf item member
    exact valid.extent entry present
  · have apart : table.report.partitions.Pairwise (fun one two =>
        one.lastSector < two.firstSector ∨ two.lastSector < one.firstSector) := by
      apply (Gpt.report_perm table).symm.pairwise ?_ Or.symm
      exact List.pairwise_map.mpr valid.apart
    have extent : ∀ item ∈ table.report.partitions, item.firstSector ≤ item.lastSector := by
      intro item member
      obtain ⟨entry, present, rfl⟩ := entryOf item member
      exact (valid.extent entry present).2.1
    have both := (Gpt.report_sorted table).and apart
    apply both.imp_of_mem
    intro low high lowMember highMember facts
    have := extent low lowMember
    have := extent high highMember
    omega

theorem factoryTable_of_accepted {table : Gpt} {userdata : GptEntry} (valid : table.Valid)
    (stock : classify table.report = .ok .stock)
    (accepted : checkStockDevice table.report = .ok ())
    (numbered : ∀ entry ∈ table.entries, entry.number ≤ stockPartitionCount)
    (member : userdata ∈ table.entries) (named : userdata.name = userdataName) :
    FactoryTable table userdata ∧
      StockDevice table.report (userdata.partition table.sectorSize) := by
  obtain ⟨found, device⟩ := (checkStockDevice_iff table.report).mp accepted
  obtain ⟨noRoot, noHome⟩ := classify_eq_stock stock
  have lookup := (Gpt.report_filter table userdataName).symm
  rw [Disk.byName_eq_some device.named, List.perm_singleton] at lookup
  have kept : userdata ∈ table.entries.filter (fun entry => entry.name == userdataName) :=
    List.mem_filter.mpr ⟨member, by simp [named]⟩
  have only : table.entries.filter (fun entry => entry.name == userdataName) = [userdata] := by
    cases shape : table.entries.filter (fun entry => entry.name == userdataName) with
    | nil =>
        rw [shape] at kept
        cases kept
    | cons head tail =>
        rw [shape] at lookup kept
        cases tail with
        | nil => rw [List.mem_singleton.mp kept]
        | cons next rest => simp at lookup
  have same : userdata.partition table.sectorSize = found := by
    rw [only] at lookup
    simpa using lookup
  subst same
  refine ⟨?_, device⟩
  have room := device.room
  have count := device.count
  constructor
  case valid => exact valid
  case member => exact member
  case only => exact only
  case sector => exact device.sector
  case full => exact device.full
  case room =>
    rw [count] at room
    exact room
  case numbered => exact numbered
  case unnamed =>
    intro entry present
    have inReport := (Gpt.mem_report table _).mpr ⟨entry, present, rfl⟩
    exact ⟨(Disk.byName_eq_none _ _).mp noRoot _ inReport,
      (Disk.byName_eq_none _ _).mp noHome _ inReport⟩
  case behind =>
    intro entry present different
    have ordered : entry.firstSector ≤ userdata.firstSector :=
      firstSector_le_last (Gpt.report_sorted table) device.last
        (entry.partition table.sectorSize) ((Gpt.mem_report table _).mpr ⟨entry, present, rfl⟩)
    have apart : entry.Apart userdata :=
      valid.apart.forall present member (fun same => different (by rw [same]))
    have := valid.extent entry present
    have := valid.extent userdata member
    unfold GptEntry.Apart at apart
    omega

/-! ### The table after the edit -/

/-- The sector numbers a plan puts on the command line. -/
structure SectorCuts (table : Gpt) (userdata : GptEntry) (android first second : Int) : Prop where
  start : userdata.firstSector ≤ first
  shrunk : android ≠ 0 → userdata.firstSector < first
  root : first < second
  home : second ≤ table.lastUsable

def appliedUserdata (userdata : GptEntry) (android first : Int) : List GptEntry :=
  if android ≠ 0 then [shrunkEntry userdata (first - 1)] else []

def appliedTable (fresh : Nat → Guid) (table : Gpt) (userdata : GptEntry)
    (android first second : Int) : Gpt :=
  { table with
    entries := (table.remove userdata.number).entries ++ appliedUserdata userdata android first ++
      [createdEntry fresh rootNumber first (second - 1) rootName,
        createdEntry fresh homeNumber second table.lastUsable homeName] }

/-- The table between the userdata edit and the first new partition. -/
def editedTable (table : Gpt) (userdata : GptEntry) (android first : Int) : Gpt :=
  { table with
    entries := (table.remove userdata.number).entries ++ appliedUserdata userdata android first }

theorem appliedTable_eq (fresh : Nat → Guid) (table : Gpt) (userdata : GptEntry)
    (android first second : Int) :
    appliedTable fresh table userdata android first second =
      ((editedTable table userdata android first).add
        (createdEntry fresh rootNumber first (second - 1) rootName)).add
          (createdEntry fresh homeNumber second table.lastUsable homeName) := by
  simp [appliedTable, editedTable, Gpt.add]

section Edited

variable {table : Gpt} {userdata : GptEntry} {android first second : Int} {fresh : Nat → Guid}

theorem remove_behind (factory : FactoryTable table userdata) :
    ∀ entry ∈ (table.remove userdata.number).entries,
      entry.lastSector < userdata.firstSector := by
  intro entry member
  simp only [Gpt.remove, List.mem_filter, decide_eq_true_eq] at member
  exact factory.behind entry member.1 member.2

theorem accepts_shrunk (factory : FactoryTable table userdata)
    (cuts : SectorCuts table userdata android first second) (kept : android ≠ 0) :
    (table.remove userdata.number).Accepts (shrunkEntry userdata (first - 1)) := by
  have extent := factory.valid.extent userdata factory.member
  have shrunk := cuts.shrunk kept
  have root := cuts.root
  have home := cuts.home
  apply Gpt.accepts_behind (factory.valid.remove _)
  · exact Gpt.not_used_remove table _
  · exact factory.valid.numbered userdata factory.member
  · simp only [shrunkEntry, Gpt.remove]
    omega
  · exact remove_behind factory

theorem editedTable_kept (kept : android ≠ 0) :
    editedTable table userdata android first =
      (table.remove userdata.number).add (shrunkEntry userdata (first - 1)) := by
  simp [editedTable, appliedUserdata, kept, Gpt.add, Gpt.remove]

theorem editedTable_deleted (deleted : android = 0) :
    editedTable table userdata android first = table.remove userdata.number := by
  simp [editedTable, appliedUserdata, deleted, Gpt.remove]

theorem editedTable_valid (factory : FactoryTable table userdata)
    (cuts : SectorCuts table userdata android first second) :
    (editedTable table userdata android first).Valid := by
  by_cases kept : android = 0
  · rw [editedTable_deleted kept]
    exact factory.valid.remove _
  · rw [editedTable_kept kept]
    exact (factory.valid.remove _).add (accepts_shrunk factory cuts kept)

theorem mem_editedTable {entry : GptEntry}
    (member : entry ∈ (editedTable table userdata android first).entries) :
    (entry ∈ table.entries ∧ entry.number ≠ userdata.number) ∨
      (android ≠ 0 ∧ entry = shrunkEntry userdata (first - 1)) := by
  unfold editedTable appliedUserdata Gpt.remove at member
  by_cases kept : android = 0
  · simp only [kept, ne_eq, not_true_eq_false, if_false, List.append_nil, List.mem_filter,
      decide_eq_true_eq] at member
    exact Or.inl member
  · simp only [ne_eq, kept, not_false_eq_true, if_true, List.mem_append, List.mem_filter,
      decide_eq_true_eq, List.mem_singleton] at member
    rcases member with old | same
    · exact Or.inl old
    · exact Or.inr ⟨kept, same⟩

theorem editedTable_numbered (factory : FactoryTable table userdata) :
    ∀ entry ∈ (editedTable table userdata android first).entries,
      entry.number ≤ stockPartitionCount := by
  intro entry member
  rcases mem_editedTable member with ⟨old, _⟩ | ⟨_, same⟩
  · exact factory.numbered entry old
  · rw [same]
    exact factory.numbered userdata factory.member

theorem editedTable_behind (factory : FactoryTable table userdata)
    (cuts : SectorCuts table userdata android first second) :
    ∀ entry ∈ (editedTable table userdata android first).entries, entry.lastSector < first := by
  intro entry member
  have start := cuts.start
  rcases mem_editedTable member with ⟨old, different⟩ | ⟨_, same⟩
  · have := factory.behind entry old different
    omega
  · rw [same]
    simp only [shrunkEntry]
    omega

variable (fresh) in
theorem accepts_root (factory : FactoryTable table userdata)
    (cuts : SectorCuts table userdata android first second) :
    (editedTable table userdata android first).Accepts
      (createdEntry fresh rootNumber first (second - 1) rootName) := by
  have extent := factory.valid.extent userdata factory.member
  have start := cuts.start
  have root := cuts.root
  have home := cuts.home
  have room := factory.room
  apply Gpt.accepts_behind (editedTable_valid factory cuts)
  · rintro ⟨entry, member, same⟩
    have bound := editedTable_numbered factory entry member
    rw [same] at bound
    exact absurd bound (show ¬rootNumber ≤ stockPartitionCount by decide)
  · refine ⟨show 1 ≤ rootNumber by decide, ?_⟩
    have numbers : ((rootNumber : Nat) : Int) < homeNumber := by decide
    simp only [createdEntry, newEntry, editedTable]
    omega
  · simp only [createdEntry, newEntry, editedTable]
    omega
  · exact editedTable_behind factory cuts

variable (fresh) in
theorem accepts_home (factory : FactoryTable table userdata)
    (cuts : SectorCuts table userdata android first second) :
    ((editedTable table userdata android first).add
        (createdEntry fresh rootNumber first (second - 1) rootName)).Accepts
      (createdEntry fresh homeNumber second table.lastUsable homeName) := by
  have extent := factory.valid.extent userdata factory.member
  have start := cuts.start
  have root := cuts.root
  have home := cuts.home
  apply Gpt.accepts_behind ((editedTable_valid factory cuts).add (accepts_root fresh factory cuts))
  · rw [Gpt.used_add]
    rintro (⟨entry, member, same⟩ | same)
    · have bound := editedTable_numbered factory entry member
      rw [same] at bound
      exact absurd bound (show ¬homeNumber ≤ stockPartitionCount by decide)
    · exact absurd same (show rootNumber ≠ homeNumber by decide)
  · exact ⟨show 1 ≤ homeNumber by decide, factory.room⟩
  · simp only [createdEntry, newEntry, editedTable, Gpt.add]
    omega
  · intro entry member
    rcases List.mem_append.mp member with old | added
    · have := editedTable_behind factory cuts entry old
      simp only [createdEntry, newEntry]
      omega
    · rw [List.mem_singleton.mp added]
      simp only [createdEntry, newEntry]
      omega

theorem appliedTable_valid (factory : FactoryTable table userdata)
    (cuts : SectorCuts table userdata android first second) :
    (appliedTable fresh table userdata android first second).Valid := by
  rw [appliedTable_eq]
  exact ((editedTable_valid factory cuts).add (accepts_root fresh factory cuts)).add
    (accepts_home fresh factory cuts)

theorem appliedTable_byName_root (factory : FactoryTable table userdata) :
    (appliedTable fresh table userdata android first second).report.byName rootName =
      .ok (some ((createdEntry fresh rootNumber first (second - 1) rootName).partition
        table.sectorSize)) := by
  apply Gpt.report_byName_some
  have old : (table.remove userdata.number).entries.filter (fun entry => entry.name == rootName) =
      [] := by
    apply List.filter_eq_nil_iff.mpr
    intro entry member
    simpa using (factory.unnamed entry (List.mem_of_mem_filter member)).1
  have edited : (appliedUserdata userdata android first).filter
      (fun entry => entry.name == rootName) = [] := by
    have other : userdata.name ≠ rootName := (factory.unnamed userdata factory.member).1
    by_cases kept : android = 0 <;> simp [appliedUserdata, kept, shrunkEntry, other]
  have different : homeName ≠ rootName := by decide
  simp [appliedTable, old, edited, createdEntry, different]

theorem appliedTable_byName_home (factory : FactoryTable table userdata) :
    (appliedTable fresh table userdata android first second).report.byName homeName =
      .ok (some ((createdEntry fresh homeNumber second table.lastUsable homeName).partition
        table.sectorSize)) := by
  apply Gpt.report_byName_some
  have old : (table.remove userdata.number).entries.filter (fun entry => entry.name == homeName) =
      [] := by
    apply List.filter_eq_nil_iff.mpr
    intro entry member
    simpa using (factory.unnamed entry (List.mem_of_mem_filter member)).2
  have edited : (appliedUserdata userdata android first).filter
      (fun entry => entry.name == homeName) = [] := by
    have other : userdata.name ≠ homeName := (factory.unnamed userdata factory.member).2
    by_cases kept : android = 0 <;> simp [appliedUserdata, kept, shrunkEntry, other]
  have different : rootName ≠ homeName := by decide
  simp [appliedTable, old, edited, createdEntry, different]

theorem appliedTable_byName_userdata (factory : FactoryTable table userdata) :
    (appliedTable fresh table userdata android first second).report.byName userdataName =
      .ok (if android ≠ 0 then
        some ((shrunkEntry userdata (first - 1)).partition table.sectorSize) else none) := by
  have rootOther : rootName ≠ userdataName := by decide
  have homeOther : homeName ≠ userdataName := by decide
  have old : ∀ entry ∈ (table.remove userdata.number).entries, entry.name ≠ userdataName := by
    intro entry member named
    simp only [Gpt.remove, List.mem_filter, decide_eq_true_eq] at member
    exact member.2 (by rw [factory.eq_of_named member.1 named])
  by_cases kept : android = 0
  · rw [if_neg (by simp [kept])]
    apply Gpt.report_byName_none
    intro entry member
    simp only [appliedTable, appliedUserdata, kept, ne_eq, not_true_eq_false, if_false,
      List.append_nil, List.mem_append, List.mem_cons, List.not_mem_nil, or_false] at member
    rcases member with present | rfl | rfl
    · exact old entry present
    · exact rootOther
    · exact homeOther
  · rw [if_pos kept]
    apply Gpt.report_byName_some
    have none : (table.remove userdata.number).entries.filter
        (fun entry => entry.name == userdataName) = [] := by
      apply List.filter_eq_nil_iff.mpr
      intro entry member
      simpa using old entry member
    simp [appliedTable, none, appliedUserdata, kept, shrunkEntry, factory.named, createdEntry,
      rootOther, homeOther]

/-- linux_home is the last partition of the edited table. -/
theorem appliedTable_getLast (factory : FactoryTable table userdata)
    (cuts : SectorCuts table userdata android first second) :
    (appliedTable fresh table userdata android first second).report.partitions.getLast? =
      some ((createdEntry fresh homeNumber second table.lastUsable homeName).partition
        table.sectorSize) := by
  apply getLast_of_behind (Gpt.report_sorted _)
  · exact (Disk.byName_mem (appliedTable_byName_home factory)).1
  · intro other member different
    obtain ⟨entry, present, rfl⟩ := (Gpt.mem_report _ other).mp member
    have valid : (appliedTable fresh table userdata android first second).Valid :=
      appliedTable_valid factory cuts
    have extent := valid.extent entry present
    rw [appliedTable_eq] at present
    rcases List.mem_append.mp present with early | final
    · have behind := (accepts_home fresh factory cuts).apart entry early
      have home := cuts.home
      have usable := extent.2.2
      simp only [GptEntry.Apart, createdEntry, newEntry, GptEntry.partition] at behind ⊢
      simp only [appliedTable] at usable
      omega
    · exact absurd (by rw [List.mem_singleton.mp final]; rfl) different

theorem appliedTable_classify (factory : FactoryTable table userdata)
    (cuts : SectorCuts table userdata android first second) :
    classify (appliedTable fresh table userdata android first second).report = .ok .split := by
  unfold classify
  rw [appliedTable_byName_userdata factory, appliedTable_byName_root factory,
    appliedTable_byName_home factory, appliedTable_getLast factory cuts]
  simp [bind, Except.bind, pure, Except.pure, GptEntry.partition, createdEntry]

/-- What the edit leaves alone, and what it adds. -/
theorem appliedTable_mem (entry : GptEntry) :
    entry ∈ (appliedTable fresh table userdata android first second).entries ↔
      (entry ∈ table.entries ∧ entry.number ≠ userdata.number) ∨
        entry ∈ appliedUserdata userdata android first ∨
        entry = createdEntry fresh rootNumber first (second - 1) rootName ∨
        entry = createdEntry fresh homeNumber second table.lastUsable homeName := by
  simp [appliedTable, Gpt.remove]

end Edited

/-! ### From the plan to the table -/

section Planned

variable {table : Gpt} {userdata : GptEntry} {mode : Mode} {android root : Int}

/-- The plan's first and second boundary in sectors. -/
def firstCut (table : Gpt) (userdata : GptEntry) (android : Int) : Int :=
  rootStart (userdata.partition table.sectorSize).start android / deviceSectorSize

def secondCut (table : Gpt) (userdata : GptEntry) (android root : Int) : Int :=
  alignUp (rootStart (userdata.partition table.sectorSize).start android + root) / deviceSectorSize

theorem firstCut_mul (table : Gpt) (userdata : GptEntry) (android : Int) :
    firstCut table userdata android * deviceSectorSize =
      rootStart (userdata.partition table.sectorSize).start android := by
  have aligned : deviceSectorSize ∣
      rootStart (userdata.partition table.sectorSize).start android := by
    rw [rootStart_eq]
    exact sector_dvd_of_alignment_dvd (alignment_dvd_alignUp _)
  exact Int.ediv_mul_cancel aligned

theorem secondCut_mul (table : Gpt) (userdata : GptEntry) (android root : Int) :
    secondCut table userdata android root * deviceSectorSize =
      alignUp (rootStart (userdata.partition table.sectorSize).start android + root) :=
  Int.ediv_mul_cancel (sector_dvd_of_alignment_dvd (alignment_dvd_alignUp _))

theorem sectorCuts_of_admissible (factory : FactoryTable table userdata)
    (request : Admissible table.report (userdata.partition table.sectorSize) mode android root) :
    SectorCuts table userdata android (firstCut table userdata android)
      (secondCut table userdata android root) := by
  obtain ⟨_, _, start, _, _, homeSize, androidFilled, rootFilled⟩ := request.cuts
  have firstBytes := firstCut_mul table userdata android
  have secondBytes := secondCut_mul table userdata android root
  have startBytes : (userdata.partition table.sectorSize).start =
      userdata.firstSector * deviceSectorSize := by
    rw [Partition.start, GptEntry.partition, factory.sector]
  have endBytes : table.report.usableEnd = (table.lastUsable + 1) * deviceSectorSize := by
    simp only [Disk.usableEnd, Gpt.report, factory.sector]
  have minimum : deviceSectorSize = 4096 ∧ (4096 : Int) ≤ minHome := by decide
  rw [minimum.1] at firstBytes secondBytes startBytes endBytes
  constructor
  · omega
  · intro kept
    have := androidFilled kept
    omega
  · omega
  · omega

@[simp] theorem userdataEntry_name (partition : Partition) (start limit android : Int) :
    (userdataEntry partition start limit android).name = userdataName := by
  unfold userdataEntry
  split <;> rfl

@[simp] theorem userdataEntry_number (partition : Partition) (start limit android : Int) :
    (userdataEntry partition start limit android).number = partition.number := by
  unfold userdataEntry
  split <;> rfl

@[simp] theorem userdataEntry_start (partition : Partition) (start limit android : Int) :
    (userdataEntry partition start limit android).start = start := by
  unfold userdataEntry
  split <;> rfl

theorem userdataEntry_deleted (partition : Partition) (start limit android : Int) :
    (userdataEntry partition start limit android).action = .delete ↔ android = 0 := by
  unfold userdataEntry
  by_cases kept : android = 0
  · simp [kept]
  · simp [kept]

/-- A plan of userdata and two new partitions, rendered. -/
theorem sgdiskArguments_eq {plan : Plan} {first second third : Entry} {info : Info}
    (entries : plan.entries = [first, second, third]) (named : first.name = userdataName)
    (secondOther : second.name ≠ userdataName) (thirdOther : third.name ≠ userdataName)
    (unmoved : first.firstSector plan.disk.sectorSize = info.firstSector) (device : String) :
    sgdiskArguments plan device info =
      .ok ([.setAlignment 1, .delete first.number] ++
        (if first.action ≠ .delete then shrinkArguments plan.disk.sectorSize first info else []) ++
        (createArguments plan.disk.sectorSize second ++
          createArguments plan.disk.sectorSize third) ++ [.device device]) := by
  have found : plan.entry userdataName = some first := by
    simp [Plan.entry, entries, named]
  simp [sgdiskArguments, found, entries, named, secondOther, thirdOther, unmoved, refuseIf, bind,
    Except.bind, pure, Except.pure]

theorem run_append {fresh : Nat → Guid} {front back : List SgdiskArgument}
    {start middle finish : Session} (first : front.foldlM (Session.step fresh) start = some middle)
    (second : back.foldlM (Session.step fresh) middle = some finish) :
    (front ++ back).foldlM (Session.step fresh) start = some finish := by
  rw [List.foldlM_append, first, Option.bind_eq_bind, Option.bind_some, second]

theorem startSector_eq (factory : FactoryTable table userdata) :
    (userdata.partition table.sectorSize).start / deviceSectorSize = userdata.firstSector := by
  rw [Partition.start, GptEntry.partition, factory.sector]
  exact Int.mul_ediv_cancel _ (show deviceSectorSize ≠ 0 by decide)

theorem usableEnd_sector (factory : FactoryTable table userdata) :
    table.report.usableEnd / deviceSectorSize - 1 = table.lastUsable := by
  have bytes : table.report.usableEnd = (table.lastUsable + 1) * deviceSectorSize := by
    simp only [Disk.usableEnd, Gpt.report, factory.sector]
  rw [bytes, Int.mul_ediv_cancel _ (show deviceSectorSize ≠ 0 by decide)]
  omega

/-- The rendered plan runs through and leaves the applied table. -/
theorem sgdisk_tailPlan (factory : FactoryTable table userdata)
    (request : Admissible table.report (userdata.partition table.sectorSize) mode android root)
    (keepHome : Bool) (device : String) (fresh : Nat → Guid) :
    ∃ arguments,
      sgdiskArguments (tailPlan table.report (userdata.partition table.sectorSize) mode android root
        keepHome) device userdata.info = .ok arguments ∧
      table.sgdisk fresh arguments =
        some (appliedTable fresh table userdata android (firstCut table userdata android)
          (secondCut table userdata android root)) := by
  have cuts := sectorCuts_of_admissible factory request
  have sector : table.report.sectorSize = deviceSectorSize := factory.sector
  have unmoved : (userdataEntry (userdata.partition table.sectorSize)
      (userdata.partition table.sectorSize).start table.report.usableEnd android).firstSector
        table.report.sectorSize = userdata.info.firstSector := by
    rw [Entry.firstSector, userdataEntry_start, sector, startSector_eq factory]
    rfl
  refine ⟨_, sgdiskArguments_eq rfl (userdataEntry_name _ _ _ _)
    (show rootName ≠ userdataName by decide) (show homeName ≠ userdataName by decide)
    unmoved device, ?_⟩
  have used : table.Used userdata.number := ⟨userdata, factory.member, rfl⟩
  have front : [SgdiskArgument.setAlignment 1, .delete userdata.number].foldlM
      (Session.step fresh) { table := table, alignment := 2048 } =
        some { table := table.remove userdata.number, alignment := 1 } := by
    simp [Session.step, used]
  have middle : (if (userdataEntry (userdata.partition table.sectorSize)
        (userdata.partition table.sectorSize).start table.report.usableEnd android).action ≠ .delete
      then shrinkArguments deviceSectorSize (userdataEntry (userdata.partition table.sectorSize)
        (userdata.partition table.sectorSize).start table.report.usableEnd android) userdata.info
      else []).foldlM (Session.step fresh)
        { table := table.remove userdata.number, alignment := 1 } =
      some { table := editedTable table userdata android (firstCut table userdata android),
             alignment := 1 } := by
    by_cases kept : android = 0
    · rw [if_neg (not_not.mpr ((userdataEntry_deleted _ _ _ _).mpr kept)),
        editedTable_deleted kept]
      rfl
    · rw [if_pos (fun deleted => kept ((userdataEntry_deleted _ _ _ _).mp deleted)),
        editedTable_kept kept]
      have lastSector : (userdataEntry (userdata.partition table.sectorSize)
          (userdata.partition table.sectorSize).start table.report.usableEnd android).lastSector
            deviceSectorSize = firstCut table userdata android - 1 := by
        simp only [Entry.lastSector, userdataEntry, ne_eq, kept, not_false_eq_true, if_true,
          firstCut, rootStart]
      rw [sector] at unmoved
      have accepts := accepts_shrunk factory cuts kept
      rw [← lastSector] at accepts
      have run := shrinkArguments_run fresh (userdataEntry_number _ _ _ _) factory.named unmoved
        accepts
      rw [lastSector] at run
      exact run
  have rootRun := createArguments_run fresh deviceSectorSize
    (rootEntry (rootStart (userdata.partition table.sectorSize).start android)
      (alignUp (rootStart (userdata.partition table.sectorSize).start android + root)))
    (accepts_root fresh factory cuts)
  have homeAccepts : ((editedTable table userdata android (firstCut table userdata android)).add
      (createdEntry fresh rootNumber (firstCut table userdata android)
        (secondCut table userdata android root - 1) rootName)).Accepts
      (createdEntry fresh homeNumber (secondCut table userdata android root)
        (table.report.usableEnd / deviceSectorSize - 1) homeName) := by
    rw [usableEnd_sector factory]
    exact accepts_home fresh factory cuts
  have homeRun := createArguments_run fresh deviceSectorSize
    (homeEntry (alignUp (rootStart (userdata.partition table.sectorSize).start android +
      root)) table.report.usableEnd) homeAccepts
  have finalTable := appliedTable_eq fresh table userdata android (firstCut table userdata android)
    (secondCut table userdata android root)
  rw [← usableEnd_sector factory] at finalTable
  have whole := run_append (run_append (run_append front middle) (run_append rootRun homeRun))
    (show [SgdiskArgument.device device].foldlM (Session.step fresh) _ = some _ from rfl)
  rw [userdataEntry_number, tailPlan, sector]
  exact (congrArg (Option.map Session.table) whole).trans (congrArg some finalTable.symm)

/-- The re-read table carries the whole plan. -/
theorem verifyApplied_tailPlan (factory : FactoryTable table userdata) (keepHome : Bool)
    (fresh : Nat → Guid) :
    verifyApplied (appliedTable fresh table userdata android (firstCut table userdata android)
        (secondCut table userdata android root)).report
      (tailPlan table.report (userdata.partition table.sectorSize) mode android root keepHome) =
        .ok () := by
  have sector : (appliedTable fresh table userdata android (firstCut table userdata android)
      (secondCut table userdata android root)).report.sectorSize = deviceSectorSize :=
    factory.sector
  have named : (appliedTable fresh table userdata android (firstCut table userdata android)
      (secondCut table userdata android root)).report.byName userdataName = .ok _ :=
    appliedTable_byName_userdata factory
  apply (verifyEntries_eq_ok _ _).mpr
  intro item member
  simp only [tailPlan, List.mem_cons, List.not_mem_nil, or_false] at member
  rcases member with rfl | rfl | rfl
  · by_cases kept : android = 0
    · rw [if_neg (not_not.mpr kept)] at named
      exact verifyEntry_deleted ((userdataEntry_deleted _ _ _ _).mpr kept)
        (by rw [userdataEntry_name]; exact named)
    · rw [if_pos kept] at named
      refine verifyEntry_found (fun deleted => kept ((userdataEntry_deleted _ _ _ _).mp deleted))
        (by rw [userdataEntry_name]; exact named) ?_ ?_
      · rw [Entry.firstSector, userdataEntry_start, sector, startSector_eq factory]
        rfl
      · rw [Entry.lastSector, sector]
        simp only [userdataEntry, ne_eq, kept, not_false_eq_true, if_true, GptEntry.partition,
          shrunkEntry, firstCut, rootStart]
  · refine verifyEntry_found (show Action.create ≠ Action.delete by decide)
      (appliedTable_byName_root factory) ?_ ?_
    · rw [sector]
      rfl
    · rw [sector]
      rfl
  · refine verifyEntry_found (show Action.create ≠ Action.delete by decide)
      (appliedTable_byName_home factory) ?_ ?_
    · rw [sector]
      rfl
    · rw [sector]
      exact (usableEnd_sector factory).symm

end Planned

/-- Applying a planned factory table with sgdisk gives the plan and nothing
else, and the result is never repartitioned again. -/
theorem apply_plan_exact {table : Gpt} {userdata : GptEntry} (valid : table.Valid)
    (stock : classify table.report = .ok .stock)
    (accepted : checkStockDevice table.report = .ok ())
    (numbered : ∀ entry ∈ table.entries, entry.number ≤ stockPartitionCount)
    (member : userdata ∈ table.entries) (named : userdata.name = userdataName)
    {mode : Mode} {android root : Int} {keepHome : Bool} {plan : Plan}
    (planned : planLayout table.report mode android root keepHome = .ok plan)
    (fresh : Nat → Guid) (device : String) :
    ∃ arguments after,
      sgdiskArguments plan device userdata.info = .ok arguments ∧
      table.sgdisk fresh arguments = some after ∧
      after.Valid ∧
      (∀ entry, entry.number ∉ plan.entries.map Entry.number →
        (entry ∈ after.entries ↔ entry ∈ table.entries)) ∧
      (∀ item ∈ plan.kept, item.name = userdataName →
        ∃ kept ∈ after.entries, kept.number = userdata.number ∧ kept.guid = userdata.guid ∧
          kept.typecode = userdata.typecode ∧ kept.name = userdata.name ∧
          kept.attributes = userdata.attributes ∧
          verifyPreserved userdata.info kept.info = .ok ()) ∧
      verifyApplied after.report plan = .ok () ∧
      classify after.report = .ok .split := by
  obtain ⟨factory, stockDevice⟩ :=
    factoryTable_of_accepted valid stock accepted numbered member named
  obtain ⟨request, rfl⟩ :=
    (planLayout_eq_ok valid.report stockDevice mode android root keepHome plan).mp planned
  obtain ⟨arguments, rendered, applied⟩ := sgdisk_tailPlan factory request keepHome device fresh
  have cuts := sectorCuts_of_admissible factory request
  refine ⟨arguments, _, rendered, applied, appliedTable_valid factory cuts, ?_, ?_,
    verifyApplied_tailPlan factory keepHome fresh, appliedTable_classify factory cuts⟩
  · intro entry outside
    simp only [tailPlan, List.map_cons, List.map_nil, userdataEntry_number, List.mem_cons,
      List.not_mem_nil, or_false, not_or] at outside
    obtain ⟨notUserdata, notRoot, notHome⟩ := outside
    rw [appliedTable_mem]
    constructor
    · rintro (⟨old, _⟩ | edited | rfl | rfl)
      · exact old
      · unfold appliedUserdata at edited
        split at edited
        · rw [List.mem_singleton.mp edited] at notUserdata
          exact absurd rfl notUserdata
        · cases edited
      · exact absurd rfl notRoot
      · exact absurd rfl notHome
    · exact fun old => Or.inl ⟨old, notUserdata⟩
  · intro item keptItem isUserdata
    rcases kept_cases keptItem with ⟨kept, _⟩ | ⟨other, _⟩ | ⟨other, _⟩
    · refine ⟨shrunkEntry userdata (firstCut table userdata android - 1), ?_, rfl, rfl, rfl, rfl,
        rfl, verifyPreserved_of_same rfl rfl rfl rfl rfl⟩
      rw [appliedTable_mem]
      exact Or.inr (Or.inl (by simp [appliedUserdata, kept]))
    · exact absurd (isUserdata.symm.trans other) (by decide)
    · exact absurd (isUserdata.symm.trans other) (by decide)

/-! ### The factory table as a GPT -/

def referenceGptEntry : Nat × Int × Int × String → GptEntry :=
  fun (number, first, last, name) =>
    { number := number
      firstSector := first
      lastSector := last
      typecode := 0x1B81E7E6F50D419BA7392AEEF8DA3335#128
      guid := BitVec.ofNat 128 (0x10000000000000000000000000000000 + number)
      name := name
      attributes := 0x1000000000000000#64 }

def referenceGpt : Gpt :=
  { sectorSize := deviceSectorSize
    totalSectors := stockTotalSectors
    firstUsable := stockFirstUsable
    lastUsable := stockLastUsable
    entryCount := stockEntries
    entries := stockTable.map referenceGptEntry }

def referenceUserdataEntry : GptEntry :=
  referenceGptEntry (35, 2758144, 61731834, userdataName)

theorem referenceGpt_valid : referenceGpt.Valid := by
  constructor
  · decide
  · decide +kernel
  · decide +kernel
  · decide +kernel
  · decide +kernel

theorem referenceGpt_report : referenceGpt.report = referenceStockDisk deviceSectorSize 1 := by
  decide +kernel

/-- The default dual sizes, applied to the factory table. -/
theorem apply_plan_exact_reference :
    ∃ arguments after,
      sgdiskArguments (tailPlan referenceGpt.report (referenceUserdataEntry.partition
        deviceSectorSize) .dual (96 * gib) (32 * gib) false) "/dev/sda"
          referenceUserdataEntry.info = .ok arguments ∧
      referenceGpt.sgdisk (fun number => BitVec.ofNat 128 number) arguments = some after ∧
      after.Valid ∧
      (∀ entry, entry.number ∉ (tailPlan referenceGpt.report (referenceUserdataEntry.partition
          deviceSectorSize) .dual (96 * gib) (32 * gib) false).entries.map Entry.number →
        (entry ∈ after.entries ↔ entry ∈ referenceGpt.entries)) ∧
      (∀ item ∈ (tailPlan referenceGpt.report (referenceUserdataEntry.partition
          deviceSectorSize) .dual (96 * gib) (32 * gib) false).kept, item.name = userdataName →
        ∃ kept ∈ after.entries, kept.number = referenceUserdataEntry.number ∧
          kept.guid = referenceUserdataEntry.guid ∧
          kept.typecode = referenceUserdataEntry.typecode ∧
          kept.name = referenceUserdataEntry.name ∧
          kept.attributes = referenceUserdataEntry.attributes ∧
          verifyPreserved referenceUserdataEntry.info kept.info = .ok ()) ∧
      verifyApplied after.report (tailPlan referenceGpt.report (referenceUserdataEntry.partition
        deviceSectorSize) .dual (96 * gib) (32 * gib) false) = .ok () ∧
      classify after.report = .ok .split :=
  apply_plan_exact referenceGpt_valid (by rw [referenceGpt_report]; rfl)
    (by rw [referenceGpt_report]; rfl) (by decide +kernel) (by decide +kernel) rfl
    (show planLayout referenceGpt.report .dual (96 * gib) (32 * gib) false = .ok _ by
      rw [referenceGpt_report]
      rfl)
    (fun number => BitVec.ofNat 128 number) "/dev/sda"

end Liuqin.Layout
