/-
Rendering a plan as one sgdisk invocation, and the two checks the installer
makes on the re-read table.
-/

import Liuqin.Layout.Gpt

namespace Liuqin.Layout

open Liuqin.Library.Checked

/-- The options that create linux_root or linux_home. -/
def createArguments (sectorSize : Int) (item : Entry) : List SgdiskArgument :=
  [.new item.number (item.firstSector sectorSize) (item.lastSector sectorSize),
    .typecode item.number linuxTypecode,
    .changeName item.number item.name]

/-- The options that recreate userdata with its old identity. -/
def shrinkArguments (sectorSize : Int) (item : Entry) (info : Info) : List SgdiskArgument :=
  [.new item.number (item.firstSector sectorSize) (item.lastSector sectorSize),
    .typecode item.number info.typecode,
    .partitionGuid item.number info.guid,
    .changeName item.number userdataName,
    .attributes item.number info.attributes]

/-- Render one sgdisk invocation that realizes the whole plan at once.  A plan
without a userdata entry is an AttributeError in the source. -/
def sgdiskArguments (plan : Plan) (device : String) (info : Info) :
    Except LayoutError (List SgdiskArgument) := do
  let sector := plan.disk.sectorSize
  match plan.entry userdataName with
  | none => .error ⟨"'NoneType' object has no attribute 'number'"⟩
  | some userdata =>
      refuseIf (userdata.action ≠ .delete ∧ userdata.firstSector sector ≠ info.firstSector)
        ⟨"userdata would move; only shrinking in place is supported"⟩
      return [.setAlignment 1, .delete userdata.number] ++
        (if userdata.action ≠ .delete then shrinkArguments sector userdata info else []) ++
        (plan.entries.filter (fun item => item.name ≠ userdataName)).flatMap
          (createArguments sector) ++ [.device device]

/-- One entry of a freshly re-read table against the plan. -/
def verifyEntry (disk : Disk) (item : Entry) : Except LayoutError Unit := do
  let found ← disk.byName item.name
  if item.action = .delete then
    refuseIf (found ≠ none) ⟨item.name ++ " still exists after the partition-table edit"⟩
  else
    match found with
    | none => .error ⟨item.name ++ " is missing after the partition-table edit"⟩
    | some partition =>
        refuseIf (partition.firstSector ≠ item.firstSector disk.sectorSize ∨
            partition.lastSector ≠ item.lastSector disk.sectorSize)
          ⟨item.name ++ " landed at " ++ toString partition.firstSector ++ "-" ++
            toString partition.lastSector ++ ", not " ++
            toString (item.firstSector disk.sectorSize) ++ "-" ++
            toString (item.lastSector disk.sectorSize)⟩

def verifyEntries (disk : Disk) : List Entry → Except LayoutError Unit
  | [] => .ok ()
  | item :: rest => do
      verifyEntry disk item
      verifyEntries disk rest

/-- Compare a freshly re-read table with the plan; raise on any difference. -/
def verifyApplied (disk : Disk) (plan : Plan) : Except LayoutError Unit :=
  verifyEntries disk plan.entries

def verifyField (field before after : String) : Except LayoutError Unit :=
  refuseIf (before.toLower ≠ after.toLower)
    ⟨"userdata " ++ field ++ " changed across the edit: " ++ before ++ " -> " ++ after⟩

/-- userdata keeps its identity across the edit; only its end sector moves. -/
def verifyPreserved (before after : Info) : Except LayoutError Unit := do
  verifyField "typecode" before.typecode after.typecode
  verifyField "guid" before.guid after.guid
  verifyField "attributes" before.attributes after.attributes
  verifyField "name" before.name after.name
  verifyField "first sector" (toString before.firstSector) (toString after.firstSector)

theorem verifyPreserved_of_same {before after : Info} (typecode : before.typecode = after.typecode)
    (guid : before.guid = after.guid) (attributes : before.attributes = after.attributes)
    (name : before.name = after.name) (first : before.firstSector = after.firstSector) :
    verifyPreserved before after = .ok () := by
  simp [verifyPreserved, verifyField, typecode, guid, attributes, name, first]

theorem verifyEntries_eq_ok (disk : Disk) (entries : List Entry) :
    verifyEntries disk entries = .ok () ↔ ∀ item ∈ entries, verifyEntry disk item = .ok () := by
  induction entries with
  | nil => simp [verifyEntries]
  | cons item rest ih =>
      rw [verifyEntries, bind_eq_ok, List.forall_mem_cons, ← ih]
      exact ⟨fun ⟨_, one, others⟩ => ⟨one, others⟩, fun ⟨one, others⟩ => ⟨(), one, others⟩⟩

theorem verifyEntry_deleted {disk : Disk} {item : Entry} (deleted : item.action = .delete)
    (absent : disk.byName item.name = .ok none) : verifyEntry disk item = .ok () := by
  simp [verifyEntry, deleted, absent]

theorem verifyEntry_found {disk : Disk} {item : Entry} {partition : Partition}
    (kept : item.action ≠ .delete) (named : disk.byName item.name = .ok (some partition))
    (first : partition.firstSector = item.firstSector disk.sectorSize)
    (last : partition.lastSector = item.lastSector disk.sectorSize) :
    verifyEntry disk item = .ok () := by
  simp [verifyEntry, kept, named, first, last]

/-! ### Tables under sgdisk's edits -/

theorem Gpt.used_add (table : Gpt) (entry : GptEntry) (number : Nat) :
    (table.add entry).Used number ↔ table.Used number ∨ entry.number = number := by
  simp [Gpt.Used, Gpt.add, or_and_right, exists_or]

theorem Gpt.not_used_remove (table : Gpt) (number : Nat) : ¬(table.remove number).Used number := by
  rintro ⟨entry, member, same⟩
  simp only [Gpt.remove, List.mem_filter, decide_eq_true_eq] at member
  exact member.2 same

/-- Editing the entry that was just added leaves every other entry alone. -/
theorem Gpt.change_add {table : Gpt} {entry : GptEntry} {number : Nat}
    (free : ¬table.Used number) (same : entry.number = number) (edit : GptEntry → GptEntry) :
    (table.add entry).change number edit = table.add (edit entry) := by
  have others : table.entries.map
      (fun other => if other.number = number then edit other else other) = table.entries := by
    calc
      table.entries.map (fun other => if other.number = number then edit other else other) =
          table.entries.map id := by
        apply List.map_congr_left
        intro other member
        exact if_neg (fun used => free ⟨other, member, used⟩)
      _ = table.entries := List.map_id _
  simp [Gpt.change, Gpt.add, others, same]

theorem Gpt.Accepts.congr {table : Gpt} {one two : GptEntry} (accepts : table.Accepts one)
    (number : two.number = one.number) (first : two.firstSector = one.firstSector)
    (last : two.lastSector = one.lastSector) : table.Accepts two := by
  obtain ⟨free, numbered, explicit, extent, apart⟩ := accepts
  constructor
  · rw [number]
    exact free
  · rw [number]
    exact numbered
  · rw [first, last]
    exact explicit
  · rw [first, last]
    exact extent
  · intro other member
    unfold GptEntry.Apart
    rw [first, last]
    exact apart other member

theorem Gpt.Valid.add {table : Gpt} (valid : table.Valid) {entry : GptEntry}
    (accepts : table.Accepts entry) : (table.add entry).Valid := by
  obtain ⟨header, numbers, numbered, extent, apart⟩ := valid
  constructor
  · exact header
  · have absent : entry.number ∉ table.entries.map GptEntry.number := by
      intro member
      obtain ⟨other, present, same⟩ := List.mem_map.mp member
      exact accepts.free ⟨other, present, same⟩
    simpa [Gpt.add, List.nodup_append, numbers] using absent
  · intro other member
    rcases List.mem_append.mp member with old | added
    · exact numbered other old
    · rw [List.mem_singleton.mp added]
      exact accepts.numbered
  · intro other member
    rcases List.mem_append.mp member with old | added
    · exact extent other old
    · rw [List.mem_singleton.mp added]
      exact accepts.extent
  · apply List.pairwise_append.mpr
    refine ⟨apart, List.pairwise_singleton _ _, ?_⟩
    intro other old added member
    rw [List.mem_singleton.mp member]
    exact accepts.apart other old

theorem Gpt.Valid.remove {table : Gpt} (valid : table.Valid) (number : Nat) :
    (table.remove number).Valid := by
  obtain ⟨header, numbers, numbered, extent, apart⟩ := valid
  have kept : List.Sublist (table.remove number).entries table.entries := List.filter_sublist
  exact { header := header
          numbers := numbers.sublist (kept.map _)
          numbered := fun entry member => numbered entry (kept.subset member)
          extent := fun entry member => extent entry (kept.subset member)
          apart := apart.sublist kept }

/-- sgdisk takes an entry behind everything the table holds. -/
theorem Gpt.accepts_behind {table : Gpt} (valid : table.Valid) {entry : GptEntry}
    (free : ¬table.Used entry.number)
    (numbered : 1 ≤ entry.number ∧ (entry.number : Int) ≤ table.entryCount)
    (extent : table.firstUsable ≤ entry.firstSector ∧ entry.firstSector ≤ entry.lastSector ∧
      entry.lastSector ≤ table.lastUsable)
    (behind : ∀ other ∈ table.entries, other.lastSector < entry.firstSector) :
    table.Accepts entry := by
  have header := valid.header
  exact { free := free
          numbered := numbered
          explicit := by omega
          extent := extent
          apart := fun other member => Or.inl (behind other member) }

/-! ### Running the argument list -/

def createdEntry (fresh : Nat → Guid) (number : Nat) (first last : Int) (name : String) :
    GptEntry :=
  { newEntry fresh number first last with name := name }

theorem ceilTo_one (offset : Int) : Library.Placement.ceilTo 1 offset = offset := by
  unfold Library.Placement.ceilTo
  rw [Int.ediv_one]
  omega

theorem Session.change_added {table : Gpt} {entry : GptEntry} {number : Nat}
    (free : ¬table.Used number) (same : entry.number = number) (edit : GptEntry → GptEntry) :
    Session.change { table := table.add entry, alignment := 1 } number edit =
      some { table := table.add (edit entry), alignment := 1 } := by
  have used : (table.add entry).Used number :=
    (Gpt.used_add table entry number).mpr (Or.inr same)
  simp only [Session.change, if_pos used, Gpt.change_add free same]

/-- Creating one Linux partition adds exactly its entry. -/
theorem createArguments_run (fresh : Nat → Guid) {table : Gpt} (sectorSize : Int) (item : Entry)
    (accepts : table.Accepts (createdEntry fresh item.number (item.firstSector sectorSize)
      (item.lastSector sectorSize) item.name)) :
    (createArguments sectorSize item).foldlM (Session.step fresh)
        { table := table, alignment := 1 } =
      some { table := table.add (createdEntry fresh item.number (item.firstSector sectorSize)
              (item.lastSector sectorSize) item.name), alignment := 1 } := by
  have opened : table.Accepts (newEntry fresh item.number (item.firstSector sectorSize)
      (item.lastSector sectorSize)) := accepts.congr rfl rfl rfl
  have free : ¬table.Used item.number := accepts.free
  have code : readTypecode linuxTypecode = some linuxFilesystem := rfl
  simp only [createArguments, List.foldlM_cons, List.foldlM_nil, Session.step, ceilTo_one,
    if_pos opened, code, Option.bind_eq_bind, Option.bind_some]
  rw [Session.change_added free rfl, Option.bind_some, Session.change_added free rfl]
  rfl

/-- userdata after the edit: the old entry with a new end. -/
def shrunkEntry (userdata : GptEntry) (last : Int) : GptEntry :=
  { userdata with lastSector := last }

/-- Recreating userdata restores every field but the end sector. -/
theorem shrinkArguments_run (fresh : Nat → Guid) {table : Gpt} {sectorSize : Int} {item : Entry}
    {userdata : GptEntry} (number : item.number = userdata.number)
    (named : userdata.name = userdataName)
    (first : item.firstSector sectorSize = userdata.firstSector)
    (accepts : table.Accepts (shrunkEntry userdata (item.lastSector sectorSize))) :
    (shrinkArguments sectorSize item userdata.info).foldlM (Session.step fresh)
        { table := table, alignment := 1 } =
      some { table := table.add (shrunkEntry userdata (item.lastSector sectorSize)),
             alignment := 1 } := by
  have opened : table.Accepts (newEntry fresh item.number (item.firstSector sectorSize)
      (item.lastSector sectorSize)) := accepts.congr number first rfl
  have free : ¬table.Used item.number := by
    rw [number]
    exact accepts.free
  have rebuilt : ({ newEntry fresh item.number (item.firstSector sectorSize)
      (item.lastSector sectorSize) with
        typecode := userdata.typecode
        guid := userdata.guid
        name := userdataName
        attributes := userdata.attributes } : GptEntry) =
      shrunkEntry userdata (item.lastSector sectorSize) := by
    simp only [newEntry, shrunkEntry, number, first, ← named]
  simp only [shrinkArguments, List.foldlM_cons, List.foldlM_nil, Session.step, ceilTo_one,
    if_pos opened, GptEntry.info, readTypecode_guidText, readGuid_guidText,
    readAttributes_attributesText, Option.bind_eq_bind, Option.bind_some]
  rw [Session.change_added free rfl, Option.bind_some, Session.change_added free rfl,
    Option.bind_some, Session.change_added free rfl, Option.bind_some,
    Session.change_added free rfl, Option.bind_some, ← rebuilt]
  rfl

/-! ### Reports of a table -/

theorem Gpt.report_perm (table : Gpt) :
    table.report.partitions.Perm (table.entries.map (GptEntry.partition table.sectorSize)) :=
  (List.perm_insertionSort _ _).trans ((List.perm_insertionSort _ _).map _)

theorem Gpt.report_sorted (table : Gpt) :
    table.report.partitions.Pairwise (fun one two => one.firstSector ≤ two.firstSector) := by
  have total : Std.Total (fun one two : Partition => one.firstSector ≤ two.firstSector) :=
    ⟨fun one two => le_total one.firstSector two.firstSector⟩
  have transitive : IsTrans Partition (fun one two => one.firstSector ≤ two.firstSector) :=
    ⟨fun one two three => le_trans⟩
  exact List.pairwise_insertionSort _ _

theorem Gpt.mem_report (table : Gpt) (item : Partition) :
    item ∈ table.report.partitions ↔
      ∃ entry ∈ table.entries, entry.partition table.sectorSize = item := by
  rw [(Gpt.report_perm table).mem_iff, List.mem_map]

/-- A name lookup in the report is a name lookup in the entry list. -/
theorem Gpt.report_filter (table : Gpt) (name : String) :
    (table.report.partitions.filter (fun item => item.name == name)).Perm
      ((table.entries.filter (fun entry => entry.name == name)).map
        (GptEntry.partition table.sectorSize)) := by
  have permuted := (Gpt.report_perm table).filter (fun item => item.name == name)
  rwa [List.filter_map] at permuted

theorem Gpt.report_byName_some {table : Gpt} {name : String} {entry : GptEntry}
    (only : table.entries.filter (fun entry => entry.name == name) = [entry]) :
    table.report.byName name = .ok (some (entry.partition table.sectorSize)) := by
  have permuted := Gpt.report_filter table name
  rw [only, List.map_singleton, List.perm_singleton] at permuted
  exact Disk.byName_of_filter permuted

theorem Gpt.report_byName_none {table : Gpt} {name : String}
    (absent : ∀ entry ∈ table.entries, entry.name ≠ name) :
    table.report.byName name = .ok none := by
  apply (Disk.byName_eq_none _ _).mpr
  intro item member
  obtain ⟨entry, present, rfl⟩ := (Gpt.mem_report table item).mp member
  exact absent entry present

/-- In a table sorted by first sector the partition behind all others is last. -/
theorem getLast_of_behind {partitions : List Partition}
    (sorted : partitions.Pairwise (fun one two => one.firstSector ≤ two.firstSector))
    {item : Partition} (member : item ∈ partitions)
    (behind : ∀ other ∈ partitions, other ≠ item → other.firstSector < item.firstSector) :
    partitions.getLast? = some item := by
  induction partitions using List.reverseRecOn with
  | nil => cases member
  | append_singleton front last =>
      rw [List.getLast?_concat]
      by_cases same : last = item
      · rw [same]
      · rcases List.mem_append.mp member with early | final
        · have below := (List.pairwise_append.mp sorted).2.2 item early last
            (List.mem_singleton.mpr rfl)
          have above := behind last (List.mem_append_right _ (List.mem_singleton.mpr rfl)) same
          omega
        · exact absurd (List.mem_singleton.mp final).symm same

theorem firstSector_le_last {partitions : List Partition}
    (sorted : partitions.Pairwise (fun one two => one.firstSector ≤ two.firstSector))
    {last : Partition} (final : partitions.getLast? = some last) :
    ∀ item ∈ partitions, item.firstSector ≤ last.firstSector := by
  intro item member
  obtain ⟨front, rfl⟩ := List.getLast?_eq_some_iff.mp final
  rcases List.mem_append.mp member with early | same
  · exact (List.pairwise_append.mp sorted).2.2 item early last (List.mem_singleton.mpr rfl)
  · rw [List.mem_singleton.mp same]

end Liuqin.Layout
