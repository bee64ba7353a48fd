/-
The GPT that sgdisk edits, and the sgdisk operations the installer uses.

Entries carry the type, the unique GUID and the attribute bits as values; the
texts of `sgdisk -i` and of the command line are their hexadecimal prints.
The order of the entry list has no meaning: the report sorts it.
-/

import Mathlib.Data.List.Sort
import Mathlib.Data.List.Nodup
import Liuqin.Library.Hex
import Liuqin.Layout.Plan

namespace Liuqin.Layout

open Liuqin.Library
open Liuqin.Library.Placement

abbrev Guid := BitVec 128
abbrev Attributes := BitVec 64

structure GptEntry where
  number : Nat
  firstSector : Int
  lastSector : Int
  typecode : Guid
  guid : Guid
  name : String
  attributes : Attributes
  deriving DecidableEq, Repr

structure Gpt where
  sectorSize : Int
  totalSectors : Int
  firstUsable : Int
  lastUsable : Int
  entryCount : Int
  entries : List GptEntry
  deriving DecidableEq, Repr

/-- Two entries share no sector. -/
def GptEntry.Apart (one two : GptEntry) : Prop :=
  one.lastSector < two.firstSector ∨ two.lastSector < one.firstSector

instance (one two : GptEntry) : Decidable (one.Apart two) :=
  inferInstanceAs (Decidable (_ ∨ _))

instance : Std.Symm GptEntry.Apart :=
  ⟨fun _ _ => Or.symm⟩

structure Gpt.Valid (table : Gpt) : Prop where
  header : 2 ≤ table.firstUsable ∧ table.lastUsable < table.totalSectors
  numbers : (table.entries.map GptEntry.number).Nodup
  numbered : ∀ entry ∈ table.entries, 1 ≤ entry.number ∧ (entry.number : Int) ≤ table.entryCount
  extent : ∀ entry ∈ table.entries, table.firstUsable ≤ entry.firstSector ∧
    entry.firstSector ≤ entry.lastSector ∧ entry.lastSector ≤ table.lastUsable
  apart : table.entries.Pairwise GptEntry.Apart

def GptEntry.partition (sectorSize : Int) (entry : GptEntry) : Partition :=
  { number := entry.number
    firstSector := entry.firstSector
    lastSector := entry.lastSector
    name := entry.name
    sectorSize := sectorSize }

/-- `sgdisk -p` prints the entries by number; parse_print sorts the rows by
first sector. -/
def Gpt.report (table : Gpt) : Disk :=
  { sectorSize := table.sectorSize
    totalSectors := table.totalSectors
    firstUsable := table.firstUsable
    lastUsable := table.lastUsable
    entryCount := table.entryCount
    partitions :=
      ((table.entries.insertionSort (fun one two => one.number ≤ two.number)).map
        (GptEntry.partition table.sectorSize)).insertionSort
          (fun one two => one.firstSector ≤ two.firstSector) }

/-! ### Texts -/

def guidText (guid : Guid) : String :=
  String.ofList (Hex.grouped [8, 4, 4, 4] (Hex.encode 32 guid.toNat))

/-- sgdisk reads a GUID with or without its dashes. -/
def readGuid (text : String) : Option Guid :=
  (Hex.decode (text.toList.filter (fun char => char ≠ '-'))).map (BitVec.ofNat 128)

def attributesText (attributes : Attributes) : String :=
  String.ofList (Hex.encode 16 attributes.toNat)

def readAttributes (text : String) : Option Attributes :=
  (Hex.decode text.toList).map (BitVec.ofNat 64)

/-- The type sgdisk's four-digit code 8300 stands for. -/
def linuxFilesystem : Guid := 0x0FC63DAF84834772_8E793D69D8477DE4#128

def readTypecode (text : String) : Option Guid :=
  if text = linuxTypecode then some linuxFilesystem else readGuid text

theorem readGuid_guidText (guid : Guid) : readGuid (guidText guid) = some guid := by
  have width : guid.toNat % 16 ^ 32 = guid.toNat := Nat.mod_eq_of_lt guid.isLt
  rw [readGuid, guidText, String.toList_ofList,
    Hex.grouped_filter _ _ (Hex.encode_ne_dash 32 guid.toNat), Hex.decode_encode, width,
    Option.map_some, BitVec.ofNat_toNat, BitVec.setWidth_eq]

theorem readAttributes_attributesText (attributes : Attributes) :
    readAttributes (attributesText attributes) = some attributes := by
  have width : attributes.toNat % 16 ^ 16 = attributes.toNat := Nat.mod_eq_of_lt attributes.isLt
  rw [readAttributes, attributesText, String.toList_ofList, Hex.decode_encode, width,
    Option.map_some, BitVec.ofNat_toNat, BitVec.setWidth_eq]

/-- A printed GUID is never mistaken for the four-digit code. -/
theorem readTypecode_guidText (guid : Guid) : readTypecode (guidText guid) = some guid := by
  have long : (guidText guid).toList.length ≠ linuxTypecode.toList.length := by
    have printed := congrArg List.length
      (Hex.grouped_filter [8, 4, 4, 4] _ (Hex.encode_ne_dash 32 guid.toNat))
    rw [Hex.encode_length] at printed
    have shorter := List.length_filter_le (fun char => decide (char ≠ '-'))
      (Hex.grouped [8, 4, 4, 4] (Hex.encode 32 guid.toNat))
    have code : linuxTypecode.toList.length = 4 := by decide
    rw [guidText, String.toList_ofList, code]
    omega
  have different : guidText guid ≠ linuxTypecode := by
    intro same
    exact long (by rw [same])
  rw [readTypecode, if_neg different, readGuid_guidText]

/-! ### sgdisk -/

/-- The options sgdisk_arguments emits, in the order sgdisk carries them out. -/
inductive SgdiskArgument where
  | setAlignment (sectors : Int)
  | delete (number : Nat)
  | new (number : Nat) (first last : Int)
  | typecode (number : Nat) (code : String)
  | partitionGuid (number : Nat) (guid : String)
  | changeName (number : Nat) (name : String)
  | attributes (number : Nat) (flags : String)
  | device (path : String)
  deriving DecidableEq, Repr

def SgdiskArgument.text : SgdiskArgument → String
  | .setAlignment sectors => "--set-alignment=" ++ toString sectors
  | .delete number => "--delete=" ++ toString number
  | .new number first last =>
      "--new=" ++ toString number ++ ":" ++ toString first ++ ":" ++ toString last
  | .typecode number code => "--typecode=" ++ toString number ++ ":" ++ code
  | .partitionGuid number guid => "--partition-guid=" ++ toString number ++ ":" ++ guid
  | .changeName number name => "--change-name=" ++ toString number ++ ":" ++ name
  | .attributes number flags => "--attributes=" ++ toString number ++ ":=:" ++ flags
  | .device path => path

/-- A running sgdisk: the table in memory and the current start alignment. -/
structure Session where
  table : Gpt
  alignment : Int
  deriving DecidableEq, Repr

def Gpt.Used (table : Gpt) (number : Nat) : Prop :=
  ∃ entry ∈ table.entries, entry.number = number

instance (table : Gpt) (number : Nat) : Decidable (table.Used number) :=
  inferInstanceAs (Decidable (∃ entry ∈ table.entries, entry.number = number))

/-- A new entry needs a free number and free usable sectors.  Sector zero asks
sgdisk for a default, which the installer never does. -/
structure Gpt.Accepts (table : Gpt) (entry : GptEntry) : Prop where
  free : ¬table.Used entry.number
  numbered : 1 ≤ entry.number ∧ (entry.number : Int) ≤ table.entryCount
  explicit : 0 < entry.firstSector ∧ 0 < entry.lastSector
  extent : table.firstUsable ≤ entry.firstSector ∧ entry.firstSector ≤ entry.lastSector ∧
    entry.lastSector ≤ table.lastUsable
  apart : ∀ other ∈ table.entries, other.Apart entry

instance (table : Gpt) (entry : GptEntry) : Decidable (table.Accepts entry) :=
  decidable_of_iff
    (¬table.Used entry.number ∧ (1 ≤ entry.number ∧ (entry.number : Int) ≤ table.entryCount) ∧
      (0 < entry.firstSector ∧ 0 < entry.lastSector) ∧
      (table.firstUsable ≤ entry.firstSector ∧ entry.firstSector ≤ entry.lastSector ∧
        entry.lastSector ≤ table.lastUsable) ∧ ∀ other ∈ table.entries, other.Apart entry)
    ⟨fun ⟨free, numbered, explicit, extent, apart⟩ => ⟨free, numbered, explicit, extent, apart⟩,
      fun ⟨free, numbered, explicit, extent, apart⟩ => ⟨free, numbered, explicit, extent, apart⟩⟩

def Gpt.remove (table : Gpt) (number : Nat) : Gpt :=
  { table with entries := table.entries.filter (fun entry => entry.number ≠ number) }

def Gpt.add (table : Gpt) (entry : GptEntry) : Gpt :=
  { table with entries := table.entries ++ [entry] }

def Gpt.change (table : Gpt) (number : Nat) (edit : GptEntry → GptEntry) : Gpt :=
  { table with
    entries := table.entries.map (fun entry => if entry.number = number then edit entry else entry) }

def Session.change (session : Session) (number : Nat) (edit : GptEntry → GptEntry) :
    Option Session :=
  if session.table.Used number then
    some { session with table := session.table.change number edit }
  else none

/-- The entry `--new` creates; `fresh` stands for the random unique GUID. -/
def newEntry (fresh : Nat → Guid) (number : Nat) (first last : Int) : GptEntry :=
  { number := number
    firstSector := first
    lastSector := last
    typecode := linuxFilesystem
    guid := fresh number
    name := ""
    attributes := 0 }

def Session.step (fresh : Nat → Guid) (session : Session) : SgdiskArgument → Option Session
  | .setAlignment sectors => some { session with alignment := sectors }
  | .delete number =>
      if session.table.Used number then
        some { session with table := session.table.remove number }
      else none
  | .new number first last =>
      let entry := newEntry fresh number (ceilTo session.alignment first) last
      if session.table.Accepts entry then
        some { session with table := session.table.add entry }
      else none
  | .typecode number code => do
      let value ← readTypecode code
      session.change number (fun entry => { entry with typecode := value })
  | .partitionGuid number guid => do
      let value ← readGuid guid
      session.change number (fun entry => { entry with guid := value })
  | .changeName number name =>
      session.change number (fun entry => { entry with name := name })
  | .attributes number flags => do
      let value ← readAttributes flags
      session.change number (fun entry => { entry with attributes := value })
  | .device _ => some session

/-- sgdisk starts with its default alignment and writes the table only when
every option succeeded. -/
def Gpt.sgdisk (fresh : Nat → Guid) (table : Gpt) (arguments : List SgdiskArgument) : Option Gpt :=
  (arguments.foldlM (Session.step fresh) { table := table, alignment := 2048 }).map Session.table

/-! ### The partition report -/

/-- The fields of `sgdisk -i` the installer preserves. -/
structure Info where
  typecode : String
  guid : String
  firstSector : Int
  lastSector : Int
  attributes : String
  name : String
  deriving DecidableEq, Repr

def GptEntry.info (entry : GptEntry) : Info :=
  { typecode := guidText entry.typecode
    guid := guidText entry.guid
    firstSector := entry.firstSector
    lastSector := entry.lastSector
    attributes := attributesText entry.attributes
    name := entry.name }

end Liuqin.Layout
