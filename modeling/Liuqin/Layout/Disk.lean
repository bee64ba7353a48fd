/-
The partition table as the layout engine of the installer sees it
(tools/lib/liuqin_layout.py).

Sector numbers and byte offsets are integers, as in the source.  A table is
the list of its partitions in the order of their first sectors; `byName`
refuses a name that occurs twice, and both the classifier and the device check
go through it.
-/

import Mathlib.Data.List.Basic
import Liuqin.Library.Checked
import Liuqin.Library.Placement

namespace Liuqin.Layout

open Liuqin.Library.Checked
open Liuqin.Library.Placement

def gib : Int := 1024 ^ 3
def mib : Int := 1024 ^ 2

def deviceSectorSize : Int := 4096
def stockPartitionCount : Nat := 35
def alignment : Int := 4 * mib

def userdataName : String := "userdata"
def rootName : String := "linux_root"
def homeName : String := "linux_home"
def rootLabel : String := "LIUQIN_ROOT"
def homeLabel : String := "LIUQIN_HOME"
def linuxTypecode : String := "8300"

def rootNumber : Nat := 36
def homeNumber : Nat := 37

def minAndroid : Int := 16 * gib
def minRoot : Int := 16 * gib
def minHome : Int := 8 * gib

/-- A layout request that must stop the installation before any write. -/
structure LayoutError where
  message : String
  deriving DecidableEq, Repr

/-- One decimal of `size / scale`, ties to even.  The source divides as
floating point numbers; below 2^53 bytes that quotient is exact. -/
def tenths (size scale : Int) : Int :=
  let quotient := size * 10 / scale
  let rest := size * 10 % scale
  if 2 * rest > scale ∨ (2 * rest = scale ∧ quotient % 2 = 1) then quotient + 1 else quotient

/-- A byte count the way the plan table and the error texts print it. -/
def human (size : Int) : String :=
  let render (scale : Int) (unit : String) : String :=
    let value := tenths size scale
    toString (value / 10) ++ "." ++ toString (value % 10) ++ " " ++ unit
  if size ≥ 1024 ^ 4 then render (1024 ^ 4) "TiB"
  else if size ≥ gib then render gib "GiB"
  else if size ≥ mib then render mib "MiB"
  else if size ≥ 1024 then render 1024 "KiB"
  else toString size ++ " B"

def alignUp (offset : Int) : Int :=
  ceilTo alignment offset

structure Partition where
  number : Nat
  firstSector : Int
  lastSector : Int
  name : String
  sectorSize : Int
  deriving DecidableEq, Repr

def Partition.start (partition : Partition) : Int :=
  partition.firstSector * partition.sectorSize

/-- Exclusive byte offset of the partition end. -/
def Partition.endOffset (partition : Partition) : Int :=
  (partition.lastSector + 1) * partition.sectorSize

def Partition.size (partition : Partition) : Int :=
  partition.endOffset - partition.start

structure Disk where
  sectorSize : Int
  totalSectors : Int
  firstUsable : Int
  lastUsable : Int
  entryCount : Int
  partitions : List Partition
  deriving DecidableEq, Repr

def Disk.byName (disk : Disk) (name : String) : Except LayoutError (Option Partition) :=
  match disk.partitions.filter (fun item => item.name == name) with
  | [] => .ok none
  | [found] => .ok (some found)
  | _ :: _ :: _ => .error ⟨"the partition table has more than one " ++ name⟩

/-- Exclusive byte offset one past the last usable sector. -/
def Disk.usableEnd (disk : Disk) : Int :=
  (disk.lastUsable + 1) * disk.sectorSize

/-! ### The factory table -/

def stockTotalSectors : Int := 61731840
def stockFirstUsable : Int := 6
def stockLastUsable : Int := 61731834
def stockEntries : Int := 64

/-- The factory partition table of the 256 GB tablet: numbers, bounds, names. -/
def stockTable : List (Nat × Int × Int × String) :=
  [ (1, 6, 7, "switch"), (2, 8, 15, "ssd"), (3, 16, 23, "dbg"), (4, 24, 31, "bk01"),
    (5, 32, 63, "bk02"), (6, 64, 127, "bk03"), (7, 128, 255, "bk04"), (8, 256, 383, "keystore"),
    (9, 384, 511, "frp"), (10, 512, 1023, "countrycode"), (11, 1024, 2047, "misc"),
    (12, 2048, 4095, "bk05"), (13, 4096, 6143, "logfs"), (14, 6144, 8191, "ffu"),
    (15, 8192, 12287, "oops"), (16, 12288, 16383, "devinfo"), (17, 16384, 32767, "metadata"),
    (18, 32768, 36863, "bk06"), (19, 36864, 45055, "bk07"), (20, 45056, 61439, "bk08"),
    (21, 61440, 77823, "persist"), (22, 77824, 94207, "persistbak"),
    (23, 94208, 102399, "mtdblk"), (24, 102400, 117247, "crash_history"),
    (25, 117248, 141823, "minidump"), (26, 141824, 218623, "rawdump"),
    (27, 218624, 480767, "cust"), (28, 480768, 2708991, "super"),
    (29, 2708992, 2709023, "vbmeta_system_a"), (30, 2709024, 2709055, "vbmeta_system_b"),
    (31, 2709056, 2716159, "bk010"), (32, 2716160, 2717183, "mem"),
    (33, 2717184, 2725375, "mbnconfig"), (34, 2725376, 2758143, "rescue"),
    (35, 2758144, 61731834, "userdata") ]

/-- The factory table as a disk; `scale` restates it in smaller sectors. -/
def referenceStockDisk (sectorSize scale : Int) : Disk :=
  { sectorSize := sectorSize
    totalSectors := stockTotalSectors * scale
    firstUsable := stockFirstUsable * scale
    lastUsable := (stockLastUsable + 1) * scale - 1
    entryCount := stockEntries
    partitions := stockTable.map (fun (number, first, last, name) =>
      { number := number
        firstSector := first * scale
        lastSector := (last + 1) * scale - 1
        name := name
        sectorSize := sectorSize }) }

/-- What the installer takes the table in front of it for. -/
inductive TableState where
  | stock
  | split
  | unknown
  deriving DecidableEq, Repr

def classify (disk : Disk) : Except LayoutError TableState := do
  let userdata ← disk.byName userdataName
  let root ← disk.byName rootName
  let home ← disk.byName homeName
  let last := disk.partitions.getLast?
  if root.isSome then
    match last with
    | some item =>
        return if item.name = rootName ∨ item.name = homeName then .split else .unknown
    | none => return .unknown
  if home.isSome then
    return .unknown
  match userdata with
  | some item =>
      return if last = some item ∧ disk.partitions.length = stockPartitionCount ∧
        item.lastSector = disk.lastUsable then .stock else .unknown
  | none => return .unknown

/-- Hard device-identity checks on top of the Fastboot product check. -/
def checkStockDevice (disk : Disk) : Except LayoutError Unit := do
  refuseIf (disk.sectorSize ≠ deviceSectorSize)
    ⟨"the disk reports " ++ toString disk.sectorSize ++ "-byte logical sectors, not " ++
      toString deviceSectorSize ++ " —— 该设备不是受支持的小米平板 6 Pro（liuqin）"⟩
  refuseIf (disk.partitions.length ≠ stockPartitionCount)
    ⟨"the stock table has " ++ toString stockPartitionCount ++ " partitions, this disk has " ++
      toString disk.partitions.length ++ " —— 分区布局已被修改，拒绝继续"⟩
  let userdata ← disk.byName userdataName
  refuseIf (userdata = none ∨ disk.partitions.getLast? ≠ userdata)
    ⟨"userdata is not the last partition on the disk —— 分区布局已被修改，拒绝继续"⟩
  refuseIf (∃ item ∈ userdata, item.lastSector ≠ disk.lastUsable)
    ⟨"userdata does not run to the last usable sector —— 分区布局已被修改，拒绝继续"⟩
  let free := disk.entryCount - disk.partitions.length
  refuseIf (free < 2)
    ⟨"the partition table has only " ++ toString free ++ " free entries; two are needed"⟩

/-! ### Reading tables by name -/

theorem Disk.byName_eq_none (disk : Disk) (name : String) :
    disk.byName name = .ok none ↔ ∀ item ∈ disk.partitions, item.name ≠ name := by
  unfold Disk.byName
  constructor
  · intro absent item member same
    have kept : item ∈ disk.partitions.filter (fun other => other.name == name) :=
      List.mem_filter.mpr ⟨member, by simp [same]⟩
    split at absent
    · rename_i empty
      rw [empty] at kept
      cases kept
    · cases absent
    · cases absent
  · intro absent
    have empty : disk.partitions.filter (fun other => other.name == name) = [] := by
      apply List.filter_eq_nil_iff.mpr
      intro item member
      simpa using absent item member
    rw [empty]

theorem Disk.byName_eq_some {disk : Disk} {name : String} {found : Partition}
    (lookup : disk.byName name = .ok (some found)) :
    disk.partitions.filter (fun item => item.name == name) = [found] := by
  unfold Disk.byName at lookup
  split at lookup
  · cases lookup
  · rename_i item only
    cases lookup
    exact only
  · cases lookup

theorem Disk.byName_of_filter {disk : Disk} {name : String} {found : Partition}
    (only : disk.partitions.filter (fun item => item.name == name) = [found]) :
    disk.byName name = .ok (some found) := by
  unfold Disk.byName
  rw [only]

theorem Disk.byName_mem {disk : Disk} {name : String} {found : Partition}
    (lookup : disk.byName name = .ok (some found)) :
    found ∈ disk.partitions ∧ found.name = name := by
  have member : found ∈ disk.partitions.filter (fun item => item.name == name) := by
    rw [Disk.byName_eq_some lookup]
    exact List.mem_singleton.mpr rfl
  simpa using List.mem_filter.mp member

/-- Everything the device check establishes about an accepted table. -/
structure StockDevice (disk : Disk) (userdata : Partition) : Prop where
  sector : disk.sectorSize = deviceSectorSize
  count : disk.partitions.length = stockPartitionCount
  named : disk.byName userdataName = .ok (some userdata)
  last : disk.partitions.getLast? = some userdata
  full : userdata.lastSector = disk.lastUsable
  room : disk.partitions.length + 2 ≤ disk.entryCount

theorem checkStockDevice_iff (disk : Disk) :
    checkStockDevice disk = .ok () ↔ ∃ userdata, StockDevice disk userdata := by
  simp only [checkStockDevice, bind_eq_ok, refuseIf_eq_ok, not_not, not_or, not_lt]
  constructor
  · rintro ⟨_, sector, _, count, found, named, _, ⟨present, last⟩, _, full, room⟩
    cases found with
    | none => exact absurd rfl present
    | some userdata =>
        refine ⟨userdata, sector, count, named, last, ?_, by omega⟩
        by_contra short
        exact full ⟨userdata, rfl, short⟩
  · rintro ⟨userdata, sector, count, named, last, full, room⟩
    refine ⟨(), sector, (), count, some userdata, named, (), ⟨by simp, last⟩, (), ?_, by omega⟩
    rintro ⟨item, member, short⟩
    cases member
    exact short full

end Liuqin.Layout
