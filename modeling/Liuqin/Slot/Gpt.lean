/-
The slot tool (device/boot/liuqin-mark-slot-successful.c).

The disk is a string of bytes behind a cache that only fsync empties.  Reads may
stop early, a write stores whole sectors and may stop early, and every call may
fail; nobody else writes to the disk meanwhile.  Numbers read from the disk range
over all values of their width, and 64-bit sums wrap.
-/

import Mathlib.Data.BitVec
import Liuqin.Library.Barrier
import Liuqin.Library.Program
import Liuqin.Slot.Cmdline

namespace Liuqin.Slot

open Liuqin.Library Liuqin.Library.Bytes Liuqin.Library.Program
open Liuqin.Library.Barrier (Cached)

/-! ### Constants -/

def sectorSize : Nat := 4096
def diskBytes : Nat := 2923429888
def entryCount : Nat := 96
def entrySize : Nat := 128
def headerSize : Nat := 92
def entriesBytes : Nat := entryCount * entrySize
def entriesSectors : Nat := (entryCount * entrySize + sectorSize - 1) / sectorSize
def firstUsable : Nat := 6

def bootFirst : Slot → Nat
  | .a => 75014
  | .b => 344107

def bootLast : Slot → Nat
  | .a => 124165
  | .b => 393258

def bootName : Slot → Bytes
  | .a => encode "boot_a".toList
  | .b => encode "boot_b".toList

abbrev Attributes := BitVec 64

def priorityMask : Attributes := 3#64 <<< 48
def activeBit : Attributes := 1#64 <<< 50
def triesMask : Attributes := 7#64 <<< 51
def successfulBit : Attributes := 1#64 <<< 54
def unbootableBit : Attributes := 1#64 <<< 55

/-! ### Numbers on the disk -/

def le32 (data : Bytes) (offset : Nat) : Nat := fromLittle (part data offset (offset + 4))

def le64 (data : Bytes) (offset : Nat) : Nat := fromLittle (part data offset (offset + 8))

def putLe32 (data : Bytes) (offset value : Nat) : Bytes := overwrite data offset (little 4 value)

def putLe64 (data : Bytes) (offset value : Nat) : Bytes := overwrite data offset (little 8 value)

/-- A number in 64 bits. -/
def wrap (value : Nat) : Nat := value % 2 ^ 64

def crcBit (crc : BitVec 32) : BitVec 32 :=
  (crc >>> 1) ^^^ (0xedb88320#32 &&& (0#32 - (crc &&& 1#32)))

def crcByte (crc : BitVec 32) (byte : UInt8) : BitVec 32 :=
  Nat.iterate crcBit 8 (crc ^^^ BitVec.ofNat 32 byte.toNat)

def crc32Bytes (data : Bytes) : Nat := (~~~(data.foldl crcByte (~~~0#32))).toNat

/-! ### One copy of the table -/

structure GptCopy where
  header : Bytes
  entries : Bytes
  headerLba : Nat
  entriesLba : Nat
  deriving DecidableEq, Repr

def GptCopy.entry (copy : GptCopy) (index : Nat) : Bytes :=
  part copy.entries (index * entrySize) (index * entrySize + entrySize)

/-- The name in UTF-16 and the zero behind it. -/
def nameIs (entry name : Bytes) : Bool :=
  if 35 < name.length then false
  else part entry 56 (56 + 2 * name.length + 2) == (name ++ [0]).flatMap fun byte => [byte, 0]

/-- Where the array of the entries may begin. -/
def arrayPlaced (headerLba first last lba : Nat) : Bool :=
  if headerLba = 1 then
    !(decide (lba < 2) || decide (wrap (first + 2 ^ 64 - entriesSectors) < lba))
  else !(decide (lba ≤ last) || decide (wrap (headerLba + 2 ^ 64 - entriesSectors) < lba))

/-- The checks of a header up to the read of its entries, its sum apart. -/
def headerPlaced (diskLbas headerLba : Nat) (header : Bytes) : Bool :=
  part header 0 8 == encode "EFI PART".toList && le32 header 12 == headerSize &&
    le64 header 24 == headerLba &&
    le64 header 32 == (if headerLba = 1 then wrap (diskLbas + 2 ^ 64 - 1) else 1) &&
    le64 header 40 == firstUsable && !decide (le64 header 48 < bootLast .b) &&
    !decide (diskLbas ≤ wrap (le64 header 48 + entriesSectors + 1)) &&
    le32 header 80 == entryCount && le32 header 84 == entrySize &&
    arrayPlaced headerLba (le64 header 40) (le64 header 48) (le64 header 72)

def headerSum (header : Bytes) : Nat := crc32Bytes ((putLe32 header 16 0).take headerSize)

def headerAccepted (diskLbas headerLba : Nat) (header : Bytes) : Bool :=
  headerPlaced diskLbas headerLba header && headerSum header == le32 header 16

/-- The first entry of that name, if it has the pinned sectors. -/
def findBoot (copy : GptCopy) (slot : Slot) : Option Nat :=
  ((List.range entryCount).find? fun index => nameIs (copy.entry index) (bootName slot)).filter
    fun index => le64 (copy.entry index) 32 == bootFirst slot &&
      le64 (copy.entry index) 40 == bootLast slot

def refreshCrcs (copy : GptCopy) : GptCopy :=
  let summed := putLe32 copy.header 88 (crc32Bytes copy.entries)
  let cleared := putLe32 summed 16 0
  { copy with header := putLe32 cleared 16 (crc32Bytes (cleared.take headerSize)) }

/-- The attributes of an entry. -/
def GptCopy.attributes (copy : GptCopy) (index : Nat) : Attributes :=
  BitVec.ofNat 64 (le64 copy.entries (index * entrySize + 48))

/-- The slot looks like the one the bootloader chose. -/
def chosen (attributes : Attributes) : Bool :=
  attributes &&& priorityMask == priorityMask && attributes &&& activeBit != 0#64 &&
    (attributes &&& triesMask != 0#64 || attributes &&& successfulBit != 0#64)

def successful (attributes : Attributes) : Bool :=
  attributes &&& successfulBit != 0#64 && attributes &&& unbootableBit == 0#64

/-- The attributes once marked. -/
def marked (attributes : Attributes) : Attributes :=
  (attributes ||| successfulBit) &&& ~~~unbootableBit

def GptCopy.setAttributes (copy : GptCopy) (index : Nat) (attributes : Attributes) : GptCopy :=
  { copy with entries := putLe64 copy.entries (index * entrySize + 48) attributes.toNat }

/-- What main decides between the reads and the writes: the entry of the slot in
the primary copy and in the backup, once this has the primary's entries. -/
def examine (slot : Slot) (primary backup : GptCopy) : Option (Nat × Nat) :=
  if part primary.header 56 72 ≠ part backup.header 56 72 ∨
      part primary.header 40 56 ≠ part backup.header 40 56 then none
  else do
    let own ← findBoot primary slot
    let _ ← findBoot primary slot.other
    let _ ← findBoot backup slot
    let _ ← findBoot backup slot.other
    let copied ← findBoot { backup with entries := primary.entries } slot
    if chosen (primary.attributes own) then some (own, copied) else none

/-- A copy as it is written. -/
def updated (copy : GptCopy) (index : Nat) (attributes : Attributes) : GptCopy :=
  refreshCrcs (copy.setAttributes index attributes)

/-! ### Calls -/

inductive Op where
  | lstat
  | openDisk (writing : Bool)
  | fileSize
  | geometry
  | pread (length offset : Nat)
  | pwrite (data : Bytes) (offset : Nat)
  | fsync
  | roSet (value : Bool)

/-- The size in bytes, the size of a sector and the read-only flag. -/
abbrev Geometry := Nat × Nat × Bool

def Reply : Op → Type
  | .lstat => Bool
  | .openDisk _ => Bool
  | .fileSize => Nat
  | .geometry => Option Geometry
  | .pread _ _ => Option Bytes
  | .pwrite _ _ => Option Nat
  | .fsync => Bool
  | .roSet _ => Bool

abbrev Script := Prog Reply

def lstat : Script Bool := Prog.perform Op.lstat
def openDisk (writing : Bool) : Script Bool := Prog.perform (Op.openDisk writing)
def fileSize : Script Nat := Prog.perform Op.fileSize
def geometry : Script (Option Geometry) := Prog.perform Op.geometry
def pread (length offset : Nat) : Script (Option Bytes) := Prog.perform (Op.pread length offset)
def pwrite (data : Bytes) (offset : Nat) : Script (Option Nat) :=
  Prog.perform (Op.pwrite data offset)
def fsync : Script Bool := Prog.perform Op.fsync
def roSet (value : Bool) : Script Bool := Prog.perform (Op.roSet value)

/-- `full_pread`; none stands for -1.  Each round reads at least a byte. -/
def fullPread : Nat → Bytes → Nat → Nat → Script (Option Bytes)
  | _, buffer, 0, _ => return some buffer
  | 0, _, _ + 1, _ => return none
  | fuel + 1, buffer, length + 1, offset => do
      match ← pread (length + 1) offset with
      | none => return none
      | some [] => return none
      | some (byte :: rest) =>
          fullPread fuel (buffer ++ byte :: rest) (length + 1 - (rest.length + 1))
            (offset + (rest.length + 1))

/-- `full_pwrite`; false stands for -1. -/
def fullPwrite : Nat → Bytes → Nat → Script Bool
  | _, [], _ => return true
  | 0, _ :: _, _ => return false
  | fuel + 1, byte :: data, offset => do
      match ← pwrite (byte :: data) offset with
      | none => return false
      | some 0 => return false
      | some (count + 1) => fullPwrite fuel ((byte :: data).drop (count + 1)) (offset + (count + 1))

def readAt (length offset : Nat) : Script (Option Bytes) := fullPread length [] length offset

def writeAt (data : Bytes) (offset : Nat) : Script Bool := fullPwrite data.length data offset

def loadGptCopy (diskLbas headerLba : Nat) (allowStaleEntriesCrc : Bool) :
    Script (Option GptCopy) := do
  if diskLbas < 2 * (1 + entriesSectors) + firstUsable ∨
      (headerLba ≠ 1 ∧ headerLba ≠ wrap (diskLbas + 2 ^ 64 - 1)) then
    return none
  else
    match ← readAt sectorSize (headerLba * sectorSize) with
    | none => return none
    | some header =>
        if headerAccepted diskLbas headerLba header = true then
          match ← readAt entriesBytes (le64 header 72 * sectorSize) with
          | none => return none
          | some entries =>
              if crc32Bytes entries ≠ le32 header 88 ∧ allowStaleEntriesCrc = false then
                return none
              else
                return some
                  { header := header
                    entries := entries
                    headerLba := headerLba
                    entriesLba := le64 header 72 }
        else return none

/-! ### The tool -/

inductive Operation where
  | mark
  | check
  deriving DecidableEq, Repr

structure Request where
  image : Option String
  operation : Operation
  slot : Slot
  deriving DecidableEq, Repr

def parseSlot (text : String) : Option Slot :=
  if text = "a" ∨ text = "_a" ∨ text = "A" then some .a
  else if text = "b" ∨ text = "_b" ∨ text = "B" then some .b
  else none

/-- The loop over argv; none stands for the usage. -/
def readArguments (image : Option String) (wanted : Option (Operation × Slot)) :
    List String → Option Request
  | [] => wanted.map fun found => { image := image, operation := found.1, slot := found.2 }
  | [_] => none
  | option :: value :: rest =>
      if option = "--test-image" ∧ image.isNone then readArguments (some value) wanted rest
      else if wanted.isNone ∧ (option = "--mark" ∨ option = "--check") then
        match parseSlot value with
        | none => none
        | some slot =>
            readArguments image
              (some (if option = "--mark" then .mark else .check, slot)) rest
      else none

/-- What main reads of its surroundings. -/
structure Setting where
  /-- LIUQIN_SLOT_SUCCESS_TESTING -/
  testing : Option String
  cmdline : Bytes
  mounts : Option Bytes

/-- What fgets takes of the text into so many bytes. -/
def fgets : Nat → Bytes → Bytes
  | 0, _ => []
  | _, [] => []
  | room + 1, byte :: rest => if byte = 10 then [byte] else byte :: fgets room rest

def fgetsAll : Nat → Bytes → List Bytes
  | 0, _ => []
  | _, [] => []
  | fuel + 1, byte :: rest =>
      let line := fgets 1023 (byte :: rest)
      line :: fgetsAll fuel ((byte :: rest).drop line.length)

def sdeIsUnmounted (setting : Setting) : Bool :=
  match setting.mounts with
  | none => false
  | some text =>
      (fgetsAll text.length text).all fun line => !(encode "/dev/sde".toList).isPrefixOf line

/-- fd, made_rw and rc at the label out. -/
structure Ending where
  opened : Bool
  madeRw : Bool
  ok : Bool

def Ending.refused (opened madeRw : Bool) : Script Ending :=
  return { opened := opened, madeRw := madeRw, ok := false }

/-- The size the disk is taken to have; none where main goes to out. -/
def measure (testing : Bool) : Script (Option Nat) := do
  if testing = true then
    let bytes ← fileSize
    return some bytes
  else
    match ← geometry with
    | none => return none
    | some (bytes, logical, ro) =>
        return if bytes ≠ diskBytes ∨ logical ≠ sectorSize ∨ ro ≠ true then none else some bytes

/-- The disk is opened for writing; whether it is, and made_rw. -/
def reopen (testing : Bool) : Script (Bool × Bool × Bool) := do
  if testing = true then
    let opened ← openDisk true
    return (opened, opened, false)
  else
    let cleared ← roSet false
    if cleared = true then
      let opened ← openDisk true
      return (opened, opened, true)
    else return (false, true, false)

def writeCopy (copy : GptCopy) : Script Bool := do
  let entries ← writeAt copy.entries (copy.entriesLba * sectorSize)
  if entries = true then
    let header ← writeAt copy.header (copy.headerLba * sectorSize)
    if header = true then fsync else return false
  else return false

/-- The copies are read again. -/
def verifyCopies (diskLbas : Nat) (slot : Slot) (attributes : Attributes) : Script Bool := do
  match ← loadGptCopy diskLbas 1 false with
  | none => return false
  | some primary =>
      match ← loadGptCopy diskLbas (wrap (diskLbas + 2 ^ 64 - 1)) false with
      | none => return false
      | some backup =>
          if primary.entries = backup.entries then
            match findBoot primary slot, findBoot backup slot with
            | some one, some other =>
                return primary.attributes one == attributes &&
                  backup.attributes other == attributes
            | _, _ => return false
          else return false

/-- Backup GPT first. -/
def writeCopies (diskLbas : Nat) (slot : Slot) (primary backup : GptCopy)
    (attributes : Attributes) : Script Bool := do
  let first ← writeCopy backup
  if first = true then
    let second ← writeCopy primary
    if second = true then verifyCopies diskLbas slot attributes else return false
  else return false

/-- main between the guards and the label out. -/
def work (testing : Bool) (operation : Operation) (slot : Slot) : Script Ending := do
  let stands ← lstat
  if stands = false then Ending.refused false false
  else
    let opened ← openDisk false
    if opened = false then Ending.refused false false
    else
      match ← measure testing with
      | none => Ending.refused true false
      | some bytes =>
          if bytes ≠ diskBytes ∨ bytes % sectorSize ≠ 0 then Ending.refused true false
          else
            let diskLbas := bytes / sectorSize
            match ← loadGptCopy diskLbas 1 false with
            | none => Ending.refused true false
            | some primary =>
                match ← loadGptCopy diskLbas (wrap (diskLbas + 2 ^ 64 - 1)) true with
                | none => Ending.refused true false
                | some backup =>
                    match examine slot primary backup with
                    | none => Ending.refused true false
                    | some (own, copied) =>
                        match operation with
                        | .check =>
                            return { opened := true
                                     madeRw := false
                                     ok := successful (primary.attributes own) }
                        | .mark =>
                            let attributes := marked (primary.attributes own)
                            let (writable, opened, madeRw) ← reopen testing
                            if writable = true then
                              let ok ← writeCopies diskLbas slot (updated primary own attributes)
                                (updated { backup with entries := primary.entries } copied
                                  attributes) attributes
                              return { opened := opened, madeRw := madeRw, ok := ok }
                            else Ending.refused opened madeRw

/-- The disk is sealed again, and the tool ends. -/
def conclude (testing opened madeRw ok : Bool) : Script Empty := do
  if opened = true ∧ testing = false ∧ madeRw = true then
    let sealed ← roSet true
    .exit (if sealed = true ∧ ok = true then 0 else 1)
  else .exit (if ok = true then 0 else 1)

/-- From the label out on. -/
def leave (testing : Bool) (ending : Ending) : Script Empty := do
  let opened ← (if ending.opened = false ∧ ending.madeRw = true then openDisk false
    else return ending.opened)
  conclude testing opened ending.madeRw ending.ok

def markSlot (testing : Bool) (operation : Operation) (slot : Slot) : Script Empty := do
  let ending ← work testing operation slot
  leave testing ending

def main (setting : Setting) (arguments : List String) : Script Empty :=
  match readArguments none none arguments with
  | none => .exit 2
  | some request =>
      if request.image.isSome then
        if setting.testing = some "unsafe-mock-only" then
          markSlot true request.operation request.slot
        else .exit 2
      else if cmdlineSlot setting.cmdline = none ∨ sdeIsUnmounted setting = false then .exit 1
      else if cmdlineSlot setting.cmdline ≠ some request.slot then .exit 1
      else markSlot false request.operation request.slot

/-! ### The disk -/

structure Tablet where
  cache : Cached
  ro : Bool
  /-- Some call failed. -/
  failed : Bool

def Tablet.disk (tablet : Tablet) : Bytes := tablet.cache.seen

def Choice : Op → Type
  | .lstat => Bool
  | .openDisk _ => Bool
  | .fileSize => Unit
  | .geometry => Bool
  | .pread _ _ => Option Nat
  | .pwrite _ _ => Nat × Bool
  | .fsync => Bool
  | .roSet _ => Bool × Bool

def Tablet.note (tablet : Tablet) (works : Bool) : Tablet :=
  { tablet with failed := tablet.failed || !works }

/-- What a write of so many sectors stores; nothing goes behind the end. -/
def stored (disk data : Bytes) (offset sectors : Nat) : Bytes :=
  (data.take (sectors * sectorSize)).take (disk.length - offset)

/-- One call: its reply and its effect. -/
def react (logical : Nat) : (operation : Op) → Choice operation → Tablet → Reply operation × Tablet
  | .lstat, works, tablet => (works, tablet.note works)
  | .openDisk _, works, tablet => (works, tablet.note works)
  | .fileSize, _, tablet => (tablet.disk.length, tablet)
  | .geometry, works, tablet =>
      (bif works then some (tablet.disk.length, logical, tablet.ro) else none,
        tablet.note works)
  | .pread length offset, delivered, tablet =>
      let got := delivered.map fun count => (part tablet.disk offset (offset + length)).take count
      (got, tablet.note (got.any fun text => !text.isEmpty))
  | .pwrite data offset, (sectors, works), tablet =>
      let text := stored tablet.disk data offset sectors
      (bif works then some text.length else none,
        { tablet with
          cache := tablet.cache.write (overwrite tablet.disk offset text)
          failed := tablet.failed || !(works && !text.isEmpty) })
  | .fsync, works, tablet =>
      (works, { tablet.note works with
        cache := bif works then tablet.cache.barrier else tablet.cache })
  | .roSet value, (works, effect), tablet =>
      (works, { tablet.note works with ro := if works || effect then value else tablet.ro })

def machine (logical : Nat) : Machine Reply Tablet where
  Fault := Choice
  perform := react logical

end Liuqin.Slot
