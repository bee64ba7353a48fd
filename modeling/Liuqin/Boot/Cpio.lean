/-
The newc archive of `patch-android-boot-ksu.py`: how it is read and written.

Entries are held by name.  Reading walks the bytes from the front; writing puts
the entries in name order, with inodes counted from 300000.
-/

import Liuqin.Library.Bytes
import Mathlib.Data.List.Perm.Basic

namespace Liuqin.Boot

open Library Library.Bytes

abbrev Name := List Char

structure CpioEntry where
  mode : Int
  data : Bytes := []
  uid : Int := 0
  gid : Int := 0
  rdevMajor : Int := 0
  rdevMinor : Int := 0
  deriving DecidableEq, Repr

abbrev Entries := List (Name × CpioEntry)

def cpioMagic : Bytes := [48, 55, 48, 55, 48, 49]

def trailer : Name := ['T', 'R', 'A', 'I', 'L', 'E', 'R', '!', '!', '!']

def firstInode : Nat := 300000

/-! ### The entries as a dictionary -/

def put : Entries → Name → CpioEntry → Entries
  | [], name, entry => [(name, entry)]
  | (other, old) :: rest, name, entry =>
      if other = name then (name, entry) :: rest else (other, old) :: put rest name entry

def get : Entries → Name → Option CpioEntry
  | [], _ => none
  | (other, entry) :: rest, name => if other = name then some entry else get rest name

/-! ### load -/

inductive Failure where
  | patch (message : String)
  | value
  | struct
  | unicode
  deriving DecidableEq, Repr

/-- The fields of a header, eight digits each. -/
def readFields (data : Bytes) : Nat → Int → Option (List Int)
  | 0, _ => some []
  | count + 1, offset =>
      (readInt (slice data offset (offset + 8))).bind (fun field =>
        (readFields data count (offset + 8)).map (fun fields => field :: fields))

/-- `raw.rstrip(b'\0')` -/
def rstrip (raw : Bytes) : Bytes := (raw.reverse.dropWhile (fun byte => byte = 0)).reverse

/-- What stands behind a header whose name ends in NUL: no offset means that the walk is over. -/
def loadMember (data : Bytes) (fields : List Int) (name : Name) (offset : Int)
    (entries : Entries) : Option Int × Entries :=
  let size := fields.getD 6 0
  if name = ['.'] ∨ name = ['.', '.'] then (some offset, entries)
  else if name = trailer then ((find data cpioMagic offset).map (fun rest => (rest : Int)), entries)
  else
    (some (alignTo (offset + size) 4),
      put entries name
        { mode := fields.getD 1 0, data := slice data offset (offset + size),
          uid := fields.getD 2 0, gid := fields.getD 3 0,
          rdevMajor := fields.getD 9 0, rdevMinor := fields.getD 10 0 })

def loadStep (data : Bytes) (offset : Int) (entries : Entries) :
    Except Failure (Option Int × Entries) :=
  if slice data offset (offset + 6) ≠ cpioMagic then
    .error (.patch ("unsupported cpio header at offset " ++ toString offset))
  else
    match readFields data 13 (offset + 6) with
    | none => .error .value
    | some fields =>
        let nameLen := fields.getD 11 0
        let raw := slice data (offset + 110) (offset + 110 + nameLen)
        if raw.getLast? ≠ some 0 then .error (.patch "cpio entry name was not NUL-terminated")
        else
          match decode (rstrip raw) with
          | none => .error .unicode
          | some name =>
              .ok (loadMember data fields name (alignTo (offset + 110 + nameLen) 4) entries)

/-- The walk; a header may send it back, so it is given a number of steps. -/
def loadLoop (data : Bytes) : Nat → Int → Entries → Option (Except Failure Entries)
  | 0, _, _ => none
  | fuel + 1, offset, entries =>
      if offset < data.length then
        match loadStep data offset entries with
        | .error failure => some (.error failure)
        | .ok (none, entries) => some (.ok entries)
        | .ok (some next, entries) => loadLoop data fuel next entries
      else some (.ok entries)

/-- `Cpio.load` comes back with this result. -/
def Loads (data : Bytes) (result : Except Failure Entries) : Prop :=
  ∃ fuel, loadLoop data fuel 0 [] = some result

/-! ### dump -/

def headerFields (inode : Nat) (entry : CpioEntry) (name : Name) : List Int :=
  [inode, entry.mode, entry.uid, entry.gid, 1, 0, entry.data.length, 0, 0, entry.rdevMajor,
    entry.rdevMinor, name.length + 1, 0]

def header (inode : Nat) (entry : CpioEntry) (name : Name) : Bytes :=
  cpioMagic ++ (headerFields inode entry name).flatMap hexField

def nameBefore (one other : Name) : Bool := decide (encode one ≤ encode other)

def sortedNames (entries : Entries) : List Name := (entries.map Prod.fst).mergeSort nameBefore

def dumpHead (out : Bytes) (inode : Nat) (entry : CpioEntry) (name : Name) : Bytes :=
  padTo 4 (out ++ header inode entry name ++ (encode name ++ [0]))

def dumpData (out : Bytes) (entry : CpioEntry) : Bytes :=
  if entry.data ≠ [] then padTo 4 (out ++ entry.data) else out

def dumpName (entries : Entries) (state : Bytes × Nat) (name : Name) : Bytes × Nat :=
  match get entries name with
  | none => state  -- not reached: every sorted name is a key
  | some entry => (dumpData (dumpHead state.1 state.2 entry name) entry, state.2 + 1)

def dumpNames (entries : Entries) (names : List Name) : Bytes × Nat :=
  names.foldl (dumpName entries) ([], firstInode)

def dump (entries : Entries) : Bytes :=
  let (out, inode) := dumpNames entries (sortedNames entries)
  dumpHead out inode { mode := 0o755 } trailer

end Liuqin.Boot
