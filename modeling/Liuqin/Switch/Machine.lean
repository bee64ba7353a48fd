/-
The tablet liuqin-switch runs on, one command of the script at a time.

boot_a keeps its length whatever is written to it.  Writes to it may store
anything and report anything, reads may stop early, read-only flag requests
may fail with or without their effect, and every write to the store may fail.
Store files read back as they are.  A read that delivers less than it was
asked for makes dd fail.

The history of a run is part of its state; no command reads it.
-/

import Mathlib.Data.Vector.Basic
import Liuqin.Library.Program
import Liuqin.Switch.Image

namespace Liuqin.Switch

open Liuqin.Library.Program

inductive Slot where
  | a
  | b
  deriving DecidableEq, Repr

/-- What stays fixed while the script runs. -/
structure Device where
  size : Nat
  devDir : Bool
  isAndroid : Bool
  shellBits : Nat
  runningSlot : Option Slot
  /-- The kernel reports a partition read-only when its disk is. -/
  coupled : Bool
  sha256 : Sha256
  bootDev : String
  storePath : String

/-! ### The store -/

structure SetFiles where
  image : Option Bytes
  sums : Option (List Line)
  deriving DecidableEq, Repr

inductive Node where
  | directory (files : SetFiles)
  | other
  deriving DecidableEq, Repr

/-- store/set, store/.set.old and store/.set.new -/
inductive Place where
  | live (set : System)
  | old (set : System)
  | staging (set : System)
  deriving DecidableEq, Repr

def Place.set : Place → System
  | .live set => set
  | .old set => set
  | .staging set => set

abbrev Store := Place → Option Node

def Store.isDirectory (store : Store) (place : Place) : Bool :=
  match store place with
  | some (.directory _) => true
  | _ => false

def Store.files (store : Store) (place : Place) : SetFiles :=
  match store place with
  | some (.directory files) => files
  | _ => { image := none, sums := none }

/-! ### State -/

/-- The variables the traps read, and the disposition of HUP, INT and TERM. -/
structure Shell where
  ignoring : Bool
  rwArmed : Bool
  rwPartWas : Option Bool
  rwDisk : Bool
  rwDiskWas : Option Bool
  rwFailed : Bool
  mountedHere : Bool
  locked : Bool
  deriving DecidableEq, Repr

def Shell.initial : Shell :=
  { ignoring := false
    rwArmed := false
    rwPartWas := none
    rwDisk := false
    rwDiskWas := none
    rwFailed := false
    mountedHere := false
    locked := false }

structure History where
  /-- Every input of sha256sum. -/
  hashed : List Bytes
  /-- Writes to boot_a, and the bytes of the last one. -/
  writes : Nat
  written : Bytes
  /-- The store when the first write was issued. -/
  firstStore : Store
  rebooted : Bool
  /-- A request to set a read-only flag again failed. -/
  restoreFailed : Bool
  /-- A SHA256SUMS file was not written as it should be. -/
  sumsFailed : Bool
  /-- A read before the first write stopped early. -/
  readShort : Bool
  /-- The first write failed, or reading it back did not give its bytes. -/
  forwardFailed : Bool
  /-- A flag request before the second write failed, or found no disk. -/
  flagFailed : Bool
  /-- A later write, or a read after it, was not carried out in full. -/
  rollbackRefused : Bool

def History.initial : History :=
  { hashed := []
    writes := 0
    written := []
    firstStore := fun _ => none
    rebooted := false
    restoreFailed := false
    sumsFailed := false
    readShort := false
    forwardFailed := false
    flagFailed := false
    rollbackRefused := false }

structure Tablet (size : Nat) where
  shell : Shell
  boot : List.Vector UInt8 size
  store : Store
  partRo : Bool
  diskRo : Bool
  history : History

/-! ### Commands -/

inductive Flag where
  | part
  | disk
  deriving DecidableEq, Repr

inductive Op where
  | shell
  | assign (edit : Shell → Shell)
  | resetExitTrap
  | ignoreSignals (ignore : Bool)
  | print (text : String)
  | sha256sum (data : Bytes)
  | readBoot (skip count : Nat)
  | writeBoot (data : Bytes)
  | sync
  | flushbufs
  | parentDisk
  | getro (flag : Flag)
  | setro (flag : Flag) (value : Bool)
  | testDirectory (place : Place)
  | testSums (place : Place)
  | testImage (place : Place)
  | catSums (place : Place)
  | catImage (place : Place)
  | removeTree (place : Place)
  | makeTree (place : Place)
  | move (source target : Place)
  | archive (place : Place) (count : Nat)
  | copyIn (place : Place) (data : Bytes)
  | writeSums (place : Place) (line : Line)
  | writeMeta (place : Place)
  | writeState
  | makeStore
  | makeLock
  | removeLock
  | umount
  | partBytes
  | mountStore
  | testStore
  | testWrite
  | reboot

def Reply : Op → Type
  | .shell => Shell
  | .sha256sum _ => Line
  | .readBoot _ _ => Bytes
  | .writeBoot _ => Bool
  | .parentDisk => Bool
  | .getro _ => Option Bool
  | .setro _ _ => Bool
  | .testDirectory _ => Bool
  | .testSums _ => Bool
  | .testImage _ => Bool
  | .catSums _ => List Line
  | .catImage _ => Bytes
  | .makeTree _ => Bool
  | .move _ _ => Bool
  | .archive _ _ => Bool
  | .copyIn _ _ => Bool
  | .makeStore => Bool
  | .makeLock => Bool
  | .partBytes => Bool
  | .mountStore => Option Bool
  | .testStore => Bool
  | .testWrite => Bool
  | .reboot => Bool
  | _ => Unit

/-- A reply, and whether a signal arrived that the shell does not ignore. -/
abbrev Answer (operation : Op) : Type := Reply operation × Bool

def Choice (size : Nat) : Op → Type
  | .readBoot _ _ => Nat
  | .writeBoot _ => List.Vector UInt8 size × Bool
  | .parentDisk => Bool
  | .getro _ => Bool
  | .setro _ _ => Bool × Bool
  | .removeTree _ => Bool × Bool × Bool
  | .makeTree _ => Bool
  | .move _ _ => Bool
  | .archive _ _ => Nat × Bytes × Bool
  | .copyIn _ _ => Bytes × Bool
  | .writeSums _ _ => Bool × Option (List Line)
  | .makeStore => Bool
  | .makeLock => Bool
  | .partBytes => Bool
  | .mountStore => Option Bool
  | .testStore => Bool
  | .testWrite => Bool
  | .reboot => Bool
  | _ => Unit

namespace Tablet

variable {size : Nat}

def reported (coupled : Bool) (tablet : Tablet size) : Flag → Bool
  | .part => tablet.partRo || (coupled && tablet.diskRo)
  | .disk => tablet.diskRo

/-- The node's own flag. -/
def own (tablet : Tablet size) : Flag → Bool
  | .part => tablet.partRo
  | .disk => tablet.diskRo

def setFlag (tablet : Tablet size) (value : Bool) : Flag → Tablet size
  | .part => { tablet with partRo := value }
  | .disk => { tablet with diskRo := value }

def note (tablet : Tablet size) (edit : History → History) : Tablet size :=
  { tablet with history := edit tablet.history }

def place (tablet : Tablet size) (place : Place) (node : Option Node) : Tablet size :=
  { tablet with store := Function.update tablet.store place node }

end Tablet

/-- A flag request matters to the history up to the second write. -/
def History.flagRequest (ok : Bool) (history : History) : History :=
  { history with flagFailed := history.flagFailed || (decide (history.writes ≤ 1) && !ok) }

def History.readBack (wanted got : Bytes) (skip count : Nat) (history : History) : History :=
  let complete := got == wanted
  { history with
    readShort := history.readShort || (history.writes == 0 && !complete)
    forwardFailed := history.forwardFailed ||
      (history.writes == 1 && !(got == range history.written skip count))
    rollbackRefused := history.rollbackRefused || (decide (2 ≤ history.writes) && !complete) }

def History.wroteBoot (store : Store) (data stored : Bytes) (ok : Bool) (history : History) :
    History :=
  { history with
    writes := history.writes + 1
    written := data
    firstStore := if history.writes = 0 then store else history.firstStore
    forwardFailed := history.forwardFailed || (history.writes == 0 && !ok)
    rollbackRefused := history.rollbackRefused ||
      (decide (1 ≤ history.writes) && !(ok && stored == data)) }

/-- What is left of a node when its removal fails. -/
def Node.torn (keepImage keepSums : Bool) : Node → Node
  | .directory files =>
      .directory { image := if keepImage then files.image else none
                   sums := if keepSums then files.sums else none }
  | .other => .other

def editFiles (store : Store) (place : Place) (edit : SetFiles → SetFiles) : Option Node :=
  match store place with
  | some (.directory files) => some (.directory (edit files))
  | node => node

/-- One command: its reply and its effect. -/
def react (device : Device) :
    (operation : Op) → Choice device.size operation → Tablet device.size →
      Reply operation × Tablet device.size
  | .shell, _, tablet => (tablet.shell, tablet)
  | .assign edit, _, tablet => ((), { tablet with shell := edit tablet.shell })
  | .resetExitTrap, _, tablet => ((), tablet)
  | .ignoreSignals ignore, _, tablet =>
      ((), { tablet with shell := { tablet.shell with ignoring := ignore } })
  | .print _, _, tablet => ((), tablet)
  | .sha256sum data, _, tablet =>
      (device.sha256.digest data,
        tablet.note fun history => { history with hashed := data :: history.hashed })
  | .readBoot skip count, delivered, tablet =>
      let wanted := range tablet.boot.toList skip count
      let got := wanted.take delivered
      (got, tablet.note (History.readBack wanted got skip count))
  | .writeBoot data, (stored, ok), tablet =>
      (ok, { tablet with boot := stored }.note
        (History.wroteBoot tablet.store data stored.toList ok))
  | .sync, _, tablet => ((), tablet)
  | .flushbufs, _, tablet => ((), tablet)
  | .parentDisk, found, tablet => (found, tablet.note (History.flagRequest found))
  | .getro flag, works, tablet =>
      (bif works then some (tablet.reported device.coupled flag) else none,
        tablet.note (History.flagRequest works))
  | .setro flag value, (ok, effect), tablet =>
      let after := if ok || effect then tablet.setFlag value flag else tablet
      (ok, (after.note (History.flagRequest ok)).note fun history =>
        { history with restoreFailed := history.restoreFailed || (value && !ok) })
  | .testDirectory place, _, tablet => (tablet.store.isDirectory place, tablet)
  | .testSums place, _, tablet => ((tablet.store.files place).sums.isSome, tablet)
  | .testImage place, _, tablet => ((tablet.store.files place).image.isSome, tablet)
  | .catSums place, _, tablet => ((tablet.store.files place).sums.getD [], tablet)
  | .catImage place, _, tablet => ((tablet.store.files place).image.getD [], tablet)
  | .removeTree place, (complete, keepImage, keepSums), tablet =>
      ((), tablet.place place (if complete then none
        else (tablet.store place).map (Node.torn keepImage keepSums)))
  | .makeTree place, works, tablet =>
      match tablet.store place with
      | some (.directory _) => (works, tablet)
      | some .other => (false, tablet)
      | none =>
          bif works then
            (true, tablet.place place (some (.directory { image := none, sums := none })))
          else (false, tablet)
  | .move source target, works, tablet =>
      -- a directory at the target takes the source in under its own name
      match works, tablet.store source, tablet.store target with
      | true, some _, some (.directory _) => (true, tablet.place source none)
      | true, some .other, some .other =>
          (true, (tablet.place target (some .other)).place source none)
      | true, some node, none => (true, (tablet.place target (some node)).place source none)
      | _, _, _ => (false, tablet)
  | .archive place count, (delivered, stored, works), tablet =>
      let wanted := range tablet.boot.toList 0 count
      let ok := works && tablet.store.isDirectory place && decide (wanted.length ≤ delivered) &&
        stored.length == wanted.length
      (ok, tablet.place place
        (editFiles tablet.store place fun files => { files with image := some stored }))
  | .copyIn place data, (stored, works), tablet =>
      (works && tablet.store.isDirectory place && stored.length == data.length, tablet.place place
        (editFiles tablet.store place fun files => { files with image := some stored }))
  | .writeSums place line, (ok, leftover), tablet =>
      ((), (tablet.place place (editFiles tablet.store place fun files =>
        { files with sums := if ok then some [line] else leftover })).note fun history =>
          { history with sumsFailed := history.sumsFailed || !ok })
  | .writeMeta _, _, tablet => ((), tablet)
  | .writeState, _, tablet => ((), tablet)
  | .makeStore, works, tablet => (works, tablet)
  | .makeLock, works, tablet => (works, tablet)
  | .removeLock, _, tablet => ((), tablet)
  | .umount, _, tablet => ((), tablet)
  | .partBytes, works, tablet => (works, tablet)
  | .mountStore, works, tablet => (works, tablet)
  | .testStore, works, tablet => (works, tablet)
  | .testWrite, works, tablet => (works, tablet)
  | .reboot, works, tablet =>
      (works, tablet.note fun history => { history with rebooted := true })

/-- The second half of a fault is a signal during the command. -/
def machine (device : Device) : Machine Answer (Tablet device.size) where
  Fault := fun operation => Choice device.size operation × Bool
  perform := fun operation fault tablet =>
    let (reply, after) := react device operation fault.1 tablet
    ((reply, fault.2 && !tablet.shell.ignoring), after)

end Liuqin.Switch
