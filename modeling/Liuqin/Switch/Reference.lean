/-
A tablet on which nothing fails.

The faultless strategy carries every command out; a strategy that departs from
it in one command tells what that command alone can do.  The reference images
have the headers liuqin-switch looks for and next to nothing else, and the
reference digest reads the front of its input.
-/

import Mathlib.Data.Set.Function
import Liuqin.Library.Hex
import Liuqin.Switch.Script

namespace Liuqin.Switch

open Liuqin.Library
open Liuqin.Library.Program

/-- Every command is carried out, and no signal arrives. -/
def carriedOut (device : Device) :
    (operation : Op) → Tablet device.size → Choice device.size operation
  | .readBoot _ count, _ => count
  | .writeBoot data, tablet =>
      (if full : data.length = device.size then ⟨data, full⟩ else tablet.boot, true)
  | .parentDisk, _ => true
  | .getro _, _ => true
  | .setro _ _, _ => (true, true)
  | .removeTree _, _ => (true, false, false)
  | .makeTree _, _ => true
  | .move _ _, _ => true
  | .archive _ count, tablet => (count, range tablet.boot.toList 0 count, true)
  | .copyIn _ data, _ => (data, true)
  | .writeSums _ _, _ => (true, none)
  | .makeStore, _ => true
  | .makeLock, _ => true
  | .partBytes, _ => true
  | .mountStore, _ => some true
  | .testStore, _ => true
  | .testWrite, _ => true
  | .reboot, _ => true
  | .shell, _ => ()
  | .assign _, _ => ()
  | .resetExitTrap, _ => ()
  | .ignoreSignals _, _ => ()
  | .print _, _ => ()
  | .sha256sum _, _ => ()
  | .sync, _ => ()
  | .flushbufs, _ => ()
  | .testDirectory _, _ => ()
  | .testSums _, _ => ()
  | .testImage _, _ => ()
  | .catSums _, _ => ()
  | .catImage _, _ => ()
  | .writeMeta _, _ => ()
  | .writeState, _ => ()
  | .removeLock, _ => ()
  | .umount, _ => ()

def faultless (device : Device) (_ : Nat) (operation : Op) (tablet : Tablet device.size) :
    (machine device).Fault operation :=
  (carriedOut device operation tablet, false)

/-- What a run came to. -/
def exitStatus {α : Type} : Script α → Option Nat
  | .exit status => some status
  | _ => none

theorem eq_exit_of_exitStatus {α : Type} {script : Script α} {status : Nat}
    (ended : exitStatus script = some status) : script = .exit status := by
  cases script with
  | done value => cases ended
  | exit other =>
      cases ended
      rfl
  | act operation next => cases ended

theorem exits_of_play {α : Type} {device : Device} {start : Script α × Tablet device.size}
    (strategy : Nat → (operation : Op) → Tablet device.size → (machine device).Fault operation)
    (steps : Nat) {status : Nat}
    (ended : exitStatus (play (machine device) strategy steps start).1 = some status) :
    Reaches (machine device) start
      (.exit status, (play (machine device) strategy steps start).2) := by
  have run := play_reaches (machine device) strategy steps start
  generalize play (machine device) strategy steps start = result at ended run ⊢
  rcases result with ⟨script, last⟩
  have same : script = .exit status := eq_exit_of_exitStatus ended
  rw [same] at run
  exact run

/-- A run stopped before a write. -/
def isWriting {α : Type} : Script α → Bool
  | .act (.writeBoot _) _ => true
  | _ => false

theorem eq_write_of_isWriting {α : Type} {script : Script α} (writing : isWriting script = true) :
    ∃ data next, script = .act (.writeBoot data) next := by
  cases script with
  | done value => cases writing
  | exit status => cases writing
  | act operation next =>
      cases operation
      case writeBoot data => exact ⟨data, next, rfl⟩
      all_goals cases writing

theorem writes_of_play {α : Type} {device : Device} {start : Script α × Tablet device.size}
    (strategy : Nat → (operation : Op) → Tablet device.size → (machine device).Fault operation)
    (steps : Nat) (writing : isWriting (play (machine device) strategy steps start).1 = true) :
    ∃ data next, Reaches (machine device) start
      (.act (.writeBoot data) next, (play (machine device) strategy steps start).2) := by
  have run := play_reaches (machine device) strategy steps start
  generalize play (machine device) strategy steps start = result at writing run ⊢
  rcases result with ⟨script, last⟩
  obtain ⟨data, next, same⟩ := eq_write_of_isWriting writing
  have program : script = .act (.writeBoot data) next := same
  rw [program] at run
  exact ⟨data, next, run⟩

/-! ### Reference images -/

def androidImage (body : Bytes) : Bytes :=
  magic ++ [1, 0, 0, 0] ++ List.replicate 8 0 ++ [0x30, 0x06, 0, 0] ++ List.replicate 16 0 ++
    [4, 0, 0, 0] ++ body

def ubuntuImage (body : Bytes) : Bytes :=
  magic ++ [1, 0, 0, 0] ++ List.replicate 24 0 ++ [0, 0x10, 0, 0] ++ [2, 0, 0, 0] ++ body ++
    List.replicate (1600 - body.length) 0 ++ [0x7C, 0x06, 0, 0] ++ [1, 0, 0, 0]

/-- The first 64 bytes as one number, in lower case. -/
def referenceDigest (data : Bytes) : Line :=
  (Hex.encode 64 ((data.take 64).foldl (fun value byte => value * 5 + byte.toNat) 0)).map
    Char.toLower

theorem hexDigit_digitChar {digit : Nat} (bound : digit < 16) :
    hexDigit (Hex.digitChar digit).toLower = true := by
  interval_cases digit <;> rfl

theorem hexDigit_encode (width value : Nat) :
    ((Hex.encode width value).map Char.toLower).all hexDigit = true := by
  induction width generalizing value with
  | zero => rfl
  | succ width ih =>
      simp only [Hex.encode, List.map_append, List.map_cons, List.map_nil, List.all_append,
        List.all_cons, List.all_nil, Bool.and_true, Bool.and_eq_true]
      exact ⟨ih (value / 16), hexDigit_digitChar (Nat.mod_lt _ (by decide))⟩

theorem referenceDigest_length (data : Bytes) : (referenceDigest data).length = 64 := by
  rw [referenceDigest, List.length_map, Hex.encode_length]

/-- No two of these inputs collide. -/
def apart (digest : Bytes → Line) (inputs : List Bytes) : Bool :=
  inputs.all fun one => inputs.all fun two => digest one != digest two || one == two

theorem injOn_of_apart {digest : Bytes → Line} {inputs : List Bytes}
    (separate : apart digest inputs = true) : Set.InjOn digest {data | data ∈ inputs} := by
  intro one oneInput two twoInput same
  have pair := List.all_eq_true.mp (List.all_eq_true.mp separate one oneInput) two twoInput
  simpa [same] using pair

def referenceSha256 : Sha256 where
  digest := referenceDigest
  printed := fun data => ⟨referenceDigest_length data, hexDigit_encode 64 _⟩

def referenceDevice : Device where
  size := 2048
  devDir := true
  isAndroid := false
  shellBits := 64
  runningSlot := some .a
  coupled := false
  sha256 := referenceSha256
  bootDev := "dev/boot_a"
  storePath := "store"

def storedSet (device : Device) (image : Bytes) : Option Node :=
  some (.directory
    { image := some image
      sums := some [sumsLine (device.sha256.digest image)] })

/-- A partition that holds an image and zeros behind it. -/
def holding (size : Nat) (image : Bytes) (fits : image.length ≤ size) : List.Vector UInt8 size :=
  ⟨padded size image, padded_length fits⟩

theorem ubuntuImage_fits : (ubuntuImage []).length ≤ referenceDevice.size := by
  decide +kernel

/-- Both sets stored, both nodes read-only. -/
def referenceTablet (boot : List.Vector UInt8 referenceDevice.size) : Tablet referenceDevice.size where
  shell := Shell.initial
  boot := boot
  store := fun place =>
    match place with
    | .live .ubuntu => storedSet referenceDevice (padded referenceDevice.size (ubuntuImage []))
    | .live .android => storedSet referenceDevice (androidImage [7])
    | _ => none
  partRo := true
  diskRo := true
  history := History.initial

def referenceOptions : Options :=
  { noReboot := false
    dryRun := false
    storeGiven := true
    readOnlyStore := false }

def ubuntuTablet : Tablet referenceDevice.size :=
  referenceTablet (holding referenceDevice.size (ubuntuImage []) ubuntuImage_fits)

/-- to-android on the Ubuntu tablet, with nothing failing. -/
def switchedTablet : Tablet referenceDevice.size :=
  (play (machine referenceDevice) (faultless referenceDevice) 300
    (main referenceDevice referenceOptions .toAndroid, ubuntuTablet.started)).2

theorem switchedTablet_reached :
    Reaches (machine referenceDevice)
      (main referenceDevice referenceOptions .toAndroid, ubuntuTablet.started)
      (.exit 0, switchedTablet) :=
  exits_of_play (faultless referenceDevice) 300 (by decide +kernel)

end Liuqin.Switch
