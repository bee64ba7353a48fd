/-
What liuqin-switch finds after a dual install.

The installer pads and flashes the Ubuntu image (tools/install-liuqin.py), the
store step files both images, and liuqin-switch judges the result with its own
copy of the header rule.  The copies agree except in the width of the shell
that runs them: mksh, the shell on Android, computes with 32 bits and reads the
largest sizes in a header as negative.
-/

import Liuqin.Install.Padding
import Liuqin.Install.Store
import Liuqin.Switch.Reading
import Liuqin.Switch.Reference

namespace Liuqin.Install

open Liuqin.Library.Checked
open Liuqin.Library.Program
open Liuqin.Switch

/-! ### The end of the installation -/

/-- The payload goes to the front of the partition, nothing more. -/
def flash (partition payload : Bytes) : Bytes :=
  payload ++ partition.drop payload.length

/-- finish_in_fastboot as far as boot_a goes. -/
def finishInFastboot (sha256 : Sha256) (paddedImage : Bytes) (paddedSha256 : Line)
    (partitionBytes : Nat) (bootA : Bytes) : Except String Bytes := do
  refuseIf (paddedImage.length ≠ partitionBytes ∨ sha256.digest paddedImage ≠ paddedSha256)
    "the zero-filled boot image changed before it was flashed; boot_a was not written"
  return flash bootA paddedImage

def androidBootUrl : Line := "android-boot.img".toList

/-- The store arguments as the host sends them. -/
def switchStoreArguments (baseUrl ubuntuSha256 : Line) (ubuntuBytes : Nat) (androidSha256 : Line)
    (androidBytes : Nat) : StoreEntry × StoreEntry :=
  ({ set := "ubuntu"
     url := baseUrl ++ "/boot.img".toList
     sha256 := ubuntuSha256
     bytes := ubuntuBytes },
   { set := "android"
     url := baseUrl ++ ['/'] ++ androidBootUrl
     sha256 := androidSha256
     bytes := androidBytes })

/-- What one dual install sends to the tablet. -/
structure Bundle where
  /-- The project image as it was read for padding, and its digest in the manifest. -/
  bootImage : Bytes
  bootSha256 : Line
  bootBytes : Nat
  androidSha256 : Line
  androidBytes : Nat
  baseUrl : Line
  /-- The padded file when it is flashed. -/
  payload : Bytes

def Bundle.entries (bundle : Bundle) : StoreEntry × StoreEntry :=
  switchStoreArguments bundle.baseUrl bundle.bootSha256 bundle.bootBytes bundle.androidSha256
    bundle.androidBytes

/-- A dual install that ran to its end: the image was padded, the store step
completed and the payload was flashed. -/
structure Completed (sha256 : Sha256) (bundle : Bundle) (bootA : Bytes) (store : Store)
    (flashed : Bytes) : Prop where
  pinned : bootA.length = partitionBytes
  finished : ∃ file digest before,
    padBootImage sha256 bundle.bootImage bundle.bootSha256 partitionBytes = .ok (file, digest) ∧
    Reaches (storeMachine sha256) (installSwitchStore bundle.entries.1 bundle.entries.2, before)
      (.done (), store) ∧
    finishInFastboot sha256 bundle.payload digest partitionBytes bootA = .ok flashed

/-- The inputs of sha256 the install compares. -/
def hashedInputs (bundle : Bundle) (store : Store) : Set Bytes :=
  {bundle.bootImage, (store.files (.live .ubuntu)).image.getD [], bundle.payload,
    padded partitionBytes bundle.bootImage}

/-- The store is filled, and boot_a holds the stored Ubuntu image, zero-filled. -/
theorem Completed.result {sha256 : Sha256} {bundle : Bundle} {bootA flashed : Bytes} {store : Store}
    (completed : Completed sha256 bundle bootA store flashed)
    (injective : Set.InjOn sha256.digest (hashedInputs bundle store)) :
    ∃ androidImage,
      StoreReady sha256 bundle.entries.1 bundle.entries.2 store bundle.bootImage androidImage ∧
      flashed = padded partitionBytes bundle.bootImage := by
  obtain ⟨file, digest, before, isPadded, stored, isFlashed⟩ := completed.finished
  obtain ⟨fits, isSource, rfl, rfl⟩ := (padBootImage_eq_ok _ _ _ _ _ _).mp isPadded
  obtain ⟨ubuntuImage, androidImage, ready⟩ := storeReady_of_done stored
  have filed : (store.files (.live .ubuntu)).image.getD [] = ubuntuImage := by
    rw [files_directory ready.ubuntu.stored]
    rfl
  have sameImage : bundle.bootImage = ubuntuImage := by
    apply injective (by simp [hashedInputs]) (by simp [hashedInputs, filed])
    rw [isSource, ready.ubuntu.digest]
    rfl
  simp only [finishInFastboot, bind_eq_ok, refuseIf_eq_ok, pure_eq_ok, not_or, not_not] at isFlashed
  obtain ⟨_, ⟨size, payloadDigest⟩, rfl⟩ := isFlashed
  have samePayload : bundle.payload = padded partitionBytes bundle.bootImage :=
    injective (by simp [hashedInputs]) (by simp [hashedInputs]) payloadDigest
  refine ⟨androidImage, ?_, ?_⟩
  · rw [sameImage]
    exact ready
  · rw [flash, size, List.drop_of_length_le (by rw [completed.pinned]), List.append_nil,
      samePayload]

/-! ### The header rule at two widths -/

/-- A little-endian u32, without the shell's sign. -/
def fieldValue : Bytes → Option Nat
  | [first, second, third, fourth] =>
      some (first.toNat + second.toNat * 256 + third.toNat * 65536 + fourth.toNat * 16777216)
  | _ => none

def headerField (image : Bytes) (offset : Nat) : Option Nat :=
  fieldValue (range image offset 4)

/-- A size the shell reads as a positive number. -/
def Readable (bits value : Nat) : Prop := 0 < value ∧ value < 2 ^ (bits - 1)

instance (bits value : Nat) : Decidable (Readable bits value) :=
  inferInstanceAs (Decidable (_ ∧ _))

section Widths

variable {bits : Nat}

end Widths

section Identify

variable {front : Bytes} {version kernel page header dtb gki : Option Int}

end Identify

/-- The header fields of a set's image that only have to be positive. -/
def sizeFields : System → List Nat
  | .ubuntu => [8, 1648]
  | .android => [8]

/-- A shell of this width reads the image's sizes as they are. -/
def Narrow (bits : Nat) (set : System) (image : Bytes) : Prop :=
  ∀ offset ∈ sizeFields set, ∀ size ∈ headerField image offset, size < 2 ^ (bits - 1)

section Found

variable {device : Device} {tablet : Tablet device.size}

/-- In every run that comes to an answer. -/
abbrev Always {α : Type} (script : Script α) (answered : α → Tablet device.size → Prop)
    (tablet : Tablet device.size) : Prop :=
  wp (machine device) (fun _ _ => True) (fun _ _ => True) script answered tablet

end Found

/-- The image a set holds. -/
def storedImage (store : Store) (set : System) : Bytes :=
  (store.files (.live set)).image.getD []

/-- liuqin-switch's verdict: each set is usable, and boot_a is the Ubuntu set,
just when the shell is wide enough for the sizes in the header. -/
structure Judged (device : Device) (tablet : Tablet device.size) : Prop where
  checked : ∀ set quiet, Always (checkSet device set quiet)
    (fun passed _ => passed = true ↔
      Narrow device.shellBits set (storedImage tablet.store set)) tablet
  live : Always ((computeLive device).bind fun live => liveIsSet device live .ubuntu)
    (fun same after => after.history.readShort = false →
      (same = true ↔ Narrow device.shellBits .ubuntu (storedImage tablet.store .ubuntu))) tablet

theorem Fetched.storedImage {sha256 : Sha256} {entry : StoreEntry} {set : System} {store : Store}
    {image : Bytes} (fetched : Fetched sha256 entry set store image) :
    storedImage store set = image := by
  rw [Install.storedImage, files_directory fetched.stored]
  rfl

/-- Header version 3 and a kernel size of 2^31. -/
def largeKernelImage : Bytes :=
  magic ++ [0, 0, 0, 0x80] ++ List.replicate 8 0 ++ [0x2C, 0x06, 0, 0] ++ List.replicate 16 0 ++
    [3, 0, 0, 0]

/-- The length of its input as one number, in lower case. -/
def lengthDigest (data : Bytes) : Line :=
  (Library.Hex.encode 64 data.length).map Char.toLower

def lengthSha256 : Sha256 where
  digest := lengthDigest
  printed := fun data => by
    constructor
    · rw [lengthDigest, List.length_map, Library.Hex.encode_length]
    · exact hexDigit_encode 64 _

/-- Every command of the store step succeeds, and wget receives the images. -/
def delivered (_ : Nat) : (operation : StoreOp) → Store → (storeMachine lengthSha256).Fault operation
  | .removeTree _, _ => (none, true)
  | .wget (.staging .ubuntu) _, _ => (ubuntuImage [], true)
  | .wget _ _, _ => (largeKernelImage, true)
  | .writeSums _ _, _ => (none, true)
  | .testRoot, _ => ((), true)
  | .makeStore, _ => ((), true)
  | .makeTree _, _ => ((), true)
  | .stat _, _ => ((), true)
  | .sha256sum _, _ => ((), true)
  | .classify _, _ => ((), true)
  | .writeMeta _, _ => ((), true)
  | .chmod _, _ => ((), true)
  | .sync, _ => ((), true)
  | .move _ _, _ => ((), true)
  | .writeState _, _ => ((), true)
  | .print _, _ => ((), true)

end Liuqin.Install
