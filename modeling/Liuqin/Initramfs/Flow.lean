/-
The boot flow of the stage-1 init script (initramfs/init), from the enumeration of
the nodes to stage 2.

A charger boot, the emergency shell and the panic behind switch_root are ends of
the run.
-/

import Liuqin.Initramfs.Storage

namespace Liuqin.Initramfs

open Liuqin.Library Liuqin.Library.Program
open Liuqin.Slot (Slot initSlot)

/-- What the image was built for. -/
structure Image where
  /-- storage_mode is persistent. -/
  persistent : Bool
  /-- The profile is gnome or native, whose root is a directory of the partition. -/
  subroot : Bool
  deriving DecidableEq, Repr

def mdev : Script Unit := run .mdev
def cmdline : Script Bytes := run .cmdline
def slotTool (mark : Bool) (slot : Slot) : Script Bool := run (.slotTool mark slot)
def charger : Script Bool := run .charger
def usb : Script Bool := run .usb
def installer : Script Bool := run .installer
def makeLinks : Script Bool := run .makeLinks
def linkLabel (label : String) (name : Name) : Script Bool := run (.linkLabel label name)
def telnetd : Script Unit := run .telnetd
def stage2 : Script Unit := run .stage2

/-- Waiting for the nodes; whether there are any. -/
def enumerate (found : Bool) : Nat → Script Bool
  | 0 => return found
  | attempts + 1 => do
      mdev
      let names ← glob .dev
      let (found, _) ← sealNodes found true names
      enumerate found attempts

/-! ### The rescue shell -/

def installerRequired : List String := ["boot_a", "boot_b", "persist"]

def installerOptional : List String := ["userdata", "linux_root", "linux_home"]

/-- The node with this name; none where there are two. -/
def labelNode (label : String) (target : Option Name) : Uevents → Option (Option Name)
  | [] => some target
  | (name, partname) :: rest =>
      if partname ≠ some label then labelNode label target rest
      else if target.isSome then none
      else labelNode label (some name) rest

/-- The partition of an installer label: it is there, and read-only. -/
def linkPartition (label : String) (target : Name) : Script Bool := do
  let block ← isBlock .dev target
  if block = false then return false
  else
    let ro ← getro .dev target
    if ro = some true then linkLabel label target else return false

def linkPartitions : List String → Script Bool
  | [] => return true
  | label :: rest => do
      let infos ← uevents
      match labelNode label none infos with
      | none => return false
      | some none =>
          if label ∈ installerOptional then linkPartitions rest else return false
      | some (some target) =>
          let linked ← linkPartition label target
          if linked = true then linkPartitions rest else return false

/-- `start_stage1_telnet` -/
def startTelnet (safe : Bool) : Script Unit := do
  if safe = false then return ()
  else
    let installs ← installer
    if installs = false then telnetd
    else
      let made ← makeLinks
      if made = false then return ()
      else
        let linked ← linkPartitions (installerRequired ++ installerOptional)
        if linked = true then telnetd else return ()

/-- The rescue shell after a rejected root; ufs_safe is returned. -/
def rescue (safe : Bool) : Script Bool := do
  if safe = false then return false
  else
    let network ← usb
    if network = false then return true
    else
      startTelnet true
      return true

/-! ### The persistent root -/

/-- slot_success_ok -/
def slotSuccess : Script Bool := do
  let text ← cmdline
  match initSlot text with
  | none => return false
  | some slot =>
      let already ← slotTool false slot
      if already = true then return true
      else
        let marked ← slotTool true slot
        if marked = false then return false else slotTool false slot

/-- The branches that lock the nodes once more. -/
def relock (safe : Bool) (shell : Shell) : Script Bool := do
  if shell.fallbackSafe = true then
    let locked ← lockAll
    rescue (safe && locked)
  else rescue false

/-- The persistent boot; ufs_safe is returned where it comes back. -/
def persistentBoot (image : Image) : Script Bool := do
  let (prepared, shell) ← preparePersistentRoot image.subroot Shell.initial
  if prepared = false then relock true shell
  else
    let slotOk ← slotSuccess
    if slotOk = false then
      let (safe, _) ← abort shell
      rescue safe
    else
      let (safe, shell) ← switchPersistentRoot shell
      relock safe shell

/-- The gadget part of the boot. -/
def network (image : Image) (safe : Bool) : Script Unit := do
  let up ← usb
  if up = true ∧ image.persistent = false then startTelnet safe else return ()

/-- Whether stage 2 is entered. -/
def finish (safe : Bool) : Script Empty := do
  if safe = true then
    stage2
    .exit 0
  else .exit 0

/-- The script behind the mounts of the kernel filesystems. -/
def main (image : Image) : Script Empty := do
  mdev
  let found ← enumerate false 10
  let safe ← (if found = true then lockAll else return false)
  let charging ← charger
  if image.subroot = true ∧ charging = true then .exit 0
  else
    network image safe
    if image.persistent = true ∧ safe = true then
      let safe ← persistentBoot image
      finish safe
    else finish safe

end Liuqin.Initramfs
