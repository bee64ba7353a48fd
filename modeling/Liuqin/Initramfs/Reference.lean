/-
A tablet on which every call of the init script works.

The disk sda has a root and a home partition and one partition of Android; sde is
the disk of the slot tool.
-/

import Liuqin.Initramfs.Flow

namespace Liuqin.Initramfs

open Liuqin.Library Liuqin.Library.Bytes Liuqin.Library.Program

def referenceEntries : Entries :=
  ["sda", "sda1", "sda34", "sda35", "sde"].map fun name => (name, .node)

/-- The disk of a partition. -/
def referenceDisk (name : Name) : Option Name :=
  if 3 < name.toList.length ∧ name.toList.take 3 = ['s', 'd', 'a'] then some "sda" else none

def referenceUevents : Uevents :=
  [("sda", none), ("sda1", some "boot_a"), ("sda34", some "linux_root"),
    ("sda35", some "linux_home"), ("sde", none)]

/-- Each call works; the contract holds on the mount for writing if so wanted. -/
def workingChoice (again : Bool) : (operation : Op) → Choice operation
  | .mdev => referenceEntries
  | .glob _ => ()
  | .stands _ _ => ()
  | .isBlock _ _ => ()
  | .canonical _ _ => true
  | .setro _ _ => (true, true)
  | .setrw _ => (true, true)
  | .getro _ _ => true
  | .uevents => referenceUevents
  | .partlabel => none
  | .findfs .root => some "sda34"
  | .findfs .home => some "sda35"
  | .blockSize => "4096"
  | .size _ => some 33554432
  | .sourceMounted _ => false
  | .mountRo _ => true
  | .mountRw _ _ => true
  | .bind => true
  | .umount _ => (true, true)
  | .rootOk .probe => true
  | .rootOk .newroot => again
  | .move _ _ => true
  | .stopDaemons => ()
  | .cmdline => encode "androidboot.slot_suffix=_a".toList
  | .slotTool _ _ => (true, true)
  | .charger => false
  | .usb => true
  | .installer => false
  | .makeLinks => true
  | .linkLabel _ _ => true
  | .telnetd => ()
  | .stage2 => ()
  | .switchRoot => ()
  | .marker => true
  | .mountTable => []
  | .remountRo => ()

def working (again : Bool) (_ : Nat) (operation : Op) (_ : Tablet) :
    (machine referenceDisk).Fault operation :=
  (workingChoice again operation, none)

/-- Where the boot begins: nothing is mounted, nothing learned, and the nodes and
their flags are anything. -/
def Tablet.start (entries : Entries) (own : Name → Bool) : Tablet :=
  { entries := entries
    own := own
    probe := []
    newroot := []
    moved := false
    changes := 0
    looked := 0
    history := [] }

/-- A boot of the product image hands over. -/
theorem reference_switches : ∃ next last,
    Reaches (machine referenceDisk)
      (main { persistent := true, subroot := true }, Tablet.start referenceEntries fun _ => false)
      (.act .switchRoot next, last) ∧ last.changes = last.looked := by
  obtain ⟨next, run⟩ := acts_of_play (machine referenceDisk) (working true) 341
    (by decide +kernel : (play (machine referenceDisk) (working true) 341
      (main { persistent := true, subroot := true },
        Tablet.start referenceEntries fun _ => false)).1.pending = some .switchRoot)
  exact ⟨next, _, run, by decide +kernel⟩

/-- One whose root changed between the two looks starts the rescue shell. -/
theorem reference_rescues : ∃ next last,
    Reaches (machine referenceDisk)
      (main { persistent := true, subroot := true }, Tablet.start referenceEntries fun _ => false)
      (.act .telnetd next, last) ∧ last.changes = 0 := by
  obtain ⟨next, run⟩ := acts_of_play (machine referenceDisk) (working false) 390
    (by decide +kernel : (play (machine referenceDisk) (working false) 390
      (main { persistent := true, subroot := true },
        Tablet.start referenceEntries fun _ => false)).1.pending = some .telnetd)
  exact ⟨next, _, run, by decide +kernel⟩

end Liuqin.Initramfs
