/-
What the stage-1 init script (initramfs/init) finds under it: the sd* nodes with
their read-only flags, the two mount points of the persistent root, and the calls
it makes.  The storage guard of the system it hands over to
(liuqin-gnome-storage-guard) finds the same nodes.

Every call may fail and every answer the kernel does not owe is free.  The set of
nodes may change at any moment, which is counted from the last mdev on.
-/

import Liuqin.Library.Program
import Liuqin.Slot.Cmdline

namespace Liuqin.Initramfs

open Liuqin.Library Liuqin.Library.Program
open Liuqin.Library.Lines (Text)

abbrev Name := String

/-! ### The tablet -/

/-- What lies under a name in the directory of the devices. -/
inductive Entry where
  | node
  | link (target : Name)
  | plain
  deriving DecidableEq, Repr

abbrev Entries := List (Name × Entry)

/-- The directory of the devices, before its move and after. -/
inductive Dir where
  | dev
  | moved
  deriving DecidableEq, Repr

/-- /mnt/persistent-root and /newroot -/
inductive Place where
  | probe
  | newroot
  deriving DecidableEq, Repr

inductive KernelFs where
  | proc
  | sys
  | dev
  deriving DecidableEq, Repr

/-- LIUQIN_ROOT and LIUQIN_HOME -/
inductive Label where
  | root
  | home
  deriving DecidableEq, Repr

/-- A mounted UFS partition. -/
structure Mount where
  source : Name
  writable : Bool
  deriving DecidableEq, Repr

/-- The names of the partitions, each under its node. -/
abbrev Uevents := List (Name × Option String)

/-- What the script learned or did, the last first. -/
inductive Event where
  | globbed (names : List Name)
  | uevents (found : Uevents)
  | found (label : Label) (name : Name)
  | opened (name : Name)
  | checked (mount : Option Mount)
  | mountTable (text : Text)
  deriving DecidableEq, Repr

structure Tablet where
  /-- The sd* entries in the order of the glob. -/
  entries : Entries
  /-- The read-only flag of each device itself. -/
  own : Name → Bool
  probe : List Mount
  newroot : List Mount
  /-- The directory of the devices is in the new root. -/
  moved : Bool
  /-- How often the set of the nodes has changed since mdev last ran. -/
  changes : Nat
  /-- The value of that at the last glob. -/
  looked : Nat
  history : List Event

def Tablet.here (tablet : Tablet) (dir : Dir) : Bool := decide (dir = .moved) == tablet.moved

def Tablet.entry (tablet : Tablet) (dir : Dir) (name : Name) : Option Entry :=
  if tablet.here dir = true then tablet.entries.lookup name else none

/-- The device behind an entry. -/
def Tablet.device (tablet : Tablet) (dir : Dir) (name : Name) : Option Name :=
  match tablet.entry dir name with
  | some .node => some name
  | some (.link target) => if tablet.entry dir target = some .node then some target else none
  | _ => none

/-- A partition is read-only with its disk. -/
def Tablet.ro (disk : Name → Option Name) (tablet : Tablet) (name : Name) : Bool :=
  tablet.own name || (disk name).any tablet.own

def Tablet.mounts (tablet : Tablet) : Place → List Mount
  | .probe => tablet.probe
  | .newroot => tablet.newroot

def Tablet.setMounts (tablet : Tablet) (mounts : List Mount) : Place → Tablet
  | .probe => { tablet with probe := mounts }
  | .newroot => { tablet with newroot := mounts }

def Tablet.saw (tablet : Tablet) (event : Event) : Tablet :=
  { tablet with history := event :: tablet.history }

def Tablet.flag (tablet : Tablet) (name : Name) (value : Bool) : Tablet :=
  { tablet with own := Function.update tablet.own name value }

/-! ### Calls -/

inductive Op where
  | mdev
  /-- The names that "$dir"/sd* expands to. -/
  | glob (dir : Dir)
  /-- -e or -L -/
  | stands (dir : Dir) (name : Name)
  | isBlock (dir : Dir) (name : Name)
  /-- `readlink -f` prints the path itself. -/
  | canonical (dir : Dir) (name : Name)
  | setro (dir : Dir) (name : Name)
  | setrw (name : Name)
  | getro (dir : Dir) (name : Name)
  | uevents
  /-- by-partlabel/linux_root: where it leads to, if it is there. -/
  | partlabel
  /-- The node that findfs finds. -/
  | findfs (label : Label)
  | blockSize
  | size (name : Name)
  | sourceMounted (name : Name)
  | mountRo (source : Name)
  | mountRw (source : Name) (place : Place)
  /-- The subroot of the probe is bound to the new root. -/
  | bind
  | umount (place : Place)
  /-- `storage_root_ok` on what is mounted there. -/
  | rootOk (place : Place)
  | move (fs : KernelFs) (back : Bool)
  | stopDaemons
  | cmdline
  | slotTool (mark : Bool) (slot : Slot.Slot)
  | charger
  | usb
  | installer
  | makeLinks
  | linkLabel (label : String) (name : Name)
  | telnetd
  | stage2
  | switchRoot
  /-- The marker of the root is in order. -/
  | marker
  | mountTable
  | remountRo
  deriving DecidableEq

def Reply : Op → Type
  | .mdev => Unit
  | .glob _ => List Name
  | .stands _ _ => Bool
  | .isBlock _ _ => Bool
  | .canonical _ _ => Bool
  | .setro _ _ => Bool
  | .setrw _ => Bool
  | .getro _ _ => Option Bool
  | .uevents => Uevents
  | .partlabel => Option (Option Name)
  | .findfs _ => Option Name
  | .blockSize => String
  | .size _ => Option Nat
  | .sourceMounted _ => Bool
  | .mountRo _ => Bool
  | .mountRw _ _ => Bool
  | .bind => Bool
  | .umount _ => Bool
  | .rootOk _ => Bool
  | .move _ _ => Bool
  | .stopDaemons => Unit
  | .cmdline => Bytes
  | .slotTool _ _ => Bool
  | .charger => Bool
  | .usb => Bool
  | .installer => Bool
  | .makeLinks => Bool
  | .linkLabel _ _ => Bool
  | .telnetd => Unit
  | .stage2 => Unit
  | .switchRoot => Unit
  | .marker => Bool
  | .mountTable => Text
  | .remountRo => Unit

abbrev Script := Prog Reply

def run (operation : Op) : Script (Reply operation) := Prog.perform operation

/-- What a call may come to, besides what the state decides. -/
def Choice : Op → Type
  | .mdev => Entries
  | .glob _ => Unit
  | .stands _ _ => Unit
  | .isBlock _ _ => Unit
  | .canonical _ _ => Bool
  | .setro _ _ => Bool × Bool
  | .setrw _ => Bool × Bool
  | .getro _ _ => Bool
  | .uevents => Uevents
  | .partlabel => Option (Option Name)
  | .findfs _ => Option Name
  | .blockSize => String
  | .size _ => Option Nat
  | .sourceMounted _ => Bool
  | .mountRo _ => Bool
  | .mountRw _ _ => Bool
  | .bind => Bool
  | .umount _ => Bool × Bool
  | .rootOk _ => Bool
  | .move _ _ => Bool
  | .stopDaemons => Unit
  | .cmdline => Bytes
  | .slotTool _ _ => Bool × Bool
  | .charger => Bool
  | .usb => Bool
  | .installer => Bool
  | .makeLinks => Bool
  | .linkLabel _ _ => Bool
  | .telnetd => Unit
  | .stage2 => Unit
  | .switchRoot => Unit
  | .marker => Bool
  | .mountTable => Text
  | .remountRo => Unit

/-- blockdev on an entry that is no device fails; one that fails may have worked. -/
def Tablet.setFlag (tablet : Tablet) (dir : Dir) (name : Name) (value : Bool)
    (outcome : Bool × Bool) : Bool × Tablet :=
  match tablet.device dir name with
  | none => (false, tablet)
  | some device => (outcome.1, if outcome.1 || outcome.2 then tablet.flag device value else tablet)

def Tablet.mounted (tablet : Tablet) (works : Bool) (mounts : List Mount) (place : Place) : Tablet :=
  bif works then tablet.setMounts (mounts ++ tablet.mounts place) place else tablet

def Tablet.located (tablet : Tablet) (label : Label) : Option Name → Tablet
  | some name => tablet.saw (.found label name)
  | none => tablet

def Entry.isLink : Option Entry → Bool
  | some (.link _) => true
  | _ => false

/-- One call: its reply and its effect. -/
def react (disk : Name → Option Name) :
    (operation : Op) → Choice operation → Tablet → Reply operation × Tablet
  | .mdev, entries, tablet => ((), { tablet with entries := entries, changes := 0 })
  | .glob dir, _, tablet =>
      let names := if tablet.here dir = true then tablet.entries.map Prod.fst else []
      (names, { tablet.saw (.globbed names) with looked := tablet.changes })
  | .stands dir name, _, tablet => ((tablet.entry dir name).isSome, tablet)
  | .isBlock dir name, _, tablet => ((tablet.device dir name).isSome, tablet)
  | .canonical dir name, works, tablet =>
      (works && !Entry.isLink (tablet.entry dir name), tablet)
  | .setro dir name, outcome, tablet => tablet.setFlag dir name true outcome
  | .setrw name, outcome, tablet =>
      let set := tablet.setFlag .dev name false outcome
      (set.1, set.2.saw (.opened name))
  | .getro dir name, works, tablet =>
      (bif works then (tablet.device dir name).map (tablet.ro disk) else none, tablet)
  | .uevents, found, tablet => (found, tablet.saw (.uevents found))
  | .partlabel, target, tablet => (target, tablet)
  | .findfs label, found, tablet => (found, tablet.located label found)
  | .blockSize, text, tablet => (text, tablet)
  | .size _, sectors, tablet => (sectors, tablet)
  | .sourceMounted _, mounted, tablet => (mounted, tablet)
  | .mountRo source, works, tablet =>
      (works, tablet.mounted works [{ source := source, writable := false }] .probe)
  | .mountRw source place, works, tablet =>
      (works, tablet.mounted works [{ source := source, writable := true }] place)
  | .bind, works, tablet => (works, tablet.mounted works (tablet.probe.take 1) .newroot)
  | .umount place, outcome, tablet =>
      (outcome.1, if outcome.1 || outcome.2 then tablet.setMounts (tablet.mounts place).tail place
        else tablet)
  | .rootOk place, passes, tablet =>
      (passes, bif passes then tablet.saw (.checked (tablet.mounts place).head?) else tablet)
  | .move fs back, works, tablet =>
      (works, bif works && fs == .dev then { tablet with moved := !back } else tablet)
  | .stopDaemons, _, tablet => ((), tablet)
  | .cmdline, text, tablet => (text, tablet)
  -- the slot tool opens its disk and seals it again if it can
  | .slotTool _ _, outcome, tablet => (outcome.1, tablet.flag "sde" outcome.2)
  | .charger, found, tablet => (found, tablet)
  | .usb, found, tablet => (found, tablet)
  | .installer, found, tablet => (found, tablet)
  | .makeLinks, works, tablet => (works, tablet)
  | .linkLabel _ _, works, tablet => (works, tablet)
  | .telnetd, _, tablet => ((), tablet)
  | .stage2, _, tablet => ((), tablet)
  | .switchRoot, _, tablet => ((), tablet)
  | .marker, stands, tablet => (stands, tablet)
  | .mountTable, text, tablet => (text, tablet.saw (.mountTable text))
  | .remountRo, _, tablet => ((), tablet)

/-- Other nodes, and other flags where they are new. -/
structure Change where
  entries : Entries
  own : Name → Bool

def Tablet.shift (tablet : Tablet) : Option Change → Tablet
  | none => tablet
  | some change =>
      { tablet with entries := change.entries, own := change.own, changes := tablet.changes + 1 }

def machine (disk : Name → Option Name) : Machine Reply Tablet where
  Fault := fun operation => Choice operation × Option Change
  perform := fun operation fault tablet =>
    let outcome := react disk operation fault.1 tablet
    (outcome.1, outcome.2.shift fault.2)

end Liuqin.Initramfs
