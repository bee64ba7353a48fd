/-
The storage functions of the stage-1 init script (initramfs/init).

The shell variables that outlive a function are a record that goes from one to the
next; a function returns its status with it.
-/

import Liuqin.Initramfs.Kernel

namespace Liuqin.Initramfs

open Liuqin.Library Liuqin.Library.Program

/-- storage_parent -/
def parent : Name := "sda"

/-- Which of the two names the root partition has. -/
inductive PartName where
  | linuxRoot
  | userdata
  deriving DecidableEq, Repr

def PartName.text : PartName → String
  | .linuxRoot => "linux_root"
  | .userdata => "userdata"

structure Shell where
  /-- storage_resolved_partname -/
  partname : Option PartName
  target : Name
  home : Option Name
  probeMounted : Bool
  rootMounted : Bool
  fallbackSafe : Bool
  snapshot : List Name
  taken : Bool
  deriving DecidableEq, Repr

def Shell.initial : Shell :=
  { partname := none
    target := ""
    home := none
    probeMounted := false
    rootMounted := false
    fallbackSafe := true
    snapshot := []
    taken := false }

/-! ### The calls -/

def glob (dir : Dir) : Script (List Name) := run (.glob dir)
def stands (dir : Dir) (name : Name) : Script Bool := run (.stands dir name)
def isBlock (dir : Dir) (name : Name) : Script Bool := run (.isBlock dir name)
def canonical (dir : Dir) (name : Name) : Script Bool := run (.canonical dir name)
def setro (name : Name) : Script Bool := run (.setro .dev name)
def setrw (name : Name) : Script Bool := run (.setrw name)
def getro (dir : Dir) (name : Name) : Script (Option Bool) := run (.getro dir name)
def uevents : Script Uevents := run .uevents
def partlabel : Script (Option (Option Name)) := run .partlabel
def findfs (label : Label) : Script (Option Name) := run (.findfs label)
def blockSize : Script String := run .blockSize
def size (name : Name) : Script (Option Nat) := run (.size name)
def sourceMounted (name : Name) : Script Bool := run (.sourceMounted name)
def mountRo (source : Name) : Script Bool := run (.mountRo source)
def mountRw (source : Name) (place : Place) : Script Bool := run (.mountRw source place)
def bindSubroot : Script Bool := run .bind
def umount (place : Place) : Script Bool := run (.umount place)
def rootOk (place : Place) : Script Bool := run (.rootOk place)
def move (fs : KernelFs) (back : Bool) : Script Bool := run (.move fs back)
def stopDaemons : Script Unit := run .stopDaemons
def switchRoot : Script Unit := run .switchRoot

/-! ### The nodes -/

/-- The loop of `storage_collect_sd_nodes`. -/
def collectFrom (dir : Dir) (collected : List Name) : List Name → Script (Option (List Name))
  | [] => return if collected = [] then none else some collected
  | name :: rest => do
      let present ← stands dir name
      if present = false then collectFrom dir collected rest
      else
        let block ← isBlock dir name
        if block = false then return none
        else
          let straight ← canonical dir name
          if straight = false then return none
          else collectFrom dir (collected ++ [name]) rest

/-- `storage_collect_sd_nodes` -/
def collect (dir : Dir) : Script (Option (List Name)) := do
  let names ← glob dir
  collectFrom dir [] names

/-- The first loop of `storage_lock_all`: storage_lock_seen and storage_lock_ok. -/
def sealNodes (seen ok : Bool) : List Name → Script (Bool × Bool)
  | [] => return (seen, ok)
  | name :: rest => do
      let block ← isBlock .dev name
      if block = false then sealNodes seen ok rest
      else
        let works ← setro name
        sealNodes true (ok && works) rest

/-- Its second loop. -/
def checkSealed (ok : Bool) : List Name → Script Bool
  | [] => return ok
  | name :: rest => do
      let block ← isBlock .dev name
      if block = false then checkSealed ok rest
      else
        let ro ← getro .dev name
        checkSealed (ok && (ro == some true)) rest

/-- `storage_lock_all` -/
def lockAll : Script Bool := do
  let nodes ← collect .dev
  let first ← glob .dev
  let (seen, ok) ← sealNodes false true first
  if seen = false then return false
  else
    let second ← glob .dev
    let ok ← checkSealed ok second
    let verified ← collect .dev
    return ok && (nodes.isSome && verified == nodes)

/-- The nodes that the test excepts are left out; each other one is read-only. -/
def siblingsSealed (dir : Dir) (excepted : Name → Bool) : List Name → Script Bool
  | [] => return true
  | name :: rest =>
      if excepted name = true then siblingsSealed dir excepted rest
      else do
        let ro ← getro dir name
        if ro = some true then siblingsSealed dir excepted rest else return false

/-- The node is there under its own path. -/
def nodeStands (dir : Dir) (name : Name) : Script Bool := do
  let block ← isBlock dir name
  if block = false then return false else canonical dir name

/-- sda and the target are there under their own paths. -/
def pairStands (dir : Dir) (shell : Shell) : Script Bool := do
  let disk ← isBlock dir parent
  if disk = false then return false
  else
    let partition ← isBlock dir shell.target
    if partition = false then return false
    else
      let disk ← canonical dir parent
      if disk = false then return false else canonical dir shell.target

/-- `storage_snapshot_all_ro` -/
def snapshotAllRo (shell : Shell) : Script Bool := do
  if shell.taken = false then return true
  else
    let current ← collect .dev
    if current ≠ some shell.snapshot then return false
    else
      let pair ← pairStands .dev shell
      if pair = false then return false
      else siblingsSealed .dev (fun _ => false) shell.snapshot

def writable (dir : Dir) (name : Name) : Script Bool := do
  let ro ← getro dir name
  return ro == some false

/-- The part of the check that is about the home partition. -/
def homeOpen (dir : Dir) : Option Name → Script Bool
  | none => return true
  | some home => do
      let stands ← nodeStands dir home
      if stands = false then return false else writable dir home

/-- The nodes that stay writable. -/
def Shell.opens (shell : Shell) (name : Name) : Bool :=
  name == parent || name == shell.target || shell.home == some name

/-- `storage_snapshot_persistent_ok` -/
def snapshotPersistentOk (dir : Dir) (shell : Shell) : Script Bool := do
  if shell.taken = false then return false
  else
    let current ← collect dir
    if current ≠ some shell.snapshot then return false
    else
      let pair ← pairStands dir shell
      if pair = false then return false
      else
        let disk ← writable dir parent
        if disk = false then return false
        else
          let partition ← writable dir shell.target
          if partition = false then return false
          else
            let home ← homeOpen dir shell.home
            if home = false then return false
            else siblingsSealed dir shell.opens shell.snapshot

/-- `storage_snapshot_sd_nodes` -/
def snapshotSdNodes (shell : Shell) : Script (Bool × Shell) := do
  match ← collect .dev with
  | none => return (false, { shell with snapshot := [] })
  | some nodes =>
      if parent ∈ nodes ∧ shell.target ∈ nodes then
        return (true, { shell with
          snapshot := nodes
          home := shell.home.filter (fun home => home ∈ nodes)
          taken := true })
      else return (false, { shell with snapshot := nodes })

/-! ### The root partition -/

/-- sda[0-9]* -/
def onFirstLun (name : Name) : Bool :=
  match name.toList with
  | 's' :: 'd' :: 'a' :: digit :: _ => digit.isDigit
  | _ => false

/-- The loop over the nodes for one name of a partition; none where it returns 1. -/
def scan (wanted : String) (found : Option Name) : Uevents → Option (Option Name)
  | [] => some found
  | (name, partname) :: rest =>
      if partname ≠ some wanted then scan wanted found rest
      else if onFirstLun name = false then none
      else if found.isSome then none
      else scan wanted (some name) rest

/-- The two rounds of `storage_resolve_target`. -/
def resolveName : Script (Option (PartName × Name)) := do
  let first ← uevents
  match scan PartName.linuxRoot.text none first with
  | none => return none
  | some (some name) => return some (.linuxRoot, name)
  | some none =>
      let second ← uevents
      match scan PartName.userdata.text none second with
      | none => return none
      | some none => return none
      | some (some name) => return some (.userdata, name)

/-- `storage_resolve_target` -/
def resolveTarget (shell : Shell) : Script (Bool × Shell) := do
  match ← resolveName with
  | none => return (false, { shell with partname := none })
  | some (partname, name) =>
      let shell := { shell with partname := some partname, target := name }
      match ← partlabel with
      | none => return (true, shell)
      | some target => return (target == some name, shell)

/-- What `storage_resolve_home` finds. -/
def resolveHome (shell : Shell) : Script (Option Name) := do
  if shell.partname ≠ some .linuxRoot then return none
  else
    let found ← uevents
    match scan "linux_home" none found with
    | none => return none
    | some none => return none
    | some (some home) =>
        if home = shell.target ∨ home = parent then return none
        else
          let stands ← nodeStands .dev home
          if stands = false then return none
          else
            let labelled ← findfs .home
            if labelled ≠ some home then return none
            else
              let mounted ← sourceMounted home
              if mounted = true then return none else return some home

/-- The checks of `storage_identity_ok` behind the name of the partition. -/
def targetFits (shell : Shell) : Script Bool := do
  let pair ← pairStands .dev shell
  if pair = false then return false
  else
    let block ← blockSize
    if block ≠ "4096" then return false
    else
      let sectors ← size shell.target
      if ¬33554432 ≤ sectors.getD 0 then return false
      else
        let labelled ← findfs .root
        if labelled ≠ some shell.target then return false
        else
          let disk ← sourceMounted parent
          if disk = true then return false
          else
            let partition ← sourceMounted shell.target
            return !partition

/-- `storage_identity_ok` -/
def identityOk (shell : Shell) : Script (Bool × Shell) := do
  let (resolved, shell) ← resolveTarget shell
  if resolved = false then return (false, shell)
  else
    let fits ← targetFits shell
    if fits = false then return (false, shell)
    else if shell.partname = some .linuxRoot then
      let home ← resolveHome shell
      return (true, { shell with home := home })
    else return (true, { shell with home := none })

/-! ### Opening it -/

/-- An unmount that is owed; whether it worked, and whether it is still owed. -/
def unmount (place : Place) (owed : Bool) : Script (Bool × Bool) := do
  if owed = false then return (true, false)
  else
    let works ← umount place
    return (works, !works)

/-- `storage_abort` -/
def abort (shell : Shell) : Script (Bool × Shell) := do
  let (first, rootMounted) ← unmount .newroot shell.rootMounted
  let (second, probeMounted) ← unmount .probe shell.probeMounted
  let shell := { shell with rootMounted := rootMounted, probeMounted := probeMounted, home := none }
  let locked ← lockAll
  let same ← snapshotAllRo shell
  let safe := first && second && locked && same
  return (safe, { shell with fallbackSafe := safe })

/-- `storage_abort; return 1` -/
def reject (shell : Shell) : Script (Bool × Shell) := do
  let (_, shell) ← abort shell
  return (false, shell)

/-- The setrw of the home partition, which may fail. -/
def openHome (shell : Shell) : Script Shell := do
  match shell.home with
  | none => return shell
  | some home =>
      let works ← setrw home
      return if works = true then shell else { shell with home := none }

/-- Read-only on every sibling. -/
def sealSiblings (shell : Shell) : List Name → Script Bool
  | [] => return true
  | name :: rest => do
      let block ← isBlock .dev name
      if block = false then sealSiblings shell rest
      else if shell.opens name = true then sealSiblings shell rest
      else
        let works ← setro name
        if works = true then sealSiblings shell rest else return false

/-- The mounts of the target for writing; whether all went well. -/
def mountRoot (subroot : Bool) (shell : Shell) : Script (Bool × Shell) := do
  if subroot = false then
    let works ← mountRw shell.target .newroot
    return (works, { shell with rootMounted := works })
  else
    let works ← mountRw shell.target .probe
    if works = false then return (false, shell)
    else
      let shell := { shell with probeMounted := true }
      let bound ← bindSubroot
      if bound = false then return (false, shell)
      else
        let shell := { shell with rootMounted := true }
        let detached ← umount .probe
        return (detached, { shell with probeMounted := !detached })

/-- The read-only look at the root, up to its unmount. -/
def probeRoot (shell : Shell) : Script (Bool × Shell) := do
  let mounted ← mountRo shell.target
  if mounted = false then return (false, shell)
  else
    let shell := { shell with probeMounted := true }
    let passes ← rootOk .probe
    if passes = false then return (false, shell)
    else
      let works ← umount .probe
      return (works, { shell with probeMounted := !works })

/-- The nodes are opened; whether that went well. -/
def openNodes (shell : Shell) : Script (Bool × Shell) := do
  let disk ← setrw parent
  if disk = false then return (false, shell)
  else
    let partition ← setrw shell.target
    if partition = false then return (false, shell)
    else
      let shell ← openHome shell
      let nodes ← glob .dev
      let siblings ← sealSiblings shell nodes
      if siblings = false then return (false, shell)
      else
        let ok ← snapshotPersistentOk .dev shell
        return (ok, shell)

/-- The root on its new place is looked at again. -/
def checkRoot (shell : Shell) : Script Bool := do
  let passes ← rootOk .newroot
  if passes = false then return false else snapshotPersistentOk .dev shell

/-- `storage_prepare_persistent_root` -/
def preparePersistentRoot (subroot : Bool) (shell : Shell) : Script (Bool × Shell) := do
  let (identified, shell) ← identityOk shell
  if identified = false then reject shell
  else
    let (probed, shell) ← probeRoot shell
    if probed = false then reject shell
    else
      let (taken, shell) ← snapshotSdNodes shell
      if taken = false then reject shell
      else
        let (opened, shell) ← openNodes shell
        if opened = false then reject shell
        else
          let (mounted, shell) ← mountRoot subroot shell
          if mounted = false then reject shell
          else
            let checked ← checkRoot shell
            if checked = false then reject shell else return (true, shell)

/-! ### The handoff -/

/-- The kernel filesystems that moved, the last first, and whether one did not. -/
def moveAll (moved : List KernelFs) : List KernelFs → Script (List KernelFs × Bool)
  | [] => return (moved, false)
  | fs :: rest => do
      let works ← move fs false
      if works = true then moveAll (fs :: moved) rest else return (moved, true)

def moveBack : List KernelFs → Script Unit
  | [] => return ()
  | fs :: rest => do
      let _ ← move fs true
      moveBack rest

/-- `storage_switch_persistent_root`, which returns only where it fails; whether
ufs_safe stays, with the variables. -/
def switchPersistentRoot (shell : Shell) : Script (Bool × Shell) := do
  let ok ← snapshotPersistentOk .dev shell
  if ok = false then abort shell
  else
    let (moved, failed) ← moveAll [] [.proc, .sys, .dev]
    if failed = true then do
      moveBack moved
      abort shell
    else
      let _ ← stopDaemons
      let ok ← snapshotPersistentOk .moved shell
      if ok = false then do
        moveBack [.dev, .sys, .proc]
        abort shell
      else
        -- if the exec fails, PID 1 dies
        switchRoot
        .exit 1

end Liuqin.Initramfs
