/-
The verbs of install-layout.sh that open the disk for writing
(tools/lib/install-layout.sh).

The script runs under `set -e` in the RAM image: a command whose failure is not
tested ends it.  The kernel's block nodes and their read-only flags are the
state; sgdisk and a re-read of the table may replace the partition nodes of
the disk by any others.  The log of the commands is part of the state, and no
command reads it.
-/

import Mathlib.Data.List.Basic
import Liuqin.Library.Program

namespace Liuqin.Layout.Device

open Liuqin.Library.Program

abbrev Name := List Char

/-! ### Block nodes -/

/-- A node is named after its disk; the suffix of a whole disk is empty. -/
structure Node where
  disk : Name
  suffix : Name
  deriving DecidableEq, Repr

def Node.name (node : Node) : Name := node.disk ++ node.suffix

def Node.path (node : Node) : Name := "/dev/".toList ++ node.name

def whole (disk : Name) : Node := { disk, suffix := [] }

structure Block where
  node : Node
  partname : Option Name
  ro : Bool
  deriving DecidableEq, Repr

inductive Half where
  | head
  | tail
  deriving DecidableEq, Repr

def Half.word : Half → String
  | .head => "head"
  | .tail => "tail"

/-- The commands that touch the disk or its flags. -/
inductive Command where
  | setrw (node : Node)
  | setro (node : Node)
  | dd (target : Node)
  | sgdisk (disk : Name) (arguments : List Name)
  | sync
  | rereadpt (disk : Name)
  deriving DecidableEq, Repr

structure Kernel where
  blocks : List Block
  log : List (Command × Bool)

/-! ### Commands -/

inductive Guard where
  | bootIdentity
  | installerImage
  | sgdiskPresent
  | scratchMade
  | scratchWritable
  deriving DecidableEq, Repr

inductive Op where
  | guard (what : Guard)
  /-- /sys/class/block/sd* -/
  | nodes
  | grep (node : Node) (partname : Name)
  | isBlock (node : Node)
  | readlink (node : Node)
  /-- A counter under /sys/class/block/NODE. -/
  | counter (node : Node) (file : Name)
  | deviceNumber (node : Node)
  | mounted (number : Name)
  | staged (half : Half)
  | decode (half : Half)
  | decodedSize (half : Half)
  | run (command : Command)
  | verify (disk : Name)
  | remove
  | print (text : String)

def Answer : Op → Type
  | .nodes => List Node
  | .readlink _ => Option Node
  | .counter _ _ => Option Nat
  | .deviceNumber _ => Option Name
  | .decodedSize _ => Option Nat
  | .print _ => Unit
  | _ => Bool

/-- A partition node that the kernel makes from a new table. -/
structure Fresh where
  suffix : Name
  partname : Option Name
  ro : Bool
  deriving DecidableEq, Repr

def Fresh.block (disk : Name) (fresh : Fresh) : Block :=
  { node := { disk, suffix := fresh.suffix }, partname := fresh.partname, ro := fresh.ro }

/-- The disk's partition nodes are replaced, the disk itself stays. -/
def repartition (disk : Name) (fresh : List Fresh) (blocks : List Block) : List Block :=
  blocks.filter (fun block => ¬ (block.node.disk = disk ∧ block.node.suffix ≠ [])) ++
    (fresh.filter (fun part => part.suffix ≠ [])).map (Fresh.block disk)

def setFlag (node : Node) (ro : Bool) (blocks : List Block) : List Block :=
  blocks.map (fun block => if block.node = node then { block with ro } else block)

/-- What a command leaves to the machine: whether it works, and the new partitions. -/
def Choice : Op → Type
  | .nodes => Unit
  | .isBlock _ => Unit
  | .counter _ _ => Option Nat
  | .deviceNumber _ => Option Name
  | .decodedSize _ => Option Nat
  | .run _ => Bool × List Fresh
  | .print _ => Unit
  | _ => Bool

/-- What a command does to the nodes. -/
def effect (command : Command) (ok : Bool) (fresh : List Fresh) (blocks : List Block) :
    List Block :=
  match command with
  | .setrw node => if ok then setFlag node false blocks else blocks
  | .setro node => if ok then setFlag node true blocks else blocks
  | .sgdisk disk _ => repartition disk fresh blocks
  | .rereadpt disk => repartition disk fresh blocks
  | _ => blocks

def react : (operation : Op) → Choice operation → Kernel → Answer operation × Kernel
  | .nodes, _, kernel => (kernel.blocks.map Block.node, kernel)
  | .grep node partname, works, kernel =>
      (works && kernel.blocks.any (fun block =>
        block.node = node ∧ block.partname = some partname), kernel)
  | .isBlock node, _, kernel => (kernel.blocks.any (fun block => block.node = node), kernel)
  | .readlink node, works, kernel => (bif works then some (whole node.disk) else none, kernel)
  | .counter _ _, value, kernel => (value, kernel)
  | .deviceNumber _, value, kernel => (value, kernel)
  | .decodedSize _, value, kernel => (value, kernel)
  | .run command, (ok, fresh), kernel =>
      (ok, { blocks := effect command ok fresh kernel.blocks
             log := kernel.log ++ [(command, ok)] })
  | .print _, _, kernel => ((), kernel)
  | .guard _, works, kernel => (works, kernel)
  | .mounted _, works, kernel => (works, kernel)
  | .staged _, works, kernel => (works, kernel)
  | .decode _, works, kernel => (works, kernel)
  | .verify _, works, kernel => (works, kernel)
  | .remove, works, kernel => (works, kernel)

def machine : Machine Answer Kernel where
  Fault := Choice
  perform := react

/-! ### The helpers -/

abbrev Script := Prog Answer

def run (operation : Op) : Script (Answer operation) := Prog.perform operation

def guard (what : Guard) : Script Bool := run (.guard what)
def nodes : Script (List Node) := run .nodes
def grep (node : Node) (partname : Name) : Script Bool := run (.grep node partname)
def isBlock (node : Node) : Script Bool := run (.isBlock node)
def readlink (node : Node) : Script (Option Node) := run (.readlink node)
def counter (node : Node) (file : String) : Script (Option Nat) := run (.counter node file.toList)
def deviceNumber (node : Node) : Script (Option Name) := run (.deviceNumber node)
def mounted (number : Name) : Script Bool := run (.mounted number)
def staged (half : Half) : Script Bool := run (.staged half)
def decode (half : Half) : Script Bool := run (.decode half)
def decodedSize (half : Half) : Script (Option Nat) := run (.decodedSize half)
def command (what : Command) : Script Bool := run (.run what)
def verify (disk : Name) : Script Bool := run (.verify disk)
def remove : Script Bool := run .remove
def print (text : String) : Script Unit := run (.print text)

def die {α : Type} (text : String) : Script α := do
  print ("liuqin-layout: " ++ text)
  .exit 1

/-- `test || die text` -/
def orDie (ok : Prop) [Decidable ok] (text : String) : Script Unit :=
  if ok then pure () else die text

/-- A command whose failure `set -e` turns into an exit. -/
def orStop (ok : Bool) : Script Unit := if ok then pure () else .exit 1

def findLoop (name : Name) : Option Node → List Node → Script (Option Node)
  | found, [] => pure found
  | found, node :: rest => do
      let here ← grep node name
      if here then do
        orDie (found = none) ("duplicate partition name: " ++ String.ofList name)
        findLoop name (some node) rest
      else findLoop name found rest

def orMissing {α : Type} (value : Option α) (text : String) : Script α :=
  match value with
  | some value => pure value
  | none => die text

/-- `find_part`, in a substitution whose failure ends the script. -/
def findPart (name : Name) : Script Node := do
  let all ← nodes
  let found ← findLoop name none all
  let node ← orMissing found ("partition is missing: " ++ String.ofList name)
  let present ← isBlock node
  orDie present ("partition is missing: " ++ String.ofList name)
  pure node

def parentDisk (part : Node) : Script Name := do
  let link ← readlink part
  let disk ← orMissing link "parent disk is unavailable"
  let present ← isBlock disk
  orDie present "parent disk is missing"
  pure disk.disk

def sectorSize (disk : Name) : Script Nat := do
  let size ← counter (whole disk) "queue/logical_block_size"
  let size ← orMissing size "logical sector size is unavailable"
  orDie (size > 0) "logical sector size is unavailable"
  pure size

def sectorCount (disk : Name) : Script Nat := do
  let size ← counter (whole disk) "size"
  let size ← orMissing size "disk size is unavailable"
  let unit ← sectorSize disk
  pure (size * 512 / unit)

def byteSize (part : Node) : Script Nat := do
  let size ← counter part "size"
  let size ← orMissing size "partition size is unavailable"
  pure (size * 512)

/-- The nodes whose name begins with the disk's: `/sys/class/block/DISK*`. -/
def glob (disk : Name) : Script (List Node) := do
  let all ← nodes
  pure (all.filter (fun node => disk.isPrefixOf node.name))

def idleLoop : List Node → Script Unit
  | [] => pure ()
  | node :: rest => do
      let number ← deviceNumber node
      match number with
      | none => .exit 1
      | some number => do
          let found ← mounted number
          orDie (found = false) "a partition of the target disk is mounted"
          idleLoop rest

def assertIdle (disk : Name) : Script Unit := do
  let here ← glob disk
  idleLoop here

def sealLoop : List Node → Script Unit
  | [] => pure ()
  | node :: rest => do
      let ok ← command (.setro node)
      orDie ok "cannot restore the read-only flag"
      sealLoop rest

/-- The whole disk and all its partitions read-only again. -/
def sealDisk (disk : Name) : Script Unit := do
  let here ← glob disk
  sealLoop here
  let ok ← command (.setro (whole disk))
  orDie ok "cannot restore the read-only flag"

/-! ### The verbs -/

def stageHalf (sector : Nat) (half : Half) : Script Unit := do
  let present ← staged half
  orDie present ("staged GPT copy is missing: " ++ half.word)
  let decoded ← decode half
  orDie decoded ("staged GPT copy does not decode: " ++ half.word)
  let size ← decodedSize half
  orDie (size = some (sector * 6)) ("staged GPT copy has the wrong size: " ++ half.word)

/-- `restore-gpt PARTNAME` -/
def restoreGpt : List Name → Script Unit
  | [name] => do
      let part ← findPart name
      let disk ← parentDisk part
      let sector ← sectorSize disk
      let sectors ← sectorCount disk
      orDie (sectors > 6) "disk is too small to hold a GPT"
      assertIdle disk
      stageHalf sector .head
      stageHalf sector .tail
      let opened ← command (.setrw (whole disk))
      orDie opened "cannot open the disk for writing"
      let first ← command (.dd (whole disk))
      orDie first "writing the primary GPT failed"
      let second ← command (.dd (whole disk))
      orDie second "writing the backup GPT failed"
      let synced ← command .sync
      orStop synced
      let _ ← command (.rereadpt disk)
      sealDisk disk
      let verified ← verify disk
      orDie verified "the restored partition table does not verify"
      let removed ← remove
      orDie removed "cannot remove the staged GPT copies"
      print "liuqin-layout: GPT_RESTORED\n"
  | _ => die "usage: restore-gpt PARTNAME"

/-- A digit string as the tests read it. -/
def decimal (text : Name) : Option Nat :=
  if text ≠ [] ∧ text.all Char.isDigit then
    some (text.foldl (fun value digit => 10 * value + (digit.toNat - 48)) 0)
  else none

/-- A digit string as `$(( ))` reads it: a leading zero makes it octal. -/
def arithmetic (text : Name) : Option Nat :=
  match text with
  | '0' :: rest =>
      if rest.all (fun digit => '0' ≤ digit ∧ digit ≤ '7') then
        some (rest.foldl (fun value digit => 8 * value + (digit.toNat - 48)) 0)
      else none
  | text => decimal text

/-- `wipe-head PARTNAME BYTES` -/
def wipeHead : List Name → Script Unit
  | [name, bytes] => do
      let part ← findPart name
      let length ← orMissing (decimal bytes) "invalid wipe length"
      orDie (length > 0 ∧ length ≤ 67108864) "wipe length is out of range"
      let counted ← (match arithmetic bytes with
        | some value => pure value
        | none => .exit 1 : Script Nat)
      orDie (counted % 1048576 = 0) "wipe length must be a whole number of mebibytes"
      let disk ← parentDisk part
      assertIdle disk
      let size ← byteSize part
      orDie (size > length) "partition is smaller than the requested wipe"
      let opened ← command (.setrw (whole disk))
      orDie opened "cannot open the disk for writing"
      let openedPart ← command (.setrw part)
      orDie openedPart "cannot open the partition for writing"
      let wiped ← command (.dd part)
      orDie wiped ("wiping " ++ String.ofList name ++ " failed")
      let synced ← command .sync
      orStop synced
      sealDisk disk
      print ("liuqin-layout: WIPED " ++ String.ofList name ++ "\n")
  | _ => die "usage: wipe-head PARTNAME BYTES"

/-- `apply PARTNAME SGDISK-ARGUMENT...` -/
def apply : List Name → Script Unit
  | name :: first :: others => do
      let part ← findPart name
      let disk ← parentDisk part
      assertIdle disk
      orDie ((first :: others).getLast? = some (whole disk).path)
        "the sgdisk arguments do not end with the resolved disk"
      let opened ← command (.setrw (whole disk))
      orDie opened "cannot open the disk for writing"
      let applied ← command (.sgdisk disk (first :: others))
      let synced ← command .sync
      orStop synced
      let _ ← command (.rereadpt disk)
      sealDisk disk
      orDie applied "sgdisk refused the requested layout"
      let verified ← verify disk
      orDie verified "the new partition table does not verify"
      print "liuqin-layout: LAYOUT_APPLIED\n"
  | _ => die "usage: apply PARTNAME SGDISK-ARGUMENT..."

inductive Verb where
  | restoreGpt
  | wipeHead
  | apply
  deriving DecidableEq, Repr

def runVerb : Verb → List Name → Script Unit
  | .restoreGpt => restoreGpt
  | .wipeHead => wipeHead
  | .apply => apply

/-- The guards before any verb. -/
def prepare : Script Unit := do
  let sameBoot ← guard .bootIdentity
  orDie sameBoot "RAM boot identity changed"
  let installer ← guard .installerImage
  orDie installer "not the installer RAM image"
  let present ← guard .sgdiskPresent
  orDie present "sgdisk is missing from the installer runtime"
  let made ← guard .scratchMade
  orDie made "cannot create the scratch directory"
  let writable ← guard .scratchWritable
  orDie writable "the scratch directory is not writable"

/-- The trap removes the decoded copies, whatever comes of it. -/
def cleanup (status : Nat) : Script Unit := do
  let _ ← remove
  .exit status

/-- The script, up to its exit. -/
def main (verb : Verb) (arguments : List Name) : Script Unit := do
  prepare
  (do runVerb verb arguments; .exit 0 : Script Unit).onExit cleanup

end Liuqin.Layout.Device
