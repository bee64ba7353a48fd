/-
Enrolment and publication of one user's print
(device/fingerprint/oem/src/fingerprint/oem/enrol_publish.py).

One pending directory per user holds the exported database and the file that
says it was accepted; the print store is a directory chosen per run.  The
user's directories outlive the runs, a run can stop at any operation, and
prints can be deleted between runs.
-/

import Mathlib.Logic.Relation
import Mathlib.Logic.Function.Basic
import Liuqin.Library.Program

namespace Liuqin.Fingerprint.Publish

open Liuqin.Library.Program

def fingers : List String :=
  ["left-thumb", "left-index-finger", "left-middle-finger", "left-ring-finger",
    "left-little-finger", "right-thumb", "right-index-finger", "right-middle-finger",
    "right-ring-finger", "right-little-finger"]

/-! ### The directories -/

/-- A database file, with the number of the enrol child that created it. -/
structure Database where
  bytes : List UInt8
  child : Nat
  deriving DecidableEq, Repr

/-- The fields of export-ready.json that differ between two such files. -/
structure Metadata where
  user : String
  finger : String
  deriving DecidableEq, Repr

/-- export-ready.json: cut short, or with all its text but perhaps the last
line end. -/
inductive Ready where
  | torn
  | whole (metadata : Metadata)
  deriving DecidableEq, Repr

/-- What happened, for the statement: which children returned success, what
the serializer read, what was linked, and whether a child left a database to a
marker it does not belong to. -/
structure History where
  children : Nat
  accepted : List (Nat × Metadata)
  handed : List (Database × Metadata)
  linked : List (Database × Metadata)
  stale : Bool
  deriving DecidableEq, Repr

structure Vault where
  prints : String × Nat → Option Database
  database : Option Database
  ready : Option Ready
  opened : Option Database
  temporary : Option Database
  cancelled : Bool
  history : History

/-! ### Operations -/

inductive Lock where
  | held
  | busy
  | failed
  deriving DecidableEq, Repr

inductive PublishOp where
  | account (user : String)
  | bundle
  | directories (store : String)
  | lock (store : String)
  | existingPrint (store : String)
  | pending
  | databaseExists
  | readyExists
  | readReady
  | report (text : String)
  | cancelled
  | enrol (metadata : Metadata) (prepared : Bool)
  | createReady
  | writeReady (metadata : Metadata)
  | syncReady
  | openDatabase
  | makeTemporary
  | serialize (metadata : Metadata)
  | tooSmall
  | fsyncTemporary
  | link (store : String) (finger : Nat) (metadata : Metadata)
  | unlinkTemporary
  | syncStore
  | unlinkDatabase
  | unlinkReady

def PublishAnswer : PublishOp → Type
  | .lock _ => Lock
  | .readReady => Option Metadata
  | .report _ => Unit
  | .enrol _ _ => Int
  | .serialize _ => Int
  | _ => Bool

/-- What an operation leaves open: the file an enrol child left, and how much
of the marker a failed write put down. -/
def PublishChoice : PublishOp → Type
  | .enrol _ _ => Option (List UInt8)
  | .writeReady _ => Bool
  | _ => Unit

structure PublishFault (operation : PublishOp) where
  answer : PublishAnswer operation
  choice : PublishChoice operation
  signal : Bool

/-- A child creates the file exclusively, so it never replaces one. -/
def Vault.enrolled (vault : Vault) (metadata : Metadata) (left : Option (List UInt8))
    (status : Int) : Vault :=
  let child := vault.history.children
  let accepted := if status = 0 then (child, metadata) :: vault.history.accepted
    else vault.history.accepted
  let database := match vault.database with
    | some database => some database
    | none => left.map fun bytes => { bytes := bytes, child := child }
  let mistaken := match vault.ready, database with
    | some (.whole other), some database => decide ((database.child, other) ∉ accepted)
    | _, _ => false
  { vault with
    database := database
    history :=
      { vault.history with
        children := child + 1
        accepted := accepted
        stale := vault.history.stale || mistaken } }

def publishReact : (operation : PublishOp) → PublishAnswer operation → PublishChoice operation →
    Vault → PublishAnswer operation × Vault
  | .existingPrint store, _, _, vault =>
      ((List.range 10).any fun value => (vault.prints (store, value + 1)).isSome, vault)
  | .databaseExists, _, _, vault => (vault.database.isSome, vault)
  | .readyExists, _, _, vault => (vault.ready.isSome, vault)
  | .readReady, answer, _, vault =>
      match vault.ready with
      | some (.whole metadata) => ((answer : Option Metadata).map fun _ => metadata, vault)
      | _ => ((none : Option Metadata), vault)
  | .cancelled, _, _, vault => (vault.cancelled, vault)
  | .enrol metadata _, status, left, vault => (status, vault.enrolled metadata left status)
  | .createReady, (works : Bool), _, vault =>
      -- O_CREAT | O_EXCL
      if works = true ∧ vault.ready = none then (true, { vault with ready := some .torn })
      else (false, vault)
  | .writeReady metadata, (works : Bool), (enough : Bool), vault =>
      (works, { vault with ready := some (if works || enough then .whole metadata else .torn) })
  | .openDatabase, (works : Bool), _, vault =>
      (works && vault.database.isSome, { vault with opened := vault.database })
  | .serialize metadata, status, _, vault =>
      -- the serializer reads the descriptor and fills the temporary file
      (status,
        { vault with
          temporary := vault.opened
          history :=
            { vault.history with
              handed := (vault.opened.map fun database => (database, metadata)).toList ++
                vault.history.handed } })
  | .link store finger metadata, (works : Bool), _, vault =>
      if works = true ∧ vault.prints (store, finger) = none then
        (true,
          { vault with
            prints := Function.update vault.prints (store, finger) vault.temporary
            history :=
              { vault.history with
                linked := (vault.temporary.map fun database => (database, metadata)).toList ++
                  vault.history.linked } })
      else (false, vault)
  | .unlinkDatabase, (works : Bool), _, vault =>
      (works, if works then { vault with database := none } else vault)
  | .unlinkReady, (works : Bool), _, vault =>
      (works, if works then { vault with ready := none } else vault)
  | .account _, answer, _, vault => (answer, vault)
  | .bundle, answer, _, vault => (answer, vault)
  | .directories _, answer, _, vault => (answer, vault)
  | .lock _, answer, _, vault => (answer, vault)
  | .pending, answer, _, vault => (answer, vault)
  | .report _, answer, _, vault => (answer, vault)
  | .syncReady, answer, _, vault => (answer, vault)
  | .makeTemporary, answer, _, vault => (answer, vault)
  | .tooSmall, answer, _, vault => (answer, vault)
  | .fsyncTemporary, answer, _, vault => (answer, vault)
  | .unlinkTemporary, answer, _, vault => (answer, vault)
  | .syncStore, answer, _, vault => (answer, vault)

def publishMachine : Machine PublishAnswer Vault where
  Fault := PublishFault
  perform := fun operation fault vault =>
    publishReact operation fault.answer fault.choice
      { vault with cancelled := vault.cancelled || fault.signal }

/-! ### The program -/

abbrev PublishScript := Prog PublishAnswer

def call (operation : PublishOp) : PublishScript (PublishAnswer operation) := Prog.perform operation

/-- A call that raises, or a check that does. -/
def must (asked : PublishScript Bool) : PublishScript Unit := do
  let holds ← asked
  if holds then return () else .exit 2

def report (text : String) : PublishScript Unit := call (.report text)
def cancelled : PublishScript Bool := call .cancelled
def existingPrint (store : String) : PublishScript Bool := call (.existingPrint store)
def databaseExists : PublishScript Bool := call .databaseExists
def readyExists : PublishScript Bool := call .readyExists
def readReady : PublishScript (Option Metadata) := call .readReady
def tooSmall : PublishScript Bool := call .tooSmall

/-- The local run(): a child that is not started, or ends, after a signal counts
as failed. -/
def run (child : PublishScript Int) : PublishScript Int := do
  let before ← cancelled
  if before then return 1
  else
    let result ← child
    let after ← cancelled
    return if after then 1 else result

/-- `if result: return result`, as one status. -/
def succeeded (result : Int) : PublishScript Unit := if result = 0 then return () else .exit 1

def checkAccount (user finger store : String) : PublishScript Nat := do
  must (call (.account user))
  match fingers.idxOf? finger with
  | none => .exit 2
  | some index =>
      must (call .bundle)
      must (call (.directories store))
      return index + 1

def takeLock (store : String) : PublishScript Unit := do
  let lock ← call (.lock store)
  match (lock : Lock) with
  | .held => return ()
  | .busy => do
      report "oem_print_publication=BUSY"
      .exit 1
  | .failed => .exit 2

/-- One finger per user. -/
def refuseSecond (store : String) : PublishScript Unit := do
  let present ← existingPrint store
  if present then
    report ("oem_print_publication=REFUSED existing_print_preserved=1 " ++
      "scope=one_finger_per_user touch_not_collected=1")
    .exit 2
  else return ()

/-- The pending export has to be the accepted one of this user and finger. -/
def reuse (metadata : Metadata) : PublishScript Unit := do
  let present ← readyExists
  if present then
    let found ← readReady
    must (return found = some metadata)
    report "oem_print_publication=REUSE accepted_pending_export=1 touch_not_collected=1"
  else
    report ("oem_print_publication=REFUSED uncertain_export_preserved=1 " ++
      "automatic_reenrol=0")
    .exit 1

/-- write_exclusive of export-ready.json. -/
def writeExclusive (metadata : Metadata) : PublishScript Unit := do
  must (call .createReady)
  must (call (.writeReady metadata))
  must (call .syncReady)

def enrol (metadata : Metadata) (prepared : Bool) : PublishScript Unit := do
  let result ← run (call (.enrol metadata prepared))
  succeeded result
  writeExclusive metadata

def serialize (metadata : Metadata) : PublishScript Unit := do
  must (call .openDatabase)
  must (call .makeTemporary)
  let result ← run (call (.serialize metadata))
  succeeded result

def publish (store : String) (finger : Nat) (metadata : Metadata) : PublishScript Unit := do
  let stopped ← cancelled
  let small ← tooSmall
  if stopped ∨ small then .exit 1
  else
    must (call .fsyncTemporary)
    must (call (.link store finger metadata))
    must (call .unlinkTemporary)
    must (call .syncStore)
    must (call .unlinkDatabase)
    must (call .unlinkReady)
    report ("oem_print_publication=OK linux_identity_checked=1 " ++
      "store_format=fprintd_single_finger private_file_mode=0600 desktop_authentication=disabled")

/-- One run, less its `finally`, which only removes the temporary file. -/
def main (user finger store : String) (prepared : Bool) : PublishScript Unit := do
  let metadata : Metadata := { user := user, finger := finger }
  let number ← checkAccount user finger store
  takeLock store
  refuseSecond store
  must (call .pending)
  let pending ← databaseExists
  (if pending then reuse metadata else enrol metadata prepared)
  serialize metadata
  publish store number metadata

/-! ### Sequences of runs -/

/-- A new process, in the directories as they are. -/
def Vault.begin (vault : Vault) : Vault :=
  { vault with opened := none, temporary := none, cancelled := false }

def Vault.delete (vault : Vault) (store : String) (finger : Nat) : Vault :=
  { vault with prints := Function.update vault.prints (store, finger) none }

/-- A run up to its end or a crash, or the deletion of a print. -/
inductive Happens (user : String) : Vault → Vault → Prop where
  | run {vault after : Vault} {later : PublishScript Unit} (finger store : String)
      (prepared : Bool)
      (ran : Reaches publishMachine (main user finger store prepared, vault.begin) (later, after)) :
      Happens user vault after
  | delete {vault : Vault} (store : String) (finger : Nat) :
      Happens user vault (vault.delete store finger)

/-- Nothing pending and nothing enrolled yet. -/
def Vault.initial (prints : String × Nat → Option Database) : Vault where
  prints := prints
  database := none
  ready := none
  opened := none
  temporary := none
  cancelled := false
  history := { children := 0, accepted := [], handed := [], linked := [], stale := false }

end Liuqin.Fingerprint.Publish
