/-
The enrolment provider (device/fingerprint/oem/src/fingerprint/oem/native_enrol.py).

Its children print what they like and end as they like.  Every call may fail,
which raises an exception, and one of the three signals may come at any step: it
cancels the runtime while its handler is in place and ends the process else.
-/

import Mathlib.Logic.Function.Basic
import Liuqin.Library.Bytes
import Liuqin.Library.Program

namespace Liuqin.Fingerprint.NativeEnrol

open Liuqin.Library Liuqin.Library.Program

/-! ### Lines -/

def cleanupLine : String :=
  "oem_runtime_cleanup firmware_path_restored=1 sensor_power_off=1 listener_stopped=1"

def cleanupStart : String := "oem_runtime_cleanup "

/-- FORWARD. -/
def forwarded : List String :=
  ["READY ", "enrol_progress_status=", "capture_rejected=", "oem_runtime_cleanup ",
    "native_credential_provider=FAILED", "native_credential_provider=BUSY",
    "pipeline_incomplete=", "end_enrol_not_submitted=", "enrol_authorization=",
    "oem_runtime_timed_out=", "oem_runtime_cancelled="]

def startsWith (line start : String) : Bool := start.toList.isPrefixOf line.toList

def forwards (line : String) : Bool := forwarded.any (startsWith line)

def cleanupOk : String := "native_enrol_cleanup=OK"
def enrolOk : String := "native_enrol=OK single_finger_database=1"
def enrolCancelled : String := "native_enrol=CANCELLED"
def enrolRefused : String := "native_enrol=REFUSED existing_template=1"

/-- What a line makes of `cleanup`. -/
def judge (cleanup : Bool) (line : String) : Bool :=
  if startsWith line cleanupStart then line = cleanupLine else cleanup

/-! ### The world -/

inductive Signal where
  | term
  | int
  | hup
  deriving DecidableEq, Repr

/-- A child's lines, without their ends, that were read and that were not. -/
structure Child where
  read : List String
  unread : List String
  deriving DecidableEq, Repr

/-- The file created at the output path: what it holds, and whether it and its
entry are on the disk for good. -/
structure Output where
  content : Library.Bytes
  synced : Bool
  entry : Bool
  deriving DecidableEq, Repr

/-- The runtime with its child, the lines of all the children, the handlers in
place, what was printed, and the files. -/
structure World where
  cancelled : Bool
  creating : Bool
  cleaned : Bool
  child : Option Child
  exited : Bool
  terminated : Bool
  started : List (List String)
  handled : Signal → Bool
  dead : Bool
  printed : List String
  secret : Bool
  database : Library.Bytes
  output : Option Output

def World.start : World where
  cancelled := false
  creating := false
  cleaned := true
  child := none
  exited := false
  terminated := false
  started := []
  handled := fun _ => false
  dead := false
  printed := []
  secret := false
  database := []
  output := none

/-- Runtime.cancel; the child is told unless it creates an identity. -/
def World.cancel (world : World) : World :=
  { world with
    cancelled := true
    terminated := world.terminated ||
      (!world.creating && world.child.isSome && !world.exited) }

def World.arrive (world : World) : Option Signal → World
  | none => world
  | some signal => if world.handled signal then world.cancel else { world with dead := true }

def Child.next (child : Child) : Child :=
  match child.unread with
  | [] => child
  | line :: rest => ⟨child.read ++ [line], rest⟩

/-! ### Calls -/

/-- Calls that work or not. -/
inductive Call where
  | arguments
  | setrlimit
  | stderr
  | account
  | bundle
  | candidate
  | outputPath
  | outputParent
  | stateRoot
  | accountDirectory
  | openLock
  | flock
  | unfinished
  | urandom
  | writeRecord
  | writeRequested
  | readRecord
  | readHandle
  | secretLength
  | fchmod
  | writeSecret
  | seal
  | lseek
  | unlinkRequested
  | syncAccount
  | mkdtemp
  | closeStdout
  | databaseInfo
  | openSource
  | openTarget
  | closeOutput
  | closeDatabase
  | openParent
  | closeParent
  | removeTemporary
  | closeSecret
  | closeLock
  deriving DecidableEq, Repr

inductive Op where
  | call (name : Call)
  | templates
  | credential
  | memfd
  | secretOpen
  | cancelled
  | cleaned
  | idle
  | setCleaned (value : Bool)
  | setCreating (value : Bool)
  | dropChild
  | cancel
  | spawn
  | read
  | poll
  | wait
  | print (line : String)
  | openDatabase
  | createOutput
  | copy
  | flush
  | fsyncOutput
  | unlinkOutput
  | fsyncParent
  | install (signal : Signal)
  | restore (signal : Signal)
  | leave
  deriving DecidableEq

@[reducible] def Answer : Op → Type
  | .credential => Option Bool
  | .spawn => Option (List String)
  | .wait => Nat
  | .openDatabase => Option Library.Bytes
  | .setCleaned _ | .setCreating _ | .dropChild | .cancel | .install _ | .restore _ | .leave => Unit
  | _ => Bool

/-- How a call goes, the signal that came before it, and how much a write got
through. -/
structure Fault (operation : Op) where
  answer : Answer operation
  signal : Option Signal
  part : Nat

def World.write (world : World) (content : Library.Bytes) : World :=
  { world with output := world.output.map ({ · with content := content }) }

def react (part : Nat) : (operation : Op) → Answer operation → World → Answer operation × World
  | .call _, works, world => (works, world)
  | .templates, found, world => (found, world)
  | .credential, there, world => (there, world)
  | .memfd, works, world => (works, { world with secret := works })
  | .secretOpen, _, world => (world.secret, world)
  | .cancelled, _, world => (world.cancelled, world)
  | .cleaned, _, world => (world.cleaned, world)
  | .idle, _, world => (world.child.isNone, world)
  | .setCleaned value, _, world => ((), { world with cleaned := value })
  | .setCreating value, _, world => ((), { world with creating := value })
  | .dropChild, _, world => ((), { world with child := none })
  | .cancel, _, world => ((), world.cancel)
  | .spawn, none, world => (none, world)
  | .spawn, some lines, world =>
      (some lines, { world with
        child := some ⟨[], lines⟩
        exited := false
        terminated := false
        started := world.started ++ [lines] })
  | .read, works, world =>
      (works, if works then { world with child := world.child.map Child.next } else world)
  | .poll, running, world =>
      (running && !world.exited, { world with exited := !(running && !world.exited) })
  | .wait, status, world => (status, { world with exited := true })
  | .print line, works, world =>
      (works, if works then { world with printed := world.printed ++ [line] } else world)
  | .openDatabase, none, world => (none, world)
  | .openDatabase, some content, world => (some content, { world with database := content })
  | .createOutput, works, world =>
      (works, if works then { world with output := some ⟨[], false, false⟩ } else world)
  | .copy, works, world => (works, world.write (world.database.take part))
  | .flush, works, world =>
      (works, world.write (if works then world.database else world.database.take part))
  | .fsyncOutput, works, world =>
      (works, if works then
        { world with output := world.output.map ({ · with synced := true }) } else world)
  | .unlinkOutput, works, world => (works, if works then { world with output := none } else world)
  | .fsyncParent, works, world =>
      (works, if works then
        { world with output := world.output.map ({ · with entry := true }) } else world)
  | .install signal, _, world =>
      ((), { world with handled := Function.update world.handled signal true })
  | .restore signal, _, world =>
      ((), { world with handled := Function.update world.handled signal false })
  | .leave, _, world => ((), world)

/-- A process that a signal has ended does nothing any more. -/
def perform (operation : Op) (fault : Fault operation) (world : World) :
    Answer operation × World :=
  let now := world.arrive fault.signal
  if now.dead then (fault.answer, now) else react fault.part operation fault.answer now

def machine : Machine Answer World where
  Fault := Fault
  perform := perform

abbrev Script := Prog Answer

/-! ### Exceptions -/

/-- An exception. -/
def raise {α : Type} : Script α := .exit 1

def act (operation : Op) : Script (Answer operation) := .act operation .done

def must (call : Script Bool) : Script Unit := do
  let worked ← call
  if worked then pure () else raise

def attempt (name : Call) : Script Unit := must (act (.call name))

/-- try and finally: the ending runs either way, and an exception passes on. -/
def finallyDo {α : Type} (body : Script α) (ending : Script Unit) : Script α :=
  (body.onExit (fun status => ending.bind (fun _ => .exit status))).bind
    (fun value => ending.bind (fun _ => .done value))

/-! ### Runtime.run -/

/-- How far the child's lines were read, with the last judgement of `cleanup`. -/
structure Reading where
  cleanup : Bool
  rest : List String
  raised : Bool

/-- The loop over the child's lines. -/
def readLines : List String → Bool → Script Reading
  | [], cleanup => do
      let ended ← act .read
      pure ⟨cleanup, [], !ended⟩
  | line :: rest, cleanup => do
      let got ← act .read
      if got then
        if forwards line then do
          let printed ← act (.print line)
          if printed then readLines rest (judge cleanup line)
          else pure ⟨judge cleanup line, rest, true⟩
        else readLines rest (judge cleanup line)
      else pure ⟨cleanup, line :: rest, true⟩

/-- The loop of the finally clause. -/
def drain : List String → Bool → Script Bool
  | [], cleanup => do
      must (act .read)
      pure cleanup
  | line :: rest, cleanup => do
      must (act .read)
      drain rest (judge cleanup line)

/-- The status of the child, which an exception leaves out. -/
def childStatus (reading : Reading) : Script Nat :=
  if reading.raised then pure 0 else act .wait

/-- The finally clause up to the end of the child. -/
def settleChild (reading : Reading) : Script Bool := do
  let running ← act .poll
  if running then do
    act .cancel
    let cleanup ← drain reading.rest reading.cleanup
    let _ ← act .wait
    pure cleanup
  else pure reading.cleanup

/-- A child that started in a cancelled runtime is told. -/
def tell (early : Bool) : Script Unit :=
  if early then act .cancel else pure ()

def run (finishCreation : Bool) : Script Nat := do
  let stopped ← act .cancelled
  if stopped && !finishCreation then pure 1
  else
    let previous ← act .cleaned
    act (.setCleaned false)
    act (.setCreating finishCreation)
    let lines ← act .spawn
    match lines with
    | none =>
        act (.setCleaned previous)
        act (.setCreating false)
        raise
    | some lines =>
        let early ← act .cancelled
        tell early
        let reading ← readLines lines false
        let status ← childStatus reading
        let cleanup ← settleChild reading
        attempt .closeStdout
        act .dropChild
        act (.setCreating false)
        act (.setCleaned (previous && cleanup))
        if reading.raised then raise
        else
          let late ← act .cancelled
          pure (if finishCreation || !late then status else 1)

/-! ### enrol -/

/-- The inner try statement: the database goes to the output. -/
def copyDatabase : Script Unit := do
  attempt .openSource
  attempt .openTarget
  must (act .copy)
  must (act .flush)
  must (act .fsyncOutput)
  let stopped ← act .cancelled
  if stopped then raise else pure ()

def unlinkOutput (status : Nat) : Script Unit := do
  must (act .unlinkOutput)
  .exit status

def publish (content : Library.Bytes) : Script Unit := do
  let trusted ← act (.call .databaseInfo)
  if trusted = true ∧ 0 < content.length ∧ content.length ≤ 16 * 1024 * 1024 then
    must (act .createOutput)
    finallyDo (copyDatabase.onExit unlinkOutput) (attempt .closeOutput)
  else raise

/-- sync_directory of the output's directory. -/
def syncParent : Script Unit := do
  attempt .openParent
  finallyDo (must (act .fsyncParent)) (attempt .closeParent)

/-- The body of the with statement. -/
def acquire : Script Nat := do
  attempt .lseek
  let status ← run false
  let clean ← act .cleaned
  let stopped ← act .cancelled
  if status ≠ 0 ∨ clean = false ∨ stopped = true then
    attempt .stderr
    pure 1
  else
    let content ← act .openDatabase
    match content with
    | none => raise
    | some content =>
        finallyDo (publish content) (attempt .closeDatabase)
        syncParent
        pure 0

/-- A credential is created; whether the enrolment goes on. -/
def createCredential : Script Bool := do
  attempt .lseek
  let status ← run true
  let clean ← act .cleaned
  if status ≠ 0 ∨ clean = false then
    attempt .stderr
    pure false
  else
    attempt .readHandle
    attempt .unlinkRequested
    attempt .syncAccount
    pure true

def credential (there : Bool) : Script Bool :=
  if there then pure true else createCredential

/-- The record of a credential, read or written; whether the enrolment goes on. -/
def record (there : Bool) : Script Bool :=
  if there then do
    attempt .readRecord
    attempt .readHandle
    pure true
  else do
    let stopped ← act .cancelled
    if stopped then pure false
    else
      attempt .urandom
      attempt .writeRecord
      attempt .writeRequested
      pure true

/-- The try statement under the lock. -/
def operate : Script Nat := do
  attempt .flock
  attempt .unfinished
  let found ← act .credential
  match found with
  | none => raise
  | some there =>
      let recorded ← record there
      if recorded then
        attempt .secretLength
        must (act .memfd)
        attempt .fchmod
        attempt .writeSecret
        attempt .seal
        let ready ← credential there
        if ready then
          let stopped ← act .cancelled
          if stopped then pure 1
          else
            attempt .mkdtemp
            finallyDo acquire (attempt .removeTemporary)
        else pure 1
      else pure 1

def closeSecret (held : Bool) : Script Unit :=
  if held then attempt .closeSecret else pure ()

/-- Its finally clause. -/
def release : Script Unit := do
  let held ← act .secretOpen
  closeSecret held
  attempt .closeLock

def enrol : Script Nat := do
  attempt .account
  attempt .bundle
  attempt .candidate
  let found ← act .templates
  if found then
    must (act (.print enrolRefused))
    pure 2
  else
    attempt .outputPath
    attempt .outputParent
    attempt .stateRoot
    attempt .accountDirectory
    attempt .openLock
    finallyDo operate release

/-! ### main -/

/-- The try statement; `true` beside a result that is returned at once. -/
def begin : Script (Nat × Bool) := do
  let usable ← act (.call .arguments)
  if usable then
    attempt .setrlimit
    act (.install .term)
    act (.install .int)
    act (.install .hup)
    let status ← enrol
    pure (status, false)
  else
    attempt .stderr
    pure (2, true)

/-- Its except clause. -/
def failed (_ : Nat) : Script (Nat × Bool) := do
  attempt .stderr
  pure (1, false)

def sayCleaned (cleaned : Bool) : Script Unit :=
  if cleaned then must (act (.print cleanupOk)) else pure ()

/-- Its finally clause; a signal without a handler of ours keeps its own. -/
def report : Script Unit := do
  let clean ← act .cleaned
  let idle ← act .idle
  sayCleaned (clean && idle)
  act (.restore .term)
  act (.restore .int)
  act (.restore .hup)

def main : Script Nat := do
  let ending ← finallyDo (begin.onExit failed) report
  if ending.2 then pure ending.1
  else
    let stopped ← act .cancelled
    if stopped then
      must (act (.print enrolCancelled))
      pure 1
    else
      let clean ← act .cleaned
      if ending.1 = 0 ∧ clean = true then
        must (act (.print enrolOk))
        pure ending.1
      else pure ending.1

/-- The process, which a signal may still end when main has returned. -/
def provider : Script Nat := do
  let status ← main
  act .leave
  pure status

end Liuqin.Fingerprint.NativeEnrol
