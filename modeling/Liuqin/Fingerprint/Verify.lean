/-
Verification by the TOD driver
(device/fingerprint/oem/src/fingerprint/libfprint-tod/fpc1264-oem.c).

The driver starts the runtime and waits for its end, cancelled or not; what it
makes of the exit status and of the two output texts is verify_finished.
-/

import Liuqin.Library.Lines
import Liuqin.Fingerprint.Runtime

namespace Liuqin.Fingerprint.Verify

open Liuqin.Library.Program Liuqin.Fingerprint.Runtime
open Liuqin.Library.Lines (strstr strstr_iff)
open scoped List

/-! ### The runtime's end -/

/-- A run of the runtime to the end of its process; a killed one has written a
part of its output. -/
structure RuntimeEnd where
  firmware : Bytes
  script : RuntimeScript Int
  runtime : Runtime
  run : Reaches runtimeMachine (runtimeMain firmware, Runtime.start) (script, runtime)
  written : Nat

/-- The exit status, of a process that exited. -/
def RuntimeEnd.exitStatus (ended : RuntimeEnd) : Option Int :=
  match ended.script with
  | .done value => some (value % 256)
  | .exit status => some (status % 256)
  | .act _ _ => none

def RuntimeEnd.output (ended : RuntimeEnd) : List Char :=
  match ended.script with
  | .act _ _ => ended.runtime.stdout.take ended.written
  | _ => ended.runtime.stdout

/-- What g_subprocess_communicate_utf8_finish hands over. -/
structure Outcome where
  communicated : Bool
  exitStatus : Option Int
  output : Option (List Char)
  diagnostic : Option (List Char)
  deriving DecidableEq, Repr

/-! ### Commands -/

inductive MatchReport where
  | success
  | fail
  | error
  deriving DecidableEq, Repr

inductive VerifyError where
  | dataInvalid
  | general (message : String)
  | io
  | cancelled
  | communication
  deriving DecidableEq, Repr

inductive Event where
  | report (result : MatchReport)
  | complete (error : Option VerifyError)
  deriving DecidableEq, Repr

inductive Opening where
  | missing
  | failed
  | opened
  deriving DecidableEq, Repr

inductive DriverOp where
  | verifyData
  | bundleTrusted
  | runnerTrusted
  | makeDirectory
  | createStaging
  | writeStaging (bytes : Bytes)
  | closeStaging
  | spawn
  | communicate
  | isCancelled
  | openUpdated
  | statUpdated
  | readUpdated (offset length : Nat)
  | keepOriginal
  | replaceData (database : Bytes)
  | clearOperation
  | emit (event : Event)

def DriverAnswer : DriverOp → Type
  | .verifyData => Option (Nat × Bytes)
  | .writeStaging _ => Option Nat
  | .communicate => Outcome
  | .openUpdated => Opening
  | .statUpdated => Option (Bool × Nat)
  | .readUpdated _ _ => Option Bytes
  | .replaceData _ => Unit
  | .clearOperation => Unit
  | .emit _ => Unit
  | _ => Bool

/-! ### The machine -/

/-- `print` is the print's `(uay)` data, `offered` the file at the path of the
updated database.  The newest event comes first. -/
structure Driver where
  print : Option (Nat × Bytes)
  original : Option (Nat × Bytes)
  cancelled : Bool
  runtime : Option RuntimeEnd
  offered : Option Bytes
  events : List Event

def Driver.start (print : Option (Nat × Bytes)) : Driver where
  print := print
  original := none
  cancelled := false
  runtime := none
  offered := none
  events := []

/-- How communication ends: with the runtime's end, whether the driver could
read it, and whether the verification was cancelled meanwhile. -/
structure Communicated where
  ended : RuntimeEnd
  readable : Bool
  diagnostic : List Char
  cancelled : Bool
  outside : Option (Option Bytes)

def Communicated.outcome (came : Communicated) : Outcome where
  communicated := came.readable
  exitStatus := came.ended.exitStatus
  output := if came.readable then some came.ended.output else none
  diagnostic := if came.readable then some came.diagnostic else none

def Output.bytes : Output → Option Bytes
  | .absent => none
  | .foreign bytes => some bytes
  | .own bytes _ => some bytes

/-- The file the client left, unless it is somebody else's. -/
def Communicated.offered (came : Communicated) : Option Bytes :=
  match came.ended.runtime.ending with
  | none => none
  | some ending => Output.bytes (ending.client.output.disturbed came.outside)

def DriverFault : DriverOp → Type
  | .communicate => Communicated
  | operation => DriverAnswer operation

def Driver.communicated (driver : Driver) (came : Communicated) : Driver :=
  { driver with
    cancelled := driver.cancelled || came.cancelled
    runtime := some came.ended
    offered := came.offered }

def Driver.emitted (driver : Driver) (event : Event) : Driver :=
  { driver with events := event :: driver.events }

def driverReact : (operation : DriverOp) → DriverFault operation → Driver →
    DriverAnswer operation × Driver
  | .communicate, came, driver => (Communicated.outcome came, driver.communicated came)
  | .verifyData, _, driver => (driver.print, driver)
  -- the cancellable of the action counts as well
  | .isCancelled, (action : Bool), driver =>
      (driver.cancelled || action, { driver with cancelled := driver.cancelled || action })
  | .openUpdated, (answer : Opening), driver =>
      let found := if driver.offered = none then Opening.missing else .opened
      (if answer = Opening.failed then .failed else found, driver)
  | .statUpdated, (answer : Option (Bool × Nat)), driver =>
      (answer.map fun found => (found.1, (driver.offered.getD []).length), driver)
  | .readUpdated offset length, (answer : Option Bytes), driver =>
      (answer.map fun offered =>
        (((driver.offered.getD []).drop offset).take (min length offered.length)), driver)
  | .keepOriginal, (works : Bool), driver =>
      (works, { driver with original := if works then driver.print else driver.original })
  | .replaceData database, _, driver => ((), { driver with print := some (1, database) })
  | .clearOperation, _, driver => ((), { driver with offered := none })
  | .emit event, _, driver => ((), driver.emitted event)
  | .writeStaging bytes, (answer : Option Nat), driver => (answer.map (min bytes.length), driver)
  | .bundleTrusted, answer, driver => (answer, driver)
  | .runnerTrusted, answer, driver => (answer, driver)
  | .makeDirectory, answer, driver => (answer, driver)
  | .createStaging, answer, driver => (answer, driver)
  | .closeStaging, answer, driver => (answer, driver)
  | .spawn, answer, driver => (answer, driver)

def driverMachine : Machine DriverAnswer Driver where
  Fault := DriverFault
  perform := driverReact

abbrev DriverScript := Prog DriverAnswer

def ask (operation : DriverOp) : DriverScript (DriverAnswer operation) := Prog.perform operation

def verifyData : DriverScript (Option (Nat × Bytes)) := ask .verifyData
def bundleTrusted : DriverScript Bool := ask .bundleTrusted
def runnerTrusted : DriverScript Bool := ask .runnerTrusted
def makeDirectory : DriverScript Bool := ask .makeDirectory
def createStaging : DriverScript Bool := ask .createStaging
def writeStaging (bytes : Bytes) : DriverScript (Option Nat) := ask (.writeStaging bytes)
def closeStaging : DriverScript Bool := ask .closeStaging
def spawn : DriverScript Bool := ask .spawn
def communicate : DriverScript Outcome := ask .communicate
def isCancelled : DriverScript Bool := ask .isCancelled
def openUpdated : DriverScript Opening := ask .openUpdated
def statUpdated : DriverScript (Option (Bool × Nat)) := ask .statUpdated

def readUpdated (offset length : Nat) : DriverScript (Option Bytes) :=
  ask (.readUpdated offset length)

def keepOriginal : DriverScript Bool := ask .keepOriginal
def replaceData (database : Bytes) : DriverScript Unit := ask (.replaceData database)
def clearOperation : DriverScript Unit := ask .clearOperation
def report (result : MatchReport) : DriverScript Unit := ask (.emit (.report result))
def complete (error : Option VerifyError) : DriverScript Unit := ask (.emit (.complete error))

/-! ### The updated database -/

def databaseLimit : Nat := 16 * 1024 * 1024

/-- The bytes of a file of this size; a short file is an error. -/
def readDatabase (size : Nat) (database : Bytes) : DriverScript (Option Bytes) :=
  if database.length < size then do
    match ← readUpdated database.length (size - database.length) with
    | some (byte :: rest) => readDatabase size (database ++ byte :: rest)
    | _ => return none
  else pure (some database)
  termination_by size - database.length
  decreasing_by
    simp only [List.length_append, List.length_cons]
    omega

/-- The whole of a private, regular and not too large file. -/
def loadUpdated : DriverScript (Option Bytes) := do
  match ← statUpdated with
  | some (true, size) =>
      if size = 0 ∨ size > databaseLimit then return none else readDatabase size []
  | _ => return none

def acceptUpdatedDatabase (expected : Bool) : DriverScript Bool := do
  match ← openUpdated with
  | .missing => return !expected
  | .failed => return false
  | .opened =>
      match ← loadUpdated with
      | none => return false
      | some database =>
          if ← keepOriginal then
            replaceData database
            return true
          else return false

/-! ### The result -/

/-- A text that may be NULL; a C string ends at its first NUL. -/
def contains (text : Option (List Char)) (line : List Char) : Bool :=
  match text with
  | none => false
  | some text => strstr line (text.takeWhile (· ≠ '\x00'))

def Outcome.status (outcome : Outcome) : Int :=
  if outcome.communicated then outcome.exitStatus.getD (-1) else -1

def Outcome.cleaned (outcome : Outcome) : Bool := contains outcome.output completeLine

def Outcome.matched (outcome : Outcome) : Bool := contains outcome.output matchedLine.toList

def Outcome.missed (outcome : Outcome) : Bool := contains outcome.output notMatchedLine.toList

def Outcome.validResult (outcome : Outcome) : Bool :=
  outcome.cleaned && (decide (outcome.status = 0) && outcome.matched ||
    decide (outcome.status = 3) && outcome.missed)

/-- CAPTURE's WAIT_TIME, before identify. -/
def Outcome.captureWait (outcome : Outcome) : Bool :=
  outcome.diagnostic.map (List.takeWhile (· ≠ '\x00')) =
    some "match_incomplete=capture_rejected app_status=1\n".toList

def Outcome.runtimeStopped (outcome : Outcome) : Bool :=
  contains outcome.diagnostic "oem_runtime_timed_out=1\n".toList ||
    contains outcome.diagnostic "oem_runtime_cancelled=1\n".toList

def Outcome.retryScan (outcome : Outcome) : Bool :=
  outcome.cleaned && decide (outcome.status = 1) && !outcome.runtimeStopped &&
    !outcome.matched && !outcome.missed && outcome.output.isSome &&
    (outcome.captureWait ||
      contains outcome.output "match_result=inconclusive identify_app_status=4\n".toList ||
      contains outcome.output "match_result=inconclusive identify_app_status=12\n".toList)

/-- The end of verify_finished; `valid` is the valid result left. -/
def conclude (outcome : Outcome) (cancelled valid : Bool) : DriverScript Unit := do
  clearOperation
  if cancelled then complete (some .cancelled)
  else if ¬outcome.communicated then complete (some .communication)
  else if outcome.retryScan then
    report .error
    complete none
  else if ¬valid then complete (some (.general "OEM verification did not complete"))
  else
    report (if outcome.status = 0 then .success else .fail)
    complete none

def verifyFinished (outcome : Outcome) : DriverScript Unit := do
  let cancelled ← isCancelled
  if ¬cancelled ∧ outcome.validResult ∧ outcome.status = 0 then
    let accepted ← acceptUpdatedDatabase (contains outcome.output updateRequiredLine.toList)
    conclude outcome cancelled accepted
  else conclude outcome cancelled outcome.validResult

/-! ### The operation -/

/-- `goto failed` -/
def failed {α : Type} (error : VerifyError) : DriverScript α := do
  clearOperation
  complete (some error)
  .exit 1

def failUnless (works : Bool) (error : VerifyError) : DriverScript Unit :=
  if works then pure () else failed error

def stageDatabase (bytes : Bytes) : DriverScript Unit :=
  if bytes = [] then pure ()
  else do
    match ← writeStaging bytes with
    | some (count + 1) => stageDatabase (bytes.drop (count + 1))
    | _ => failed .io
  termination_by bytes.length
  decreasing_by
    have := List.length_pos_iff.mpr ‹¬bytes = []›
    simp only [List.length_drop]
    omega

/-- A versioned single-finger database. -/
def checkPrint (data : Option (Nat × Bytes)) : DriverScript Bytes :=
  match data with
  | none => failed .dataInvalid
  | some (version, database) =>
      if version ≠ 1 ∨ database = [] ∨ database.length > databaseLimit then failed .dataInvalid
      else pure database

def verify : DriverScript Unit := do
  let database ← checkPrint (← verifyData)
  failUnless (← bundleTrusted) (.general "Supply a trusted private OEM runtime directory")
  failUnless (← runnerTrusted) (.general "Trusted OEM runner is missing")
  failUnless (← makeDirectory) .io
  failUnless (← createStaging) .io
  stageDatabase database
  failUnless (← closeStaging) .io
  failUnless (← spawn) (.general "spawn")
  let outcome ← communicate
  verifyFinished outcome

end Liuqin.Fingerprint.Verify
