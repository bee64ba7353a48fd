/-
Enrolment in the fprintd adapter (libfprint-tod/fpc1264-oem.c).

The provider's lines are read one by one until its output ends; what is reported
to fprintd is kept in order.  Any report may lead back into the adapter's cancel
function, so which ones do is part of an enrolment.
-/

import Liuqin.Library.Bytes
import Liuqin.Library.Lines

namespace Liuqin.Fingerprint.Adapter

open Liuqin.Library (Bytes)
open Liuqin.Library.Lines (Text)

/-! ### sscanf -/

def isSpace (char : Char) : Bool := [9, 10, 11, 12, 13, 32].contains char.toNat

def isDigit (char : Char) : Bool := 48 ≤ char.toNat && char.toNat ≤ 57

def decimal (digits : Text) : Nat :=
  digits.foldl (fun value digit => 10 * value + (digit.toNat - 48)) 0

/-- A signed number behind white space, and the text behind it. -/
def scanNumber (text : Text) : Option (Int × Text) :=
  let text := text.dropWhile isSpace
  let negative := text.head? = some '-'
  let text := if negative ∨ text.head? = some '+' then text.drop 1 else text
  let digits := text.takeWhile isDigit
  if digits = [] then none
  else
    some (if negative then -(decimal digits : Int) else decimal digits, text.dropWhile isDigit)

/-- `%d`: strtol, and then an int. -/
def toInt (value : Int) : Int := Int.bmod (max (-2 ^ 63) (min (2 ^ 63 - 1) value)) (2 ^ 32)

/-- `%u`: strtoul, and then an unsigned int. -/
def toUnsigned (value : Int) : Nat :=
  ((if value.natAbs < 2 ^ 64 then value else 2 ^ 64 - 1) % 2 ^ 32).toNat

def afterPrefix (front text : Text) : Option Text :=
  if front.isPrefixOf text then some (text.drop front.length) else none

/-- `sscanf (line, "enrol_progress_status=%d remaining=%u%c", ...) == 2` -/
def scanProgress (line : Text) : Option (Int × Nat) := do
  let text ← afterPrefix "enrol_progress_status=".toList line
  let (status, text) ← scanNumber text
  let text ← afterPrefix "remaining=".toList (text.dropWhile isSpace)
  let (remaining, text) ← scanNumber text
  if text = [] then some (toInt status, toUnsigned remaining) else none

/-! ### The adapter -/

inductive FingerStatus where
  | none
  | needed
  | present
  deriving DecidableEq, Repr

inductive Report where
  | stages (count : Int)
  | progress (completed : Int)
  | retry (completed : Int)
  | finger (status : FingerStatus)
  deriving DecidableEq, Repr

structure Adapter where
  cancelled : Bool
  enrolStages : Int
  enrolCompleted : Int
  enrolRemaining : Nat
  enrolCleaned : Bool
  enrolSucceeded : Bool
  enrolExisting : Bool
  reports : List Report
  deriving DecidableEq, Repr

/-- `clear_operation`, and no cancellation yet. -/
def Adapter.cleared : Adapter where
  cancelled := false
  enrolStages := 0
  enrolCompleted := 0
  enrolRemaining := 0
  enrolCleaned := false
  enrolSucceeded := false
  enrolExisting := false
  reports := []

def cleanupLine : Text := "native_enrol_cleanup=OK".toList

def successLine : Text := "native_enrol=OK single_finger_database=1".toList

def existingLine : Text := "native_enrol=REFUSED existing_template=1".toList

section Lines

-- whether fprintd cancels from inside the report of this number
variable (cancels : Nat → Bool)

def report (self : Adapter) (made : Report) : Adapter :=
  { self with
    reports := self.reports ++ [made]
    cancelled := self.cancelled || cancels self.reports.length }

/-- What `enrol` leaves when the provider runs. -/
def started : Adapter := report cancels (report cancels .cleared (.stages 20)) (.finger .needed)

def enrolRetry (self : Adapter) : Adapter :=
  if ¬self.cancelled then report cancels self (.retry self.enrolCompleted) else self

/-- The loop that publishes every newly completed stage. -/
def publish : Nat → Adapter → Adapter
  | 0, self => self
  | more + 1, self =>
      if self.cancelled then self
      else
        let self := { self with enrolCompleted := self.enrolCompleted + 1 }
        publish more (report cancels self (.progress self.enrolCompleted))

def announce (self : Adapter) (remaining : Nat) : Adapter :=
  if self.enrolStages = 0 then
    report cancels
      { self with enrolStages := remaining + 1, enrolRemaining := remaining + 1 }
      (.stages (remaining + 1))
  else self

def clamp (value low high : Int) : Int :=
  if value > high then high else if value < low then low else value

def enrolSample (self : Adapter) (status : Int) (remaining : Nat) : Adapter :=
  if status < 0 ∨ remaining ≥ 40 then enrolRetry cancels self
  else
    let self := announce cancels self remaining
    if remaining ≥ self.enrolRemaining then enrolRetry cancels self
    else
      let self := { self with enrolRemaining := remaining }
      let completed := clamp (self.enrolStages - remaining) 0 (self.enrolStages - 1)
      publish cancels (completed - self.enrolCompleted).toNat self

def enrolStatusLine (self : Adapter) (line : Text) : Adapter :=
  if line = cleanupLine then { self with enrolCleaned := true }
  else if line = successLine then { self with enrolSucceeded := self.enrolCleaned }
  else if line = existingLine then { self with enrolExisting := true }
  else if self.cancelled then self
  else
    match scanProgress line with
    | some (status, remaining) => enrolSample cancels self status remaining
    | none =>
        if "capture_rejected=".toList.isPrefixOf line then enrolRetry cancels self
        else if "READY lift finger".toList.isPrefixOf line then report cancels self (.finger .present)
        else if "READY enrol attempt=".toList.isPrefixOf line then
          report cancels self (.finger .needed)
        else self

inductive Event where
  | line (text : Text)
  | cancel
  deriving DecidableEq, Repr

/-- Lines of more than 4096 bytes are passed over. -/
def handle (self : Adapter) : Event → Adapter
  | .cancel => { self with cancelled := true }
  | .line text =>
      if (Library.Bytes.encode text).length ≤ 4096 then enrolStatusLine cancels self text else self

def handleAll (self : Adapter) (events : List Event) : Adapter := events.foldl (handle cancels) self

end Lines

/-! ### The end of an enrolment -/

inductive ReadResult where
  | interrupted
  | failed
  | data (bytes : Bytes)
  deriving DecidableEq, Repr

/-- The database as `fstat` sees it, and what the reads of it return. -/
structure DatabaseFile where
  regular : Bool
  uid : Nat
  gid : Nat
  mode : Nat
  size : Int
  reads : List ReadResult
  deriving DecidableEq, Repr

/-- The read loop. -/
def readAll (length : Nat) (database : Bytes) : List ReadResult → Option Bytes
  | [] => if database.length < length then none else some database
  | result :: rest =>
      if database.length < length then
        match result with
        | .interrupted => readAll length database rest
        | .failed => none
        | .data [] => none
        | .data bytes => readAll length (database ++ bytes.take (length - database.length)) rest
      else some database

def loadEnrolledDatabase : Option DatabaseFile → Option Bytes
  | none => none
  | some info =>
      if ¬info.regular ∨ info.uid ≠ 0 ∨ info.gid ≠ 0 ∨ info.mode % 512 ≠ 0o600 ∨
          info.size ≤ 0 ∨ info.size > 16 * 1024 * 1024 then none
      else readAll info.size.toNat [] info.reads

/-- How the provider and its output ended. -/
structure Ending where
  readError : Bool
  exited : Bool
  exitStatus : Int
  actionCancelled : Bool
  database : Option DatabaseFile
  deriving DecidableEq, Repr

inductive EnrolError where
  | cancelled
  | read
  | dataFull
  | general
  | dataInvalid
  deriving DecidableEq, Repr

def EnrolError.message : EnrolError → String
  | .cancelled => "Fingerprint enrollment cancelled after cleanup"
  | .read => ""  -- the message of the failed read
  | .dataFull => "Only one enrolled finger per user is supported"
  | .general => "OEM enrollment did not finish with confirmed cleanup"
  | .dataInvalid => "The enrolled fingerprint database is incomplete or not private"

/-- The database of the print that is returned. -/
def enrolFinished (self : Adapter) (ending : Ending) : Except EnrolError Bytes :=
  let status := if ending.exited then ending.exitStatus else -1
  let cancelled := self.cancelled || ending.actionCancelled
  let valid := ending.exited && status = 0 && self.enrolCleaned && self.enrolSucceeded &&
    !ending.readError
  if cancelled && self.enrolCleaned then .error .cancelled
  else if ending.readError then .error .read
  else if !valid || cancelled then
    .error (if self.enrolExisting then .dataFull else .general)
  else
    match loadEnrolledDatabase ending.database with
    | none => .error .dataInvalid
    | some database => .ok database

structure Enrolment where
  cancels : Nat → Bool
  events : List Event
  ending : Ending

def Enrolment.adapter (enrolment : Enrolment) : Adapter :=
  handleAll enrolment.cancels (started enrolment.cancels) enrolment.events

def Enrolment.result (enrolment : Enrolment) : Except EnrolError Bytes :=
  enrolFinished enrolment.adapter enrolment.ending

end Liuqin.Fingerprint.Adapter
