/-
The FPC client's functions
(device/fingerprint/oem/src/fingerprint/oem/fpc_build_info.c).

`goto out` and an error return out of the middle of a function are exits here,
taken over where the function ends.
-/

import Liuqin.Library.Hex
import Liuqin.Fingerprint.Tee

namespace Liuqin.Fingerprint

open Liuqin.Library.Program

/-! ### System calls -/

def call (operation : ClientOp) : ClientScript (ClientAnswer operation) := Prog.perform operation

def operationCancelled : ClientScript Bool := call .cancelled
def printf (text : String) : ClientScript Unit := call (.print text)
def fprintf (text : String) : ClientScript Unit := call (.eprint text)
def allocateShared (size : Nat) : ClientScript Bool := call (.allocate size)
def pollPower (timeout : Nat) : ClientScript Polled := call (.poll timeout)
def createOutput : ClientScript Bool := call .createOutput
def writeOutput (bytes : Bytes) : ClientScript (Option Nat) := call (.writeOutput bytes)
def fsyncOutput : ClientScript Bool := call .fsyncOutput
def closeOutput : ClientScript Bool := call .closeOutput
def unlinkOutput : ClientScript Unit := call .unlinkOutput
def openDatabase : ClientScript Bool := call .openDatabase
def statDatabase : ClientScript (Option Nat) := call .statDatabase
def closeDatabase : ClientScript Bool := call .closeDatabase

def gotoOut {α : Type} : ClientScript α := .exit 1

def outUnless (works : Bool) : ClientScript Unit := if works then pure () else gotoOut

/-- `if (status) goto out;` -/
def outIf (status : Int) : ClientScript Unit := if status = 0 then pure () else gotoOut

def runIf (condition : Prop) [Decidable condition] (script : ClientScript Unit) :
    ClientScript Unit := if condition then script else pure ()

/-- The status of a function whose errors all return the same one. -/
def returning (failed : Int) (body : ClientScript Int) : ClientScript Int :=
  body.onExit fun _ => .done failed

/-! ### TEE commands -/

def statusHex (status : Int) : String :=
  String.ofList ((Library.Hex.encode 8 (status % 2 ^ 32).toNat).map Char.toLower)

def fpcStatusStr (status : Int) : String :=
  if status = 0 then "FPC_STATUS_OK"
  else if status = 1 then "FPC_STATUS_WAIT_TIME"
  else if status = 2 then "FPC_STATUS_2"
  else if status = 3 then "FPC_STATUS_FINGER_LOST"
  else if status = 4 then "FPC_STATUS_BAD_QUALITY"
  else if status = 7 then "FPC_STATUS_ENROLL_LOW_COVERAGE"
  else "FPC_STATUS_UNKNOWN"

def invokeTee (session : Nat) (request : Request) : ClientScript Reply :=
  call (.invoke session request)

def invokePayload (session : Nat) (request : Request) : ClientScript (Int × Memory) := do
  let reply ← invokeTee session request
  runIf reply.answered (printf ("tee_ret=0 origin=" ++ toString reply.origin ++
    " response_status=" ++ toString reply.response ++ " status_hex=" ++
    statusHex reply.response ++ "\n"))
  runIf (¬reply.answered) (fprintf "invoke_payload\n")
  return (reply.status, reply.payload)

def reportCapture (status : Int) (payload : Memory) : ClientScript Unit := do
  printf ("fpc_status=" ++ fpcStatusStr status ++ "\n")
  printf ("capture_result_word4=" ++ toString (wordAt payload 4) ++ " (0x" ++
    statusHex (wordAt payload 4) ++ ")\n")
  runIf (status = 3) (printf "capture_note=FINGER_LOST_or_mapped_lower_error\n")
  runIf (status = 0) (printf "capture_note=TA_reported_capture_OK raw_image_export=unverified\n")

def reportQuery (kind : QueryKind) (status : Int) (payload : Memory) : ClientScript Unit :=
  match kind with
  | .captureEnrol => reportCapture status payload
  | .bioEnrol =>
      runIf (status ≥ 0)
        (printf ("enrol_remaining_touches=" ++ toString (wordAt payload 2) ++ "\n"))
  | .bioEndEnrol =>
      runIf (status = 0) (printf ("enrol_template_id_nonzero=" ++
        (if wordAt payload 2 = 0 then "0" else "1") ++ "\n"))
  | _ => pure ()

/-- The status, and word 2 of the answer. -/
def queryOutput (session : Nat) (kind : QueryKind) : ClientScript (Int × Nat) := do
  if ← allocateShared payloadSize then
    printf ("command=" ++ toString kind.request.module ++ " subcommand=" ++
      toString kind.request.command ++ "\n")
    let (status, payload) ← invokePayload session kind.request
    reportQuery kind status payload
    return (status, wordAt payload 2)
  else
    fprintf "allocate_payload\n"
    -- word 2 of a failed query is not read
    return (-1, 0)

def query (session : Nat) (kind : QueryKind) : ClientScript Int := do
  let (status, _) ← queryOutput session kind
  return status

/-- HAL fpc_tee_init_hw_auth: the Keymaster's blob goes to the FPC application. -/
def initHwAuth (session : Nat) : ClientScript Int := returning (-1) do
  let answer ← call (.keymaster 0x205 2)
  match (answer : Option Memory) with
  | none => gotoOut
  | some response =>
      let offset := wordAt response 1
      let length := wordAt response 2
      if length = 0 ∨ offset > 960 ∨ length > 960 - offset ∨ length > payloadSize - 16 then
        fprintf ("hw_auth=keymaster_invalid_response offset=" ++ toString offset ++ " length=" ++
          toString length ++ "\n")
        gotoOut
      else
        outUnless (← allocateShared payloadSize)
        let (status, _) ← invokePayload session
          { module := 3, command := 5, word3 := length, at16 := bytesAt response offset length }
        if status ≠ 0 then
          fprintf ("hw_auth=fpc_init_failed status=" ++ toString status ++ "\n")
          gotoOut
        else
          printf ("hw_auth=OK encapsulated_bytes=" ++ toString length ++ "\n")
          return 0

/-! ### Authorization -/

def challengeRequest : Request := { module := 3, command := 2 }

/-- The eight bytes of a challenge, or none. -/
def getEnrolChallenge (session : Nat) : ClientScript (Option Bytes) := do
  if ← allocateShared payloadSize then
    let (status, payload) ← invokePayload session challengeRequest
    let challenge := bytesAt payload 8 8
    if status ≠ 0 then return none
    else if challenge = List.replicate 8 0 then
      fprintf "enrol_challenge_invalid=zero\n"
      return none
    else
      printf "enrol_challenge_available=1\n"
      return some challenge
  else
    fprintf "allocate_challenge_payload\n"
    return none

def writeChallenge (bytes : Bytes) : ClientScript Unit :=
  if bytes = [] then pure ()
  else do
    let stopped ← operationCancelled
    outUnless (!stopped)
    let answer ← call (.writeChallenge bytes)
    match (answer : Option Nat) with
    | some (count + 1) => writeChallenge (bytes.drop (count + 1))
    | _ =>
        fprintf "write_enrol_challenge\n"
        gotoOut
  termination_by bytes.length
  decreasing_by
    have := List.length_pos_iff.mpr ‹¬bytes = []›
    simp only [List.length_drop]
    omega

def readHat (hat : Bytes) : ClientScript Bytes :=
  if hat.length < hatSize then do
    let stopped ← operationCancelled
    outUnless (!stopped)
    let polled ← call (.pollHat 30000)
    match (polled : HatPoll) with
    | .cancelled => gotoOut
    | .unavailable =>
        fprintf "hat_input_unavailable\n"
        gotoOut
    | .ready =>
        let answer ← call (.readHat (hatSize - hat.length))
        match (answer : Option Bytes) with
        | some (byte :: rest) => readHat (hat ++ byte :: rest)
        | _ =>
            fprintf ("hat_input_incomplete bytes=" ++ toString hat.length ++ "\n")
            gotoOut
  else pure hat
  termination_by hatSize - hat.length
  decreasing_by
    simp only [List.length_append, List.length_cons]
    omega

/-- A token of version 0 that carries the challenge. -/
def Carries (hat challenge : Bytes) : Prop :=
  hat.head? = some 0 ∧ (hat.drop 1).take 8 = challenge

instance (hat challenge : Bytes) : Decidable (Carries hat challenge) :=
  inferInstanceAs (Decidable (_ ∧ _))

def hatRequest (hat : Bytes) : Request :=
  { module := 3, command := 3, word3 := hatSize, at16 := hat }

/-- Receive a signed token for the challenge and submit it; `connected` says
that the client sends the challenge itself. -/
def authorizeEnrol (session : Nat) (connected : Bool) (challenge : Bytes) : ClientScript Int :=
  returning (-1) do
    runIf connected (writeChallenge challenge)
    printf ("HAT_REQUIRED bytes=" ++ toString hatSize ++ "\n")
    let hat ← readHat []
    if ¬Carries hat challenge then
      fprintf "hat_invalid=version_or_challenge\n"
      gotoOut
    else
      outUnless (← allocateShared payloadSize)
      let (status, _) ← invokePayload session (hatRequest hat)
      if status ≠ 0 then
        fprintf "enrol_authorization=TA_rejected\n"
        gotoOut
      else
        printf "enrol_authorization=OK\n"
        return 0

/-- `get_enrol_challenge(..) || authorize_enrol(..)` -/
def authorize (session : Nat) (connected : Bool) : ClientScript Int := do
  match ← getEnrolChallenge session with
  | none => return -1
  | some challenge => authorizeEnrol session connected challenge

/-! ### Templates -/

def enumerateRequest : Request := { module := 11, command := 8, word2 := 5 }

def authenticatorRequest : Request := { module := 11, command := 11 }

/-- The number of loaded templates, when both queries worked. -/
def templateInventory (session : Nat) : ClientScript (Option Nat) := do
  if ← allocateShared 112 then
    let (enumerateStatus, payload) ← invokePayload session enumerateRequest
    printf ("template_enumerate_app_status=0x" ++ statusHex enumerateStatus ++ "\n")
    if enumerateStatus = 0 ∧ (wordAt payload 0 ≠ 11 ∨ wordAt payload 1 ≠ 8 ∨ wordAt payload 2 > 5) then
      fprintf "template_count_response_invalid=1\n"
      return none
    else
      let count := if enumerateStatus = 0 then wordAt payload 2 else 0
      printf (if enumerateStatus = 0 then "loaded_template_count=" ++ toString count ++ "\n"
        else "loaded_template_count=unavailable\n")
      let (idStatus, answer) ← invokePayload session authenticatorRequest
      printf ("authenticator_id_app_status=0x" ++ statusHex idStatus ++ "\n")
      runIf (idStatus = 0) (printf ("authenticator_id_nonzero=" ++
        (if bytesAt answer 16 8 = List.replicate 8 0 then "0" else "1") ++ "\n"))
      printf "template_inventory_scope=current_loaded_TA_DB persistent_storage_not_searched=1\n"
      return if enumerateStatus ≠ 0 ∨ idStatus ≠ 0 then none else some count
  else
    fprintf "allocate_template_metadata\n"
    return none

/-! ### Finger waits -/

def waitSensorIrq (phase : String) (timeout : Nat) : ClientScript Int := do
  let event ← pollPower timeout
  if ← operationCancelled then
    fprintf "oem_operation_cancelled=1\n"
    return -1
  else if event.result = 1 ∧ event.readable then
    printf ("finger_irq=" ++ phase ++ "\n")
    return 0
  else
    fprintf ("finger_irq_failed=" ++ phase ++ " poll_result=" ++ toString event.result ++ "\n")
    return -1

def clearPendingIrq (phase : String) : ClientScript Int := do
  let event ← pollPower 0
  if event.result < 0 then
    fprintf "clear_pending_irq\n"
    return -1
  else if event.result ≠ 0 ∧ ¬event.readable then
    fprintf ("pending_irq_error=" ++ phase ++ "\n")
    return -1
  else
    runIf (event.result ≠ 0) (printf ("stale_irq_drained=" ++ phase ++ "\n"))
    return 0

def waitFingerDown (session : Nat) : ClientScript Int := returning (-1) do
  outIf (← clearPendingIrq "before_down")
  outIf (← query session .sensorWaitFingerDown)
  outIf (← clearPendingIrq "after_down_setup")
  printf "READY finger_irq_armed=down press finger now\n"
  waitSensorIrq "down" 120000

/-- The attempts of wait_finger_lost that are left. -/
def fingerLostLoop (session : Nat) : Nat → ClientScript Int
  | 0 => do
      fprintf "finger_lost_wait_exhausted=600\n"
      return -1
  | attempts + 1 => do
      let status ← query session .sensorWaitFingerLost
      if status < 0 then return -1
      else if status ≠ 0 then return status
      else
        let irq ← waitSensorIrq "up" 30000
        if irq ≠ 0 then return -1
        else
          let state ← query session .sensorCheckFingerState
          if state < 0 then return -1
          else if state = 0 then fingerLostLoop session attempts
          else
            let lost ← query session .sensorCheckFingerLost
            if lost < 0 then return -1
            else if lost ≠ 0 then return 0
            else fingerLostLoop session attempts

def waitFingerLost (session : Nat) : ClientScript Int := do
  let status ← query session .sensorCheckFingerLost
  if status < 0 then return -1
  else if status ≠ 0 then return 0
  else
    let pending ← clearPendingIrq "before_up"
    if pending ≠ 0 then return -1 else fingerLostLoop session 600

/-! ### Databases -/

/-- The status and the answer of a database command. -/
def dbCommand (session command word3 word4 : Nat) (chunk : Bytes) : ClientScript (Int × Memory) := do
  if ← allocateShared payloadSize then
    printf ("command=4 subcommand=" ++ toString command ++ " db_word3=" ++ toString word3 ++
      " db_word4=" ++ toString word4 ++ "\n")
    invokePayload session
      { module := 4, command := command, word3 := word3, word4 := word4, at16 := chunk }
  else
    fprintf "allocate_db_payload\n"
    return (-1, fun _ => 0)

def chunkSize : Nat := payloadSize - 16

def writeDatabase (bytes : Bytes) : ClientScript Unit :=
  if bytes = [] then pure ()
  else do
    match ← writeOutput bytes with
    | some (count + 1) => writeDatabase (bytes.drop (count + 1))
    | _ =>
        fprintf "write_database\n"
        gotoOut
  termination_by bytes.length
  decreasing_by
    have := List.length_pos_iff.mpr ‹¬bytes = []›
    simp only [List.length_drop]
    omega

def exportLoop (session remaining : Nat) : ClientScript Unit :=
  if remaining = 0 then pure ()
  else do
    let count := min remaining chunkSize
    let (status, payload) ← dbCommand session 16 count 0 []
    if status < 0 ∨ status.toNat ≠ remaining - count then
      fprintf ("db_export_remaining_mismatch expected=" ++ toString (remaining - count) ++
        " actual=" ++ toString status ++ "\n")
      gotoOut
    else
      writeDatabase (bytesAt payload 16 count)
      exportLoop session (remaining - count)
  termination_by remaining
  decreasing_by
    simp only [chunkSize, payloadSize]
    omega

/-- Between the begin and the finish command: the descriptor exists when the
file was created, and zero means that the file is complete. -/
def exportFile (session total : Nat) : ClientScript (Bool × Int) := do
  if ← createOutput then
    let complete ← returning (-1) do
      exportLoop session total
      if ← fsyncOutput then return 0
      else
        fprintf "fsync_database\n"
        gotoOut
    return (true, complete)
  else
    fprintf "create_database\n"
    return (false, -1)

/-- Close the created file, and remove it unless it is complete. -/
def closeExport (ended complete : Int) : ClientScript Int := do
  let closed ← closeOutput
  let result : Int := if closed then ended else -1
  runIf (result ≠ 0 ∧ complete ≠ 0) unlinkOutput
  return result

def storeDatabase (session : Nat) : ClientScript Int := do
  let (sized, sizes) ← dbCommand session 6 0 0 []
  let total := wordAt sizes 3
  if sized ≠ 0 then return -1
  else if total = 0 ∨ total > int32Max then
    fprintf ("db_export_invalid_size=" ++ toString total ++ "\n")
    return -1
  else
    let (begun, _) ← dbCommand session 14 0 total []
    if begun ≠ 0 then return -1
    else
      let (created, complete) ← exportFile session total
      let (finished, _) ← dbCommand session 15 0 0 []
      let ended : Int := if finished ≠ 0 then -1 else complete
      let result ← (if created then closeExport ended complete else pure ended)
      runIf (result ≠ 0 ∧ complete = 0) (fprintf "db_file_preserved cleanup_or_close_failed=1\n")
      runIf (result = 0) (printf ("db_export=OK bytes=" ++ toString total ++
        " biometric_validation=unverified\n"))
      return result

def readChunk (count : Nat) (chunk : Bytes) : ClientScript Bytes :=
  if chunk.length < count then do
    let answer ← call (.readDatabase (count - chunk.length))
    match (answer : Option Bytes) with
    | some (byte :: rest) => readChunk count (chunk ++ byte :: rest)
    | _ =>
        fprintf "db_import_short_read\n"
        gotoOut
  else pure chunk
  termination_by count - chunk.length
  decreasing_by
    simp only [List.length_append, List.length_cons]
    omega

def importLoop (session remaining : Nat) : ClientScript Unit :=
  if remaining = 0 then pure ()
  else do
    let count := min remaining chunkSize
    let chunk ← readChunk count []
    let (status, _) ← dbCommand session 17 count 0 chunk
    if status < 0 ∨ status.toNat ≠ remaining - count then
      fprintf ("db_import_remaining_mismatch expected=" ++ toString (remaining - count) ++
        " actual=" ++ toString status ++ "\n")
      gotoOut
    else importLoop session (remaining - count)
  termination_by remaining
  decreasing_by
    simp only [chunkSize, payloadSize]
    omega

def finishImport (session : Nat) (loaded : Int) : ClientScript Int := do
  let (finished, _) ← dbCommand session 15 0 0 []
  return if finished ≠ 0 then -1 else loaded

def importBody (session : Nat) : ClientScript Int := do
  match ← statDatabase with
  | none =>
      fprintf "db_import_invalid_file\n"
      return -1
  | some size =>
      if size = 0 ∨ size > int32Max then
        fprintf "db_import_invalid_file\n"
        return -1
      else
        let (begun, _) ← dbCommand session 14 1 size []
        if begun ≠ 0 then return -1
        else
          let loaded ← returning (-1) do
            importLoop session size
            return 0
          finishImport session loaded

def loadDatabase (session : Nat) : ClientScript Int := do
  if ← openDatabase then
    let loaded ← importBody session
    let closed ← closeDatabase
    let result : Int := if closed then loaded else -1
    runIf (result = 0) (printf "db_import=OK biometric_validation=unverified\n")
    return result
  else
    fprintf "open_database\n"
    return -1

end Liuqin.Fingerprint
