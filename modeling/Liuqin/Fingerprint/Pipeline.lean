/-
The FPC client's main function for enrolment, matching and the authorization
preflight (device/fingerprint/oem/src/fingerprint/oem/fpc_build_info.c).
-/

import Liuqin.Fingerprint.Client

namespace Liuqin.Fingerprint

open Liuqin.Library.Program

/-! ### Matching -/

def readRandom (bytes : Bytes) : ClientScript Bytes :=
  if bytes.length < 8 then do
    let answer ← call (.getrandom (8 - bytes.length))
    match (answer : Option Bytes) with
    | some (byte :: rest) => readRandom (bytes ++ byte :: rest)
    | _ =>
        fprintf "authentication_operation_id\n"
        gotoOut
  else pure bytes
  termination_by 8 - bytes.length
  decreasing_by
    simp only [List.length_append, List.length_cons]
    omega

def authChallengeRequest (challenge : Bytes) : Request :=
  { module := 3, command := 1, at8 := challenge }

/-- A fresh operation ID the application took. -/
def setAuthChallenge (session : Nat) : ClientScript Bytes := do
  let challenge ← readRandom []
  outUnless (challenge ≠ List.replicate 8 0)
  outUnless (← allocateShared payloadSize)
  let (status, _) ← invokePayload session (authChallengeRequest challenge)
  outIf status
  return challenge

def identifyRequest : Request := { module := 11, command := 4 }

/-- The status, and whether a candidate was named. -/
def identifyFinger (session : Nat) : ClientScript (Int × Bool) := do
  if ← allocateShared payloadSize then
    let (status, payload) ← invokePayload session identifyRequest
    let matched := decide (status = 0 ∧ wordAt payload 2 ≠ 0)
    printf ("identify_app_status=" ++ toString status ++ " candidate_present=" ++
      (if matched then "1" else "0") ++ "\n")
    return (status, matched)
  else return (-1, false)

def authResultRequest : Request := { module := 3, command := 4, word3 := hatSize }

def getAuthResult (session : Nat) (challenge : Bytes) : ClientScript Int := do
  if ← allocateShared (hatSize + 16) then
    let (status, payload) ← invokePayload session authResultRequest
    if status ≠ 0 then return -1
    else if ¬Carries (bytesAt payload 16 hatSize) challenge then
      fprintf "auth_result_invalid=version_or_operation_id\n"
      return -1
    else
      printf ("auth_result_available=1 auth_result_bytes=" ++ toString hatSize ++
        " signature_validation=not_performed\n")
      return 0
  else return -1

/-- The touch: capture and identify. -/
def identifyTouch (session : Nat) : ClientScript (Int × Bool) := do
  outIf (← waitFingerDown session)
  let captured ← query session .captureEnrol
  if captured ≠ 0 then
    fprintf ("match_incomplete=capture_rejected app_status=" ++ toString captured ++ "\n")
    gotoOut
  else
    let (status, matched) ← identifyFinger session
    if status < 0 then gotoOut else return (status, matched)

def updateTemplate (session : Nat) (authStatus : Int) : ClientScript (Int × Nat) := do
  let (updated, changed) ← queryOutput session .bioUpdateTemplate
  outIf updated
  return (authStatus, changed)

/-- The status of the auth result, and whether the database changed. -/
def matchUpdate (session : Nat) (challenge : Bytes) (status : Int) (matched : Bool) :
    ClientScript (Int × Nat) := do
  if status = 0 then
    let authStatus ← (if matched then getAuthResult session challenge else pure 0)
    updateTemplate session authStatus
  else if status = 4 ∨ status = 12 then return (0, 1)
  else
    fprintf ("match_incomplete=identify_status app_status=" ++ toString status ++ "\n")
    gotoOut

def updateRequiredLine : String := "database_update_required=1\n"

def exportUpdate (session changed : Nat) (updatedDatabase : Bool) : ClientScript Unit := do
  if changed = 0 then return ()
  else
    printf updateRequiredLine
    if updatedDatabase then
      let stored ← storeDatabase session
      outIf stored
    else printf "database_update_pending=1 updated_output_not_requested=1\n"

def matchedLine : String := "match_result=matched desktop_authentication=disabled\n"

def notMatchedLine : String := "match_result=not_matched desktop_authentication=disabled\n"

/-- What the attempt comes to. -/
def matchResult (status authStatus : Int) (matched : Bool) : ClientScript Int := do
  if status ≠ 0 then
    printf ("match_result=inconclusive identify_app_status=" ++ toString status ++ "\n")
    gotoOut
  else if authStatus ≠ 0 then
    fprintf "match_result=candidate_without_auth_result desktop_authentication=disabled\n"
    gotoOut
  else
    printf (if matched then matchedLine else notMatchedLine)
    return if matched then 0 else 3

/-- One attempt; `return 1` is an exit. -/
def matchExisting (session : Nat) (updatedDatabase singleTemplate : Bool) : ClientScript Int := do
  outIf (← query session .bioInit)
  outIf (← initHwAuth session)
  outIf (← query session .bioSetGid)
  outIf (← loadDatabase session)
  outIf (← query session .bioSetActiveGroup)
  outIf (← query session .bioLoadInstanceData)
  match ← templateInventory session with
  | none => gotoOut
  | some count =>
      if count = 0 then
        fprintf "match_unavailable=database_has_no_templates touch_not_collected=1\n"
        gotoOut
      else if singleTemplate ∧ count ≠ 1 then
        fprintf "match_unavailable=single_template_database_required touch_not_collected=1\n"
        gotoOut
      else
        let challenge ← setAuthChallenge session
        let (status, matched) ← identifyTouch session
        let (authStatus, changed) ← matchUpdate session challenge status matched
        exportUpdate session changed updatedDatabase
        matchResult status authStatus matched

/-! ### Enrolment -/

/-- A fresh database holds exactly one template. -/
def requireSingleTemplate (session : Nat) : ClientScript Unit := do
  let count ← templateInventory session
  if count ≠ some 1 then
    fprintf "enrol_output_rejected=single_template_database_required\n"
    gotoOut
  else return ()

/-- After BIO_ENROL reported the last sample. -/
def finishEnrol (session : Nat) (bioExisting : Bool) : ClientScript Int := do
  printf "enrol_authorization_phase=end_enrol\n"
  let renewed ← authorize session true
  if renewed ≠ 0 then
    fprintf "end_enrol_not_submitted=1 fresh_authorization_failed=1\n"
    gotoOut
  else
    outIf (← query session .bioEndEnrol)
    runIf (¬bioExisting) (requireSingleTemplate session)
    let stored ← storeDatabase session
    return if stored = 0 then 0 else 1

/-- Lift the finger before the next sample. -/
def liftFinger (session : Nat) : ClientScript Unit := do
  printf "READY lift finger and reposition for next sample\n"
  let status ← waitFingerLost session
  if status < 0 then
    fprintf "pipeline_incomplete=finger_lost_wait\n"
    gotoOut
  else
    runIf (status ≠ 0)
      (printf ("finger_lost_wait_retry_status=" ++ toString status ++ "\n"))

/-- The samples that are left of 40. -/
def enrolLoop (session : Nat) (bioExisting : Bool) : Nat → ClientScript Int
  | 0 => do
      fprintf "pipeline_incomplete=attempt_limit\n"
      gotoOut
  | attempts + 1 => do
      let stopped ← operationCancelled
      outUnless (!stopped)
      printf ("READY enrol attempt=" ++ toString (40 - attempts) ++ ": press same finger and hold\n")
      let down ← waitFingerDown session
      if down ≠ 0 then
        fprintf "pipeline_incomplete=finger_down_wait\n"
        gotoOut
      else
        let captured ← query session .captureEnrol
        if captured < 0 then gotoOut
        else if captured = 0 then
          let (status, remaining) ← queryOutput session .bioEnrol
          if status < 0 then gotoOut
          else if status = 0 then finishEnrol session bioExisting
          else
            printf ("enrol_progress_status=" ++ toString status ++ " remaining=" ++
              toString remaining ++ "\n")
            liftFinger session
            enrolLoop session bioExisting attempts
        else
          printf ("capture_rejected=" ++ toString captured ++ " enrol_not_sent=1\n")
          liftFinger session
          enrolLoop session bioExisting attempts

/-- Everything before the first sample. -/
def beginEnrol (session : Nat) (bioExisting : Bool) : ClientScript Unit := do
  outIf (← query session .bioInit)
  outIf (← initHwAuth session)
  outIf (← query session .bioSetGid)
  outIf (← (if bioExisting then loadDatabase session else query session .bioLoadEmptyDb))
  outIf (← query session .bioSetActiveGroup)
  outIf (← (if bioExisting then query session .bioLoadInstanceData else pure 0))
  outIf (← authorize session true)
  outIf (← query session .bioBeginEnrol)

def bioPipeline (session : Nat) (bioExisting : Bool) : ClientScript Int := do
  beginEnrol session bioExisting
  enrolLoop session bioExisting 40

/-- The second round, in the same session. -/
def renewPreflight (session : Nat) (connected : Bool) : ClientScript Unit := do
  outIf (← authorize session connected)
  printf "auth_renewal_preflight=OK same_session=1 signed_challenges=2 touch_not_collected=1\n"

def authPreflight (session : Nat) (renew connected : Bool) : ClientScript Int := do
  outIf (← query session .bioInit)
  outIf (← initHwAuth session)
  outIf (← authorize session connected)
  runIf renew (renewPreflight session connected)
  printf "auth_preflight=OK touch_not_collected=1 template_not_created=1\n"
  return 0

/-! ### The main function -/

/-- The modes modelled here. -/
inductive Mode where
  | authPreflight (connected : Bool)
  | authPreflightRenew
  | bioPipeline (existing : Bool)
  | match (single updated : Bool)
  deriving DecidableEq, Repr

def Mode.enrols : Mode → Bool
  | .bioPipeline _ => true
  | _ => false

/-- Whether the mode takes the token descriptor, and the challenge descriptor. -/
def Mode.descriptors : Mode → Bool × Bool
  | .authPreflight connected => (true, connected)
  | .authPreflightRenew => (true, true)
  | .bioPipeline _ => (true, true)
  | .match _ _ => (false, false)

def lstatOutput : ClientScript Lstat := call .lstatOutput
def installHandlers : ClientScript Bool := call .installHandlers
def hatDescriptor : ClientScript Bool := call .hatDescriptor
def challengeDescriptor : ClientScript Bool := call .challengeDescriptor
def openPower : ClientScript Bool := call .openPower

def openNamedSession (privileged : Bool) : ClientScript (Option Nat) :=
  call (.openSession privileged)

/-- A message and an early return. -/
def leave (status : Nat) (text : String) : ClientScript Unit := do
  fprintf text
  .exit status

def checkOutput : ClientScript Unit := do
  let found ← lstatOutput
  runIf (found ≠ .missing) (leave 2
    "enrol_output_invalid=exclusive_new_path_required existing_database_preserved=1\n")

def checkDescriptors (mode : Mode) : ClientScript Unit := do
  let readable ← (if mode.descriptors.1 then hatDescriptor else pure true)
  runIf (¬readable) (leave 2 "hat_fd_invalid\n")
  let writable ← (if mode.descriptors.2 then challengeDescriptor else pure true)
  runIf (¬writable) (leave 2 "challenge_fd_invalid\n")

/-- The client session: `none` stands for the `goto out` before it exists. -/
def attach : ClientScript (Option Nat) := do
  let powered ← openPower
  if ¬powered then
    fprintf "power/reset fpc1020\n"
    return none
  else
    printf "normal_world_power=held\n"
    match ← openNamedSession true with
    | none =>
        fprintf "load fpcliu\n"
        return none
    | some loader =>
        printf ("loaded_session=" ++ toString loader ++ "\n")
        match ← openNamedSession false with
        | none =>
            fprintf "attach fpcliu\n"
            return none
        | some session =>
            printf ("client_session=" ++ toString session ++ "\n")
            return some session

def runMode (session : Nat) : Mode → ClientScript Int
  | .authPreflight connected => authPreflight session false connected
  | .authPreflightRenew => authPreflight session true true
  | .bioPipeline existing => bioPipeline session existing
  | .match single updated => matchExisting session updated single

/-- Behind the `out` label; `sensor` is the session of an initialized sensor. -/
def outSection (sensor : Option Nat) (result : Int) : ClientScript Int := do
  let stopped ← operationCancelled
  let result := if stopped then 1 else result
  match sensor with
  | none => return result
  | some session =>
      let slept ← query session .sensorSleep
      return if slept = 0 then result else 1

/-- What comes before the device is opened. -/
def prologue (mode : Mode) : ClientScript Unit := do
  runIf mode.enrols checkOutput
  let installed ← installHandlers
  runIf (¬installed) (leave 1 "install_cancellation_handler\n")
  checkDescriptors mode

def main (mode : Mode) : ClientScript Int := do
  prologue mode
  match ← attach with
  | none => outSection none 1
  | some session =>
      let initialized ← query session .sensorInit
      if initialized ≠ 0 then outSection none 1
      else
        let result ← returning 1 (runMode session mode)
        outSection (some session) result

end Liuqin.Fingerprint
