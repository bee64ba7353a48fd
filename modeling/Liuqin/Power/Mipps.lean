/-
liuqin-mipps-auth as a program over the nodes of the charger driver
(device/gnome-overlay/usr/local/libexec/liuqin-mipps-auth).

Every node may read as anything at any time.  A wait that polls up to its
deadline goes round at most as often as it has polls.  Sleeps are left out; the
printed status and the desktop notification write no node and are one command
each.  An exception leaves with a status of its own, which tells the handlers
of main what it is; the process ends with 1 for each of them.
-/

import Liuqin.Library.Program
import Liuqin.Power.Cable

namespace Liuqin.Power.Mipps

open Liuqin.Library Liuqin.Library.Lines Liuqin.Library.Program

/-! ### Texts -/

def text (string : String) : Text := string.toList

/-- `str.lower` of ASCII. -/
def lower (line : Text) : Text := line.map Char.toLower

/-- What read_node makes of a file: ASCII, blanks and null characters dropped. -/
def nodeText (data : Bytes) : Text :=
  (Numerals.strip ((data.filter (fun byte => byte < 128)).map
    (fun byte => Char.ofNat byte.toNat))).filter (fun char => char.val ≠ 0)

/-- `line.partition(",")`, without the comma. -/
def partition (line : Text) : Text × Text :=
  (line.takeWhile (fun char => char ≠ ','), (line.dropWhile (fun char => char ≠ ',')).drop 1)

def wordsFrom : Text → Text → List Text
  | [], word => if word = [] then [] else [word]
  | char :: rest, word =>
      if Numerals.isSpace char then (if word = [] then wordsFrom rest [] else word :: wordsFrom rest [])
      else wordsFrom rest (word ++ [char])

/-- `line.split()` -/
def split (line : Text) : List Text := wordsFrom line []

def hexDigit (char : Char) : Bool := (Bytes.digitValue (UInt8.ofNat char.toNat)).isSome

/-- Whether bytes.fromhex takes the text. -/
def fromHexTakes : Text → Bool
  | [] => true
  | [char] => Numerals.isSpace char
  | char :: next :: rest =>
      if Numerals.isSpace char then fromHexTakes (next :: rest)
      else hexDigit char && hexDigit next && fromHexTakes rest

/-! ### Nodes and commands -/

inductive Node where
  | requestVdmCmd
  | authentic
  | slaveAuthentic
  | verifySlaveFlag
  | verifyDigest
  | adapterId
  | realType
  | pdo2
  | pdVerifed
  | dataRole
  | online
  deriving DecidableEq, Repr

inductive StateFile where
  | lastAttach
  | lastNotification
  | chargeProfile
  | usbOnline
  deriving DecidableEq, Repr

inductive Reading where
  | content (data : Bytes)
  | missing
  | failed
  deriving DecidableEq, Repr

inductive Op where
  | findXiaomiDir
  | findPowerSupply
  | findTypecPort
  | pathExists (node : Node)
  | read (node : Node)
  | write (node : Node) (value : Text)
  | cables
  | attachToken
  | readState (file : StateFile)
  | writeState (file : StateFile) (value : Text)
  | startUnit
  | waiting
  | randomSeed
  | randomHex (bytes : Nat)
  | hmac (key message : Text)
  | print (line : Text)
  | printStatus
  | notify (pdAuth : Option Bool)
  deriving DecidableEq, Repr

def Answer : Op → Type
  | .findXiaomiDir => Bool
  | .findPowerSupply => Bool
  | .findTypecPort => Bool
  | .pathExists _ => Bool
  | .read _ => Reading
  | .write _ _ => Bool
  | .cables => List Cable
  | .attachToken => Option Text
  | .readState _ => Option Text
  | .startUnit => Bool
  | .waiting => Bool
  | .randomSeed => Fin 10
  | .randomHex _ => Text
  | .hmac _ _ => Text
  | _ => Unit

/-- What the run last read. -/
structure Sight where
  vdm : Text
  /-- What current_string_value makes of real_type. -/
  realType : Option Text
  cables : List Cable
  /-- The last digest computed, and the payload of the VDM node at that time. -/
  digest : Text
  response : Text
  deriving DecidableEq, Repr

def Sight.start : Sight :=
  { vdm := [], realType := none, cables := [], digest := [], response := [] }

/-- The payload of a VDM answer. -/
def payload (vdm : Text) : Text := Numerals.strip (partition vdm).2

def Sight.readNode (sight : Sight) (node : Node) (reading : Reading) : Sight :=
  match node, reading with
  | .requestVdmCmd, .content data => { sight with vdm := nodeText data }
  | .realType, .content data => { sight with realType := some (Numerals.strip (nodeText data)) }
  | .realType, _ => { sight with realType := none }
  | _, _ => sight

def Sight.lookedFor (sight : Sight) (node : Node) (present : Bool) : Sight :=
  match node, present with
  | .realType, false => { sight with realType := none }
  | _, _ => sight

/-- The digest is that of the key and the message; every other answer is free. -/
def machine (hmac : Text → Text → Text) : Machine Answer Sight where
  Fault := Answer
  perform := fun operation answer sight =>
    match operation, answer with
    | .read node, reading => (reading, sight.readNode node reading)
    | .pathExists node, present => (present, sight.lookedFor node present)
    | .cables, listed => (listed, { sight with cables := listed })
    | .hmac key message, _ =>
        (hmac key message, { sight with digest := hmac key message, response := payload sight.vdm })
    | _, answer => (answer, sight)

/-! ### Exceptions -/

inductive Raised where
  | missing
  | os
  | value
  | runtime
  | process
  | unsupported (terminal : Bool)
  deriving DecidableEq, Repr

def Raised.status : Raised → Nat
  | .missing => 1
  | .os => 2
  | .value => 3
  | .runtime => 4
  | .process => 5
  | .unsupported false => 6
  | .unsupported true => 7

abbrev Script := Prog Answer

def raise {α : Type} (raised : Raised) : Script α := .exit raised.status

/-- `try: ... except ...` -/
def catching {α : Type} (caught : List Raised) (handler : Script α) (body : Script α) : Script α :=
  body.onExit fun status =>
    if status ∈ caught.map Raised.status then handler else .exit status

/-! ### Nodes -/

def pathExists (node : Node) : Script Bool := .act (.pathExists node) .done
def waiting : Script Bool := .act .waiting .done
def hmac (key message : Text) : Script Text := .act (.hmac key message) .done
def cables : Script (List Cable) := .act .cables .done
def print (line : Text) : Script Unit := .act (.print line) .done
def readState (file : StateFile) : Script (Option Text) := .act (.readState file) .done
def writeState (file : StateFile) (value : Text) : Script Unit :=
  .act (.writeState file value) .done
def printStatus : Script Unit := .act .printStatus .done
def notifyCompletedCharge (pdAuth : Option Bool) : Script Unit := .act (.notify pdAuth) .done
def findPowerSupply : Script Bool := .act .findPowerSupply .done
def findTypecPort : Script Bool := .act .findTypecPort .done
def findDirectory : Script Bool := .act .findXiaomiDir .done
def startSystemdUnit : Script Bool := .act .startUnit .done
def currentAttachToken : Script (Option Text) := .act .attachToken .done
def randomSeed : Script (Fin 10) := .act .randomSeed .done
def tokenHex (bytes : Nat) : Script Text := .act (.randomHex bytes) .done
def look (node : Node) : Script Reading := .act (.read node) .done
def put (node : Node) (value : Text) : Script Bool := .act (.write node value) .done

def readNode (node : Node) : Script Text := do
  match ← look node with
  | .content data => return nodeText data
  | .missing => raise .missing
  | .failed => raise .os

def writeNode (node : Node) (value : Text) : Script Unit := do
  let written ← put node value
  if written then pure () else raise .os

def writeNodeIfPresent (node : Node) (value : Text) : Script Unit := do
  let present ← pathExists node
  if present then writeNode node value else pure ()

def currentStringValue (node : Node) : Script (Option Text) := do
  let present ← pathExists node
  if present then
    match ← look node with
    | .content data => return some (Numerals.strip (nodeText data))
    | _ =>
        print (text "warning: failed to read a node")
        return none
  else return none

/-! ### The USB side -/

def usbIsOnline : Script Bool := do
  let found ← findPowerSupply
  if found then
    match ← look .online with
    | .content data => return decide (nodeText data = ['1'])
    | _ => return false
  else return false

def waitUsbOnline : Nat → Script Bool
  | 0 => usbIsOnline
  | polls + 1 => do
      let more ← waiting
      if more then
        let online ← usbIsOnline
        if online then return true else waitUsbOnline polls
      else usbIsOnline

def waitRealType : Nat → Text → Script Text
  | 0, last => return last
  | polls + 1, last => do
      let more ← waiting
      if more then
        match ← look .realType with
        | .content data =>
            if nodeText data ≠ [] ∧ nodeText data ≠ text "Unknown" then return nodeText data
            else waitRealType polls (nodeText data)
        | _ => return text "Unknown"
      else return last

def isHost (role : Text) : Bool :=
  (text "[host]").isPrefixOf role || (split role).contains (text "[host]")

def awaitHost : Nat → Script Bool
  | 0 => return false
  | polls + 1 => do
      let more ← waiting
      if more then
        let role ← readNode .dataRole
        if isHost role then return true else awaitHost polls
      else return false

def ensureTypecHost (polls : Nat) : Script Bool := do
  let found ← findTypecPort
  if found then
    match ← look .dataRole with
    | .content data =>
        if isHost (nodeText data) then return true
        else
          let requested ← put .dataRole (text "host")
          if requested then awaitHost polls
          else
            print (text "warning: failed to request Type-C host role")
            return false
    | _ =>
        print (text "warning: failed to read data_role")
        return false
  else
    print (text "warning: no Type-C data_role node found")
    return false

/-! ### The exchange with the adapter -/

def vdmState : Script (Int × Text) := do
  let line ← readNode .requestVdmCmd
  match Numerals.readInt (partition line).1 with
  | some state => return (state, payload line)
  | none => raise .value

def waitState (expected : Int) : Nat → Script (Int × Text)
  | 0 => raise (.unsupported false)
  | polls + 1 => do
      let more ← waiting
      if more then
        let last ← vdmState
        if last.1 = expected then return last else waitState expected polls
      else raise (.unsupported false)

/-- send_vdm of a command that is waited for and settles. -/
def sendVdm (polls : Nat) (command : String) (expected : Int) (value : Text) :
    Script (Int × Text) := do
  writeNode .requestVdmCmd (text command ++ ',' :: value)
  let _ ← waitState expected polls
  vdmState

/-- send_vdm of command 8: waited for, with nothing to settle. -/
def sendReverse (polls : Nat) (value : Text) : Script Unit := do
  writeNode .requestVdmCmd (text "8," ++ value)
  let _ ← waitState 8 polls
  return ()

/-- send_vdm that does not wait. -/
def postVdm (command : String) (value : Text) : Script Unit := do
  writeNode .requestVdmCmd (text command ++ ',' :: value)
  let _ ← vdmState
  return ()

def zeroId : Text := List.replicate 8 '0'

/-- normalize_adapter_id -/
def normalizeAdapterId (adapterId : Text) : Script (Option Text) :=
  let short := (lower (Numerals.strip adapterId)).take 8
  if short.length = 8 ∧ short ≠ zeroId then
    if fromHexTakes short then return some short else raise .value
  else return none

def readAdapterId : Script (Option Text) := do
  let adapterId ← readNode .adapterId
  normalizeAdapterId adapterId

def detectAdapterId : Nat → Script (Option Text)
  | 0 => return none
  | polls + 1 => do
      let more ← waiting
      if more then
        let found ← catching [.missing, .value] (return none) readAdapterId
        match found with
        | some adapterId => return some adapterId
        | none => detectAdapterId polls
      else return none

def shouldSkipPdo2 : Script Bool := do
  match ← look .pdo2 with
  | .content data =>
      let pdo2 := lower (Numerals.strip (nodeText data))
      return decide (8 ≤ pdo2.length ∧ pdo2.take 8 = zeroId)
  | _ => return false

/-! ### The fuel gauge -/

def fgKeys : List String :=
  ["45f0f5a023b09a7437d9b85a6ea2033539321d5437b9543f3f2292e0c966d675",
   "02b3a85ea4c1a6db6fbd1fd5767c1a42314f37ba7c9460c9ed79a12bb2b5d99c"]

def resultNode (slave : Bool) : Node := if slave then .slaveAuthentic else .authentic

def flagText (flag : Bool) : Text := if flag then ['1'] else ['0']

def expectedDigests (challenge : Text) : List String → Script (List Text)
  | [] => return []
  | key :: keys => do
      let first ← hmac (text key) challenge
      let rest ← expectedDigests challenge keys
      return first :: rest

def verifyFuelGaugeOnce (slave : Bool) : Script Bool := do
  let challenge ← tokenHex 32
  writeNode .verifySlaveFlag (flagText slave)
  writeNode .verifyDigest challenge
  let answer ← readNode .verifyDigest
  let expected ← expectedDigests challenge fgKeys
  let ok := expected.contains (lower (answer.take 64))
  writeNodeIfPresent (resultNode slave) (flagText ok)
  return ok

def verifyFuelGaugeRounds (slave : Bool) : Nat → Script Unit
  | 0 => raise .runtime
  | retries + 1 => do
      let ok ← verifyFuelGaugeOnce slave
      if ok then pure () else verifyFuelGaugeRounds slave retries

def nodeIsOne (node : Node) : Script Bool := do
  let present ← pathExists node
  if present then
    let value ← readNode node
    return decide (Numerals.strip value = ['1'])
  else return false

def verifyFuelGauge (slave : Bool) : Script Unit := do
  let done ← nodeIsOne (resultNode slave)
  if done then pure () else verifyFuelGaugeRounds slave 10

def enableBatteryAuth : Script Unit := do
  let present ← pathExists .verifyDigest
  if present then
    verifyFuelGauge false
    verifyFuelGauge true
  else raise .missing

/-! ### The gate -/

def pdPps : Text := text "PD_PPS"

/-- The verdict on a PD_PPS adapter, by the rating of the cable. -/
def ratedVerdict : Option Nat → Bool × Text
  | none =>
      (true, text "cable identity not exposed by the kernel; " ++
        text "relying on adapter-side e-marker enforcement")
  | some amps =>
      if 5 ≤ amps then (true, text ("cable e-marked for " ++ toString amps ++ " A"))
      else (false, text ("cable e-marked for " ++ toString amps ++ " A, 5 A required"))

def unverifiedAdapterAllowed : Script (Bool × Text) := do
  let realType ← currentStringValue .realType
  if realType ≠ some pdPps then
    return (false, text "real_type=" ++
      (match realType with | some (char :: rest) => char :: rest | _ => text "unknown") ++
      text " is not PD_PPS")
  else
    let listed ← cables
    return ratedVerdict (cableCurrentCapabilityAmps listed)

def decideGate (allowed pdAuth : Bool) : Script Bool := do
  if ¬pdAuth ∧ allowed then
    let (gate, reason) ← unverifiedAdapterAllowed
    print (text "unverified_adapter=" ++ (if gate then text "allowed" else text "refused") ++
      text ": " ++ reason)
    return gate
  else return pdAuth

def writeGate (allowed pdAuth : Bool) : Script Unit := do
  let gate ← decideGate allowed pdAuth
  writeNode .pdVerifed (flagText gate)
  if gate ∧ ¬pdAuth then
    print (text "pd_verifed=1 (adapter authentication bypassed on request)")
  else pure ()

def openGate (allowed pdAuth : Bool) : Script Unit := do
  let present ← pathExists .pdVerifed
  if present then writeGate allowed pdAuth else pure ()

/-! ### main -/

def seeds : List String :=
  ["d6e9770506c7f5f4df7a40008c7467b8", "09604eb9ad37e17bd6b2a4f2a3515984",
   "f6295ce3bde8678c9ffeab616098aba0", "ae0c8ee9b05ba233799badcb9fa22b41",
   "56b7470c9d6f22ca003e40326fa77eb5", "6019b457cd77fd5fedffdc3d0ed06106",
   "09e47c32760fb2facfc5843df0716465", "a601934c1403bfd955ebd77f509ba17f",
   "3e02b44e19dc24f438e62f026ade4aa7", "343d6b41b900beb4c8bf0e8fa7df8c13"]

def keys : List String :=
  ["5c4d4179da1501ed11747492e26083d96b8fbc73c82e7bdf5d3255c2a036a1dc",
   "4554ea907fc3250d2078bd6277d6cf0cb823e62258d087378af29c466b101026",
   "83d30625cb0f7ce6d49649ff4cfcf9cebe62469b57e31ba62d01de2810ff621a",
   "a1447305166b4a786df5ddd707a8360a7328ced7038487607fa21128a15d1864",
   "e4fb00afd15186af1a44502005d3d1b0b1e9d1a636a51c26349422e7dbadc273",
   "46b8cae9a46a3254ee551282cf07b7bb6b2ef12bf615463c239bb63b984e42a9",
   "eaf45b6ff3ccce769e82bd0b007b69c406a66b98f427a2bbe455d1ffcb1ecdcc",
   "e787db568b7d704d29cc50a2bb1e971f6f1fd7fe9604deb4d4a1a7a72c63ff42",
   "b5f704a75d0db54a0b5e731779949b321105adc9d5c0858c50efc9bf92892cf4",
   "df47cc3249833bdefeb4a04a257489fc7500d827b2b66b2689bded7ffe49465e"]

structure Options where
  sysfs : Bool
  seedIndex : Option (Fin 10)
  noDataRoleSwap : Bool
  allowUnverifiedAdapter : Bool
  force : Bool
  oncePerAttach : Bool
  clearNotification : Bool
  usbOnlineTrigger : Bool
  deriving DecidableEq, Repr

/-- What precedes the digest of the adapter. -/
def challengeAdapter (options : Options) (polls : Nat) : Script (Fin 10 × Text × Text) := do
  let seedIndex ← (match options.seedIndex with
    | some index => pure index
    | none => randomSeed)
  let realType ← waitRealType polls (text "Unknown")
  print (text "real_type=" ++ realType)
  (if options.noDataRoleSwap then pure () else do
    let _ ← ensureTypecHost polls
    pure ())
  let skip ← shouldSkipPdo2
  (if skip then raise (.unsupported true) else pure ())
  enableBatteryAuth
  let _ ← sendVdm polls "1" 1 (text "null")
  let _ ← sendVdm polls "2" 2 (text "null")
  let _ ← sendVdm polls "3" 3 (text "null")
  let _ ← sendVdm polls "4" 4 (text (seeds.getD seedIndex.val ""))
  let challenge ← tokenHex 16
  print (text "challenge=" ++ challenge)
  let (_, auth) ← sendVdm polls "5" 5 challenge
  return (seedIndex, challenge, auth)

/-- What follows the comparison, up to the gate. -/
def answerAdapter (polls : Nat) (pdAuth : Bool) (digest : Text) : Script Unit := do
  let value := if pdAuth then text "01000000" else text "00000000"
  postVdm "6" value
  (if pdAuth then
    catching [.unsupported false, .unsupported true]
      (print (text "warning: reverse_auth=0"))
      (do
        sendReverse polls (digest.drop 32)
        print (text "reverse_auth=1"))
  else print (text "reverse_auth=0"))
  postVdm "7" value

def authenticate (options : Options) (polls : Nat) : Script Unit := do
  let (seedIndex, challenge, auth) ← challengeAdapter options polls
  let found ← detectAdapterId polls
  match found with
  | none => raise (.unsupported true)
  | some adapterId =>
      let digest ← hmac (text (keys.getD seedIndex.val "")) (challenge ++ adapterId)
      let pdAuth := decide ((lower auth).take 32 = digest.take 32)
      (if pdAuth then pure () else print (text "adapter auth mismatch"))
      print (text "adapter_id=" ++ adapterId)
      answerAdapter polls pdAuth digest
      openGate options.allowUnverifiedAdapter pdAuth
      print (text "pd_auth=" ++ flagText pdAuth)
      printStatus
      notifyCompletedCharge (some pdAuth)

def authAlreadyCompleted (state : Int) : Bool := state = 6 ∨ state = 7

/-- The exception handlers and the `else` of main. -/
def attempt (options : Options) (polls : Nat) (token : Option Text) : Script Unit := do
  (authenticate options polls).onExit fun status =>
    if status = (Raised.unsupported true).status then do
      notifyCompletedCharge none
      (match token with
        | some attached => writeState .lastAttach attached
        | none => pure ())
      .exit status
    else if status = (Raised.unsupported false).status then do
      notifyCompletedCharge none
      .exit status
    else .exit status
  match token with
  | some attached => writeState .lastAttach attached
  | none => pure ()

def attached (options : Options) (polls : Nat) (token : Option Text) : Script Unit := do
  let (state, _) ← vdmState
  if authAlreadyCompleted state ∧ ¬options.force then
    enableBatteryAuth
    print (text "MiPPS auth sequence already completed")
    printStatus
    notifyCompletedCharge none
  else attempt options polls token

/-- One attempt for each attach, when asked for. -/
def onceAttached (options : Options) (polls : Nat) : Script Unit := do
  if options.oncePerAttach then
    let token ← currentAttachToken
    if token = none then
      print (text "warning: no Type-C partner found for once-per-attach state")
      attached options polls none
    else
      let before ← readState .lastAttach
      if before = token then
        print (text "MiPPS auth skipped: already attempted for current Type-C attach")
      else attached options polls token
  else attached options polls none

def online (options : Options) (polls : Nat) : Script Unit := do
  let found ← (if options.sysfs then pure true else findDirectory)
  if found then
    let online ← waitUsbOnline polls
    if online then
      writeState .usbOnline ['1']
      onceAttached options polls
    else
      print (text "usb_online=0")
      writeState .lastNotification (text "none")
      writeState .chargeProfile (text "none")
      writeState .usbOnline ['0']
  else raise .missing

def main (options : Options) (polls : Nat) : Script Unit := do
  if options.clearNotification then
    writeState .lastNotification (text "none")
    writeState .chargeProfile (text "none")
    writeState .usbOnline ['0']
    print (text "fast_charge_notification_state=cleared")
  else if options.usbOnlineTrigger then
    let before ← readState .usbOnline
    if before = some ['1'] then print (text "usb_online_trigger=skipped")
    else
      writeState .usbOnline ['1']
      let started ← startSystemdUnit
      if started then print (text "usb_online_trigger=started") else raise .process
  else online options polls

end Liuqin.Power.Mipps
