/-
The authenticated input (device/fingerprint/oem/src/fingerprint/oem/pam-input.c).

PAM decides how often it calls the conversation and with which messages, and
what it answers itself; the terminal may deliver any bytes, fail or stay
silent; a signal may come at any time.  The buffer of the conversation goes
from one call to the next.
-/

import Liuqin.Library.Bytes
import Liuqin.Library.Program

namespace Liuqin.Fingerprint.Input

open Liuqin.Library Liuqin.Library.Program

def passwordLimit : Nat := 4096
def inputSize : Nat := 32
def maxMessages : Nat := 32

def accountPrompt : String := "Linux account password: "
def previousPrompt : String := "Previous fingerprint authorization password: "

/-! ### The world -/

/-- What was read from the terminal since it was opened for a prompt. -/
structure Prompt where
  text : String
  read : Library.Bytes
  deriving DecidableEq, Repr

/-- The styles of PAM's messages. -/
inductive Style where
  | echoOff
  | textInfo
  | errorMsg
  | other
  deriving DecidableEq, Repr

inductive Fd where
  | current
  | output
  deriving DecidableEq, Repr

/-- The prompts with the last one first, the answers PAM was given, what PAM and
the account database said, and what the descriptors received. -/
structure World where
  cancelled : Bool
  expected : Option Nat
  salt : Library.Bytes
  prompts : List Prompt
  given : List Library.Bytes
  authenticated : Bool
  admitted : Bool
  user : Option String
  uid : Option Nat
  outputs : Fd → Library.Bytes

def World.start : World where
  cancelled := false
  expected := none
  salt := []
  prompts := []
  given := []
  authenticated := false
  admitted := false
  user := none
  uid := none
  outputs := fun _ => []

/-- A byte joins what was read at the last prompt. -/
def World.typed (world : World) (byte : UInt8) : World :=
  match world.prompts with
  | [] => world
  | prompt :: earlier =>
      { world with prompts := { prompt with read := prompt.read ++ [byte] } :: earlier }

/-! ### Calls -/

/-- Calls that work or not. -/
inductive Call where
  | arguments
  | descriptors
  | memory
  | pamStart
  | attributes
  | hide
  | show
  | restore
  | calloc
  | strdup
  | kdf
  deriving DecidableEq, Repr

inductive Polled where
  | ready
  | interrupted
  | other
  deriving DecidableEq, Repr

inductive Got where
  | byte (value : UInt8)
  | interrupted
  | other
  deriving DecidableEq, Repr

inductive Wrote where
  | count (bytes : Nat)
  | interrupted
  | other
  deriving DecidableEq, Repr

inductive Op where
  | cancelled
  | call (name : Call)
  | account (name : String)
  | readSalt
  | openTty (text : String)
  | poll
  | readByte
  | respond (answers : List (Option Library.Bytes))
  | authenticate
  | acctMgmt
  | getUser
  | accountAgain (name : String)
  | write (fd : Fd) (bytes : Library.Bytes)
  deriving DecidableEq

@[reducible] def Answer : Op → Type
  | .account _ | .accountAgain _ => Option Nat
  | .readSalt => Option Library.Bytes
  | .poll => Polled
  | .readByte => Got
  | .respond _ => Unit
  | .getUser => Option String
  | .write _ _ => Wrote
  | _ => Bool

/-- What a call answers, and whether a signal has come by then. -/
structure Fault (operation : Op) where
  answer : Answer operation
  signal : Bool

/-- A write takes no more than it is given. -/
def Wrote.most (wrote : Wrote) (bytes : Library.Bytes) : Wrote :=
  match wrote with
  | .count bytes' => .count (min bytes' bytes.length)
  | _ => wrote

def react : (operation : Op) → Answer operation → World → Answer operation × World
  | .cancelled, _, world => (world.cancelled, world)
  | .call _, works, world => (works, world)
  | .account _, uid, world => (uid, { world with expected := uid })
  | .readSalt, salt, world => (salt, { world with salt := salt.getD [] })
  | .openTty text, works, world =>
      (works, if works then { world with prompts := ⟨text, []⟩ :: world.prompts } else world)
  | .poll, polled, world => (polled, world)
  | .readByte, got, world =>
      (got, match got with
        | .byte value => world.typed value
        | _ => world)
  | .respond answers, _, world => ((), { world with given := world.given ++ answers.filterMap id })
  | .authenticate, works, world => (works, { world with authenticated := works })
  | .acctMgmt, works, world => (works, { world with admitted := works })
  | .getUser, user, world => (user, { world with user := user })
  | .accountAgain _, uid, world => (uid, { world with uid := uid })
  | .write fd bytes, wrote, world =>
      (wrote.most bytes, match wrote with
        | .count bytes' => { world with
            outputs := Function.update world.outputs fd (world.outputs fd ++ bytes.take bytes') }
        | _ => world)

def perform (operation : Op) (fault : Fault operation) (world : World) :
    Answer operation × World :=
  react operation fault.answer { world with cancelled := world.cancelled || fault.signal }

def machine : Machine Answer World where
  Fault := Fault
  perform := perform

abbrev Script := Prog Answer

def cancelled : Script Bool := .act .cancelled .done
def call (name : Call) : Script Bool := .act (.call name) .done
def account (name : String) : Script (Option Nat) := .act (.account name) .done
def readSalt : Script (Option Library.Bytes) := .act .readSalt .done
def openTty (text : String) : Script Bool := .act (.openTty text) .done
def poll : Script Polled := .act .poll .done
def readByte : Script Got := .act .readByte .done
def respond (answers : List (Option Library.Bytes)) : Script Unit := .act (.respond answers) .done
def authenticate : Script Bool := .act .authenticate .done
def acctMgmt : Script Bool := .act .acctMgmt .done
def getUser : Script (Option String) := .act .getUser .done
def accountAgain (name : String) : Script (Option Nat) := .act (.accountAgain name) .done
def write (fd : Fd) (bytes : Library.Bytes) : Script Wrote := .act (.write fd bytes) .done

/-- A run that is still waiting after so many turns of a loop. -/
def waiting {α : Type} : Script α := .exit 255

/-! ### The conversation -/

/-- conversation_data; the length is that of the password. -/
structure Data where
  password : Library.Bytes
  acquired : Bool
  deriving DecidableEq, Repr

def Data.empty : Data where
  password := []
  acquired := false

/-- The loop of read_password. -/
def typeIn : Nat → Data → Script (Data × Bool)
  | 0, _ => waiting
  | waits + 1, data => do
      let stopped ← cancelled
      if stopped then pure (data, false)
      else
        let polled ← poll
        match polled with
        | .interrupted => typeIn waits data
        | .other => pure (data, false)
        | .ready => do
            let got ← readByte
            match got with
            | .interrupted => typeIn waits data
            | .other => pure (data, false)
            | .byte value =>
                if value = 10 then
                  if data.password = [] then pure (data, false)
                  else pure ({ data with acquired := true }, true)
                else if value = 0 ∨ data.password.length = passwordLimit - 1 then
                  pure (data, false)
                else typeIn waits { data with password := data.password ++ [value] }

/-- The terminal shows its input again; if that fails, the prompt failed. -/
def leave (ending : Data × Bool) : Script (Data × Bool) := do
  let restored ← call .restore
  pure (ending.1, ending.2 && restored)

def readPassword (waits : Nat) (data : Data) (text : String) : Script (Data × Bool) := do
  let opened ← openTty text
  if opened then
    let known ← call .attributes
    if known then
      let hidden ← call .hide
      if hidden then
        let shown ← call .show
        if shown then (typeIn waits data).bind leave else leave (data, false)
      else pure (data, false)
    else pure (data, false)
  else pure (data, false)

/-- The password for a hidden prompt, which is read once. -/
def obtain (waits : Nat) (data : Data) : Script (Data × Bool) :=
  if data.acquired then pure (data, true) else readPassword waits data accountPrompt

/-- The loop of converse. -/
def answerAll (waits : Nat) : List Style → Data → List (Option Library.Bytes) → Script Data
  | [], data, answers => do
      respond answers
      pure data
  | .echoOff :: rest, data, answers => do
      let obtained ← obtain waits data
      if obtained.2 then
        let stopped ← cancelled
        if stopped then pure obtained.1
        else
          let copied ← call .strdup
          if copied then
            answerAll waits rest obtained.1 (answers ++ [some obtained.1.password])
          else pure obtained.1
      else pure obtained.1
  | .textInfo :: rest, data, answers => answerAll waits rest data (answers ++ [none])
  | .errorMsg :: rest, data, answers => answerAll waits rest data (answers ++ [none])
  | .other :: _, data, _ => pure data

def converse (waits : Nat) (messages : List Style) (data : Data) : Script Data := do
  let stopped ← cancelled
  if messages = [] ∨ maxMessages < messages.length ∨ stopped = true then pure data
  else
    let allocated ← call .calloc
    if allocated then answerAll waits messages data [] else pure data

/-- The calls that PAM makes during one of its functions. -/
def conversations (waits : Nat) : List (List Style) → Data → Script Data
  | [], data => pure data
  | messages :: rest, data => do
      let later ← converse waits messages data
      conversations waits rest later

/-! ### The helper -/

/-- PBKDF2 with its parameters, of a password and a salt. -/
structure Kdf where
  derive : Library.Bytes → Library.Bytes → Library.Bytes
  size : ∀ password salt, (derive password salt).length = inputSize

/-- The whole input to a descriptor. -/
def forward (fd : Fd) : Nat → Library.Bytes → Script Unit
  | 0, _ => waiting
  | waits + 1, bytes =>
      if bytes = [] then pure ()
      else do
        let stopped ← cancelled
        if stopped then .exit 1
        else
          let wrote ← write fd bytes
          let late ← cancelled
          match wrote with
          | .interrupted => if late then .exit 1 else forward fd waits bytes
          | .other => .exit 1
          | .count 0 => .exit 1
          | .count (more + 1) =>
              if late then .exit 1 else forward fd waits (bytes.drop (more + 1))

def must (worked : Bool) (status : Nat) : Script Unit :=
  if worked then pure () else .exit status

section Helper

variable (kdf : Kdf) (waits : Nat) (authCalls acctCalls : List (List Style))

/-- The checks before PAM: the account's UID and the salt. -/
def prepare (username : String) : Script (Nat × Library.Bytes) := do
  let usable ← call .arguments
  must usable 2
  let uid ← account username
  let apart ← call .descriptors
  match uid with
  | none => .exit 2
  | some uid =>
      if uid = 0 ∨ 0x40000000 ≤ uid ∨ apart = false then .exit 2
      else
        let locked ← call .memory
        must locked 1
        let salt ← readSalt
        match salt with
        | none => .exit 1
        | some salt =>
            let started ← call .pamStart
            must started 1
            pure (uid, salt)

/-- pam_authenticate and pam_acct_mgmt with their conversations. -/
def askPam : Script (Data × Bool) := do
  let data ← conversations waits authCalls Data.empty
  let authenticated ← authenticate
  if authenticated then
    let stopped ← cancelled
    if stopped then pure (data, true)
    else
      let later ← conversations waits acctCalls data
      let admitted ← acctMgmt
      pure (later, admitted)
  else pure (data, false)

/-- PAM's user is the named one, and the account has the same UID still. -/
def check (username : String) (uid : Nat) (admitted : Data × Bool) : Script Unit := do
  must admitted.2 1
  let user ← getUser
  let stopped ← cancelled
  if stopped = false ∧ admitted.1.acquired = true ∧ user = some username then
    let again ← accountAgain username
    if again = some uid then pure () else .exit 1
  else .exit 1

/-- PKCS5_PBKDF2_HMAC; a cancellation is looked for behind it or before. -/
def derive (data : Data) (salt : Library.Bytes) : Script Library.Bytes := do
  let derived ← call .kdf
  if derived then pure (kdf.derive data.password salt) else .exit 1

/-- The previous input, from a buffer that was emptied. -/
def derivePrevious (salt : Library.Bytes) : Script Library.Bytes := do
  let read ← readPassword waits Data.empty previousPrompt
  if read.2 then
    let stopped ← cancelled
    if stopped then .exit 1 else derive kdf read.1 salt
  else .exit 1

/-- What is forwarded once the account is checked. -/
def publish (sync : Bool) (data : Data) (salt : Library.Bytes) : Script Unit := do
  let desired ← derive kdf data salt
  let stopped ← cancelled
  if stopped then .exit 1
  else if sync then
    let previous ← derivePrevious kdf waits salt
    forward .current waits previous
    forward .output waits desired
    .exit 0
  else
    forward .output waits desired
    .exit 0

def main (sync : Bool) (username : String) : Script Unit := do
  let prepared ← prepare username
  let admitted ← askPam waits authCalls acctCalls
  check username prepared.1 admitted
  publish kdf waits sync admitted.1 prepared.2

end Helper

end Liuqin.Fingerprint.Input
