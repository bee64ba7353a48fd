/-
The FPC client's commands and the machine they run on
(device/fingerprint/oem/src/fingerprint/oem/fpc_build_info.c).

A command is one system call or one TEE invocation.  A call interrupted before
it did anything is made again, so its answer here is the one the retry loop
came out with.  A signal, and anything another process does at the output path
while this run has no file there, can happen at any command.
-/

import Liuqin.Library.Program

namespace Liuqin.Fingerprint

open Liuqin.Library.Program

abbrev Bytes := List UInt8

/-- Shared memory, whose size the client keeps to. -/
abbrev Memory := Nat → UInt8

def bytesAt (memory : Memory) (offset length : Nat) : Bytes :=
  (List.range length).map fun index => memory (offset + index)

theorem bytesAt_length (memory : Memory) (offset length : Nat) :
    (bytesAt memory offset length).length = length := by
  rw [bytesAt, List.length_map, List.length_range]

/-- A little-endian u32 of the payload. -/
def wordAt (memory : Memory) (word : Nat) : Nat :=
  (bytesAt memory (4 * word) 4).foldr (fun byte rest => byte.toNat + 256 * rest) 0

def payloadSize : Nat := 4096

def hatSize : Nat := 69

def int32Max : Nat := 2147483647

/-! ### Requests -/

/-- What the client writes into a zeroed payload: words 0 to 5, bytes from
offset 8 and bytes from offset 16. -/
structure Request where
  module : Nat
  command : Nat
  word2 : Nat := 0
  word3 : Nat := 0
  word4 : Nat := 0
  word5 : Nat := 0
  at8 : Bytes := []
  at16 : Bytes := []
  deriving DecidableEq, Repr

def Request.code (request : Request) : Nat × Nat := (request.module, request.command)

inductive QueryKind where
  | sensorInit
  | sensorSleep
  | sensorCheckFingerLost
  | sensorWaitFingerLost
  | sensorWaitFingerDown
  | sensorCheckFingerState
  | bioInit
  | bioLoadEmptyDb
  | bioSetGid
  | bioSetActiveGroup
  | bioBeginEnrol
  | bioEnrol
  | bioEndEnrol
  | bioUpdateTemplate
  | bioLoadInstanceData
  | captureEnrol
  deriving DecidableEq, Repr

def QueryKind.request : QueryKind → Request
  | .sensorInit => { module := 10, command := 0 }
  | .sensorSleep => { module := 10, command := 5 }
  | .sensorCheckFingerLost => { module := 10, command := 1 }
  | .sensorWaitFingerLost => { module := 10, command := 2 }
  | .sensorWaitFingerDown => { module := 10, command := 3 }
  | .sensorCheckFingerState => { module := 10, command := 11 }
  | .captureEnrol => { module := 10, command := 4, word2 := 1 }
  | .bioInit => { module := 11, command := 0 }
  | .bioBeginEnrol => { module := 11, command := 1 }
  | .bioEnrol => { module := 11, command := 2 }
  | .bioEndEnrol => { module := 11, command := 3 }
  | .bioUpdateTemplate => { module := 11, command := 5 }
  | .bioLoadInstanceData => { module := 11, command := 19 }
  | .bioLoadEmptyDb => { module := 11, command := 7 }
  | .bioSetActiveGroup => { module := 11, command := 10 }
  | .bioSetGid => { module := 11, command := 20, word2 := 0 }

/-! ### Commands -/

/-- An answered invocation carries the application status. -/
structure Reply where
  answered : Bool
  origin : Nat
  response : Int
  payload : Memory

/-- What invoke_payload returns. -/
def Reply.status (reply : Reply) : Int := if reply.answered then reply.response else -1

inductive Lstat where
  | present
  | missing
  | failed
  deriving DecidableEq, Repr

/-- A poll that came back: its result, and whether POLLIN is set. -/
structure Polled where
  result : Int
  readable : Bool
  deriving DecidableEq, Repr

inductive HatPoll where
  | cancelled
  | unavailable
  | ready
  deriving DecidableEq, Repr

inductive ClientOp where
  | cancelled
  | print (text : String)
  | eprint (text : String)
  | lstatOutput
  | installHandlers
  | hatDescriptor
  | challengeDescriptor
  | openPower
  | openSession (privileged : Bool)
  | allocate (size : Nat)
  | invoke (session : Nat) (request : Request)
  | keymaster (command argument : Nat)
  | getrandom (length : Nat)
  | poll (timeout : Nat)
  | writeChallenge (bytes : Bytes)
  | pollHat (timeout : Nat)
  | readHat (length : Nat)
  | openDatabase
  | statDatabase
  | readDatabase (length : Nat)
  | closeDatabase
  | createOutput
  | writeOutput (bytes : Bytes)
  | fsyncOutput
  | closeOutput
  | unlinkOutput

/-- Failed calls answer `none` or `false`. -/
def ClientAnswer : ClientOp → Type
  | .print _ => Unit
  | .eprint _ => Unit
  | .lstatOutput => Lstat
  | .openSession _ => Option Nat
  | .invoke _ _ => Reply
  | .keymaster _ _ => Option Memory
  | .getrandom _ => Option Bytes
  | .poll _ => Polled
  | .writeChallenge _ => Option Nat
  | .pollHat _ => HatPoll
  | .readHat _ => Option Bytes
  | .statDatabase => Option Nat
  | .readDatabase _ => Option Bytes
  | .writeOutput _ => Option Nat
  | .unlinkOutput => Unit
  | _ => Bool

/-! ### The machine -/

/-- One TEE command as it went: with what it was sent and what came back. -/
structure Invocation where
  session : Nat
  request : Request
  status : Int
  payload : Memory

/-- What the output path names: nothing, a file of somebody else, or the file
this run created. -/
inductive Output where
  | absent
  | foreign (bytes : Bytes)
  | own (bytes : Bytes) (synced : Bool)
  deriving DecidableEq, Repr

/-- The log is newest first.  Of the two pipes to the Gatekeeper provider the
client has written `challengeSent` to the one and taken `hatReceived` from the
other; it has `starved` once the latter gave nothing where a byte was due. -/
structure Client where
  cancelled : Bool
  output : Output
  log : List Invocation
  stdout : List Char
  challengeSent : Bytes
  hatReceived : Bytes
  starved : Bool

/-- A process that starts with this file, or none, at the output path. -/
def Client.start (found : Option Bytes) : Client where
  cancelled := false
  output := match found with
    | none => .absent
    | some bytes => .foreign bytes
  log := []
  stdout := []
  challengeSent := []
  hatReceived := []
  starved := false

structure ClientFault (operation : ClientOp) where
  answer : ClientAnswer operation
  signal : Bool
  outside : Option (Option Bytes)

/-- What another process leaves at a path that names no file of this run. -/
def Output.disturbed (output : Output) (outside : Option (Option Bytes)) : Output :=
  match output, outside with
  | .own bytes synced, _ => .own bytes synced
  | _, some (some bytes) => .foreign bytes
  | _, some none => .absent
  | output, none => output

def Client.disturbed (client : Client) (signal : Bool) (outside : Option (Option Bytes)) : Client :=
  { client with
    cancelled := client.cancelled || signal
    output := client.output.disturbed outside }

def clientReact : (operation : ClientOp) → ClientAnswer operation → Client →
    ClientAnswer operation × Client
  | .cancelled, _, client => (client.cancelled, client)
  -- a C string ends at its first NUL
  | .print text, _, client =>
      ((), { client with stdout := client.stdout ++ text.toList.takeWhile (· ≠ '\x00') })
  | .lstatOutput, (answer : Lstat), client =>
      let found := if client.output = .absent then Lstat.missing else .present
      (if answer = Lstat.failed then .failed else found, client)
  | .invoke session request, (reply : Reply), client =>
      (reply, { client with log :=
        { session := session
          request := request
          status := reply.status
          payload := reply.payload } :: client.log })
  | .createOutput, (answer : Bool), client =>
      -- O_CREAT | O_EXCL
      if answer = true ∧ client.output = .absent then
        (true, { client with output := .own [] false }) else (false, client)
  | .writeOutput bytes, answer, client =>
      match answer, client.output with
      | some offered, .own written _ =>
          let count := min offered bytes.length
          (some count, { client with output := .own (written ++ bytes.take count) false })
      | _, _ => (none, client)
  | .fsyncOutput, (answer : Bool), client =>
      match client.output with
      | .own written synced => (answer, { client with output := .own written (synced || answer) })
      | _ => (answer, client)
  | .unlinkOutput, _, client => ((), { client with output := .absent })
  | .getrandom length, answer, client => (answer.map (List.take length), client)
  | .pollHat _, (answer : HatPoll), client =>
      (answer, { client with starved := client.starved || decide (answer = .unavailable) })
  | .readHat length, answer, client =>
      let chunk := (answer.map (List.take length)).getD []
      (answer.map (List.take length),
        { client with
          hatReceived := client.hatReceived ++ chunk
          starved := client.starved || chunk.isEmpty })
  | .readDatabase length, answer, client => (answer.map (List.take length), client)
  | .writeChallenge bytes, answer, client =>
      (answer.map (min bytes.length),
        { client with challengeSent := client.challengeSent ++ bytes.take (answer.getD 0) })
  | .eprint _, answer, client => (answer, client)
  | .installHandlers, answer, client => (answer, client)
  | .hatDescriptor, answer, client => (answer, client)
  | .challengeDescriptor, answer, client => (answer, client)
  | .openPower, answer, client => (answer, client)
  | .openSession _, answer, client => (answer, client)
  | .allocate _, answer, client => (answer, client)
  | .keymaster _ _, answer, client => (answer, client)
  | .poll _, answer, client => (answer, client)
  | .openDatabase, answer, client => (answer, client)
  | .statDatabase, answer, client => (answer, client)
  | .closeDatabase, answer, client => (answer, client)
  | .closeOutput, answer, client => (answer, client)

def clientMachine : Machine ClientAnswer Client where
  Fault := ClientFault
  perform := fun operation fault client =>
    clientReact operation fault.answer (client.disturbed fault.signal fault.outside)

abbrev ClientScript := Prog ClientAnswer

end Liuqin.Fingerprint
