/-
The RPMB listener of the supplicant
(device/fingerprint/oem/src/third_party/qsee-supplicant/src/rpmb.c and rpmb_ufs.c).

Addresses count from the start of the shared buffer, in the copy of the request
from its own start.  Every read, every store and every computation of the C code
is an operation, a computation with its exact result, of which the machine keeps
what fits the width.  The requests and what the transport does are arbitrary.
-/

import Liuqin.Library.Words
import Liuqin.Library.Program

namespace Liuqin.Rpmb

open Liuqin.Library Liuqin.Library.Program
open Library.Bytes (part overwrite little fromLittle fromBig zeros)

/-! ### The device -/

/-- QS_RPMB_FRAME_SIZE -/
def frameSize : Nat := 512

/-- QS_RPMB_BUFFER_SIZE -/
def bufferSize : Nat := 25 * 1024

/-- What sysfs says of the unit. -/
structure Attributes where
  version : UInt64
  security : UInt64
  enabled : UInt64
  exponent : UInt64
  blocks : UInt64
  reliable : UInt64
  type : UInt64
  regions : UInt64
  deriving DecidableEq, Repr

/-- The size of region 0 in units of 128 KiB. -/
def Attributes.region0 (attributes : Attributes) : UInt32 := (attributes.regions >>> 24).toUInt32

/-- The topology that qs_rpmb_ufs_open lets pass. -/
structure Attributes.Supported (attributes : Attributes) : Prop where
  version : attributes.version = 0x0310
  security : attributes.security = 1
  enabled : attributes.enabled = 1
  type : attributes.type = 30
  exponent : attributes.exponent = 8
  blocks : attributes.blocks ≠ 0 ∧ attributes.blocks ≤ 65536 ∧ attributes.blocks &&& 1 = 0
  reliable : attributes.reliable ≠ 0 ∧ attributes.reliable ≤ 255
  region0 : attributes.region0 ≠ 0 ∧ attributes.region0 ≤ 128
  inside : (attributes.region0 * 512).toUInt64 ≤ attributes.blocks

instance (attributes : Attributes) : Decidable attributes.Supported :=
  decidable_of_iff
    (attributes.version = 0x0310 ∧ attributes.security = 1 ∧ attributes.enabled = 1 ∧
      attributes.type = 30 ∧ attributes.exponent = 8 ∧
      (attributes.blocks ≠ 0 ∧ attributes.blocks ≤ 65536 ∧ attributes.blocks &&& 1 = 0) ∧
      (attributes.reliable ≠ 0 ∧ attributes.reliable ≤ 255) ∧
      (attributes.region0 ≠ 0 ∧ attributes.region0 ≤ 128) ∧
      (attributes.region0 * 512).toUInt64 ≤ attributes.blocks)
    ⟨fun ⟨a, b, c, d, e, f, g, h, i⟩ => ⟨a, b, c, d, e, f, g, h, i⟩,
      fun ⟨a, b, c, d, e, f, g, h, i⟩ => ⟨a, b, c, d, e, f, g, h, i⟩⟩

/-- struct qs_rpmb_ufs without its failure flag; `opened` says that fd >= 0. -/
structure Device where
  opened : Bool
  sectors512 : Nat
  reliableFrames : Nat
  allowDataWrites : Bool
  deriving DecidableEq, Repr

/-- qs_rpmb_ufs_open; `node` says that the device node is the expected one and opens. -/
def openDevice (attributes : Attributes) (node allowDataWrites : Bool) : Device :=
  if attributes.Supported ∧ node = true then
    { opened := true
      sectors512 := (attributes.region0 * 256).toNat
      reliableFrames := attributes.reliable.toUInt32.toNat
      allowDataWrites }
  else
    { opened := false
      sectors512 := 0
      reliableFrames := 0
      allowDataWrites }

/-! ### Words -/

def le32 (data : Bytes) (address : Nat) : Nat := fromLittle (part data address (address + 4))

def be16 (data : Bytes) (address : Nat) : Nat := fromBig (part data address (address + 2))

/-- An int as the uint32_t that is stored. -/
def word (value : Int) : Nat := (value % 2 ^ 32).toNat

/-! ### The world -/

/-- What happened, as the supplicant and the device see it. -/
inductive Event where
  | received (content : Bytes)
  | out (write : Bool) (frames : Bytes) (worked : Bool)
  | asked (worked : Bool)
  | into (write : Bool) (frames : Bytes) (worked : Bool)
  | replied (content : Bytes)
  deriving DecidableEq, Repr

/-- The shared buffer, the copy of the request, the flag and the events, the last one first. -/
structure World where
  buffer : Bytes
  request : Bytes
  writeFailed : Bool
  log : List Event
  deriving DecidableEq, Repr

def World.start (buffer : Bytes) : World where
  buffer
  request := []
  writeFailed := false
  log := []

inductive Op where
  | receive
  | load32 (address : Nat)
  | load16 (address : Nat)
  | put32 (address value : Nat)
  | memset (address length : Nat)
  | compute (width : Nat) (exact : Int)
  | writeFailed
  | setFailed
  | malloc (length : Nat)
  | memcpy (address length : Nat)
  /-- SECURITY PROTOCOL OUT of request frames; `span` blocks are to be moved. -/
  | out (write : Bool) (address length span : Nat)
  /-- SECURITY PROTOCOL OUT of the request for the result of a write. -/
  | ask
  /-- SECURITY PROTOCOL IN. -/
  | into (write : Bool) (address length : Nat)
  | reply
  deriving DecidableEq, Repr

@[reducible] def Answer : Op → Type
  | .load32 _ | .load16 _ | .compute _ _ => Nat
  | .writeFailed | .malloc _ | .out _ _ _ _ | .ask | .into _ _ _ => Bool
  | _ => Unit

/-- Whether a call works, and the bytes that come from outside. -/
structure Fault where
  works : Bool
  bytes : Bytes

/-- Exactly so many bytes. -/
def fit (length : Nat) (bytes : Bytes) : Bytes :=
  bytes.take length ++ zeros (length - bytes.length : Nat)

def perform (size : Nat) : (operation : Op) → Fault → World → Answer operation × World
  | .receive, fault, world =>
      ((), { world with
        buffer := fit size fault.bytes
        log := .received (fit size fault.bytes) :: world.log })
  | .load32 address, _, world => (le32 world.buffer address, world)
  | .load16 address, _, world => (be16 world.buffer address, world)
  | .put32 address value, _, world =>
      ((), { world with buffer := overwrite world.buffer address (little 4 value) })
  | .memset address length, _, world =>
      ((), { world with buffer := overwrite world.buffer address (zeros length) })
  | .compute width exact, _, world => ((exact % 2 ^ width).toNat, world)
  | .writeFailed, _, world => (world.writeFailed, world)
  | .setFailed, _, world => ((), { world with writeFailed := true })
  | .malloc length, fault, world =>
      (fault.works, { world with request := fit length fault.bytes })
  | .memcpy address length, _, world =>
      let copied := part world.buffer address (address + length)
      ((), { world with request := overwrite world.request 0 copied })
  | .out write address length _, fault, world =>
      let frames := part world.request address (address + length)
      (fault.works, { world with log := .out write frames fault.works :: world.log })
  | .ask, fault, world => (fault.works, { world with log := .asked fault.works :: world.log })
  | .into write address length, fault, world =>
      let frames := fit length fault.bytes
      (fault.works, { world with
        buffer := overwrite world.buffer address frames
        log := .into write frames fault.works :: world.log })
  | .reply, _, world => ((), { world with log := .replied world.buffer :: world.log })

def machine (size : Nat) : Machine Answer World where
  Fault _ := Fault
  perform operation := perform size operation

abbrev Script := Prog Answer

def act (operation : Op) : Script (Answer operation) := .act operation .done

/-- `first || second` -/
def either (first second : Script Bool) : Script Bool := do
  let yes ← first
  if yes then pure true else second

/-- `first && second` -/
def both (first second : Script Bool) : Script Bool := do
  let yes ← first
  if yes then second else pure false

def test (condition : Prop) [Decidable condition] : Script Bool := pure (decide condition)

/-! ### rpmb_ufs.c -/

def ask (sent write : Bool) : Script Bool :=
  if sent && write then do
    let _ ← act (.compute 32 (1 * frameSize))
    act .ask
  else pure sent

def collect (asked write : Bool) (response frames : Nat) : Script Bool :=
  if asked then do
    let length ← act (.compute 32 (frames * frameSize))
    act (.into write response length)
  else pure false

def noteFailure (failed : Bool) : Script Unit :=
  if failed then act .setFailed else pure ()

/-- qs_rpmb_ufs_transfer; the answer is true where the C code returns 0. -/
def transfer (write : Bool) (request frames response responseFrames : Nat) : Script Bool := do
  let length ← act (.compute 32 (frames * frameSize))
  let sent ← act (.out write request length (if write then frames else responseFrames))
  let asked ← ask sent write
  let worked ← collect asked write response responseFrames
  noteFailure (write && !worked)
  pure worked

/-! ### rpmb.c -/

def initCommand : Nat := 0x101
def readCommand : Nat := 0x102
def writeCommand : Nat := 0x103

/-- The words of a request. -/
structure Request where
  command : Nat
  count : Nat
  length : Nat
  offset : Nat
  version : Nat
  reliable : Nat
  deriving DecidableEq, Repr

/-- `status` and `response_length` at the label `reply`. -/
structure Outcome where
  status : Int
  length : Nat
  deriving DecidableEq, Repr

def refused : Outcome := ⟨-1, 0⟩

def grant (device : Device) (granted : Bool) : Script Unit :=
  if granted then do
    act (.put32 8 0)
    act (.put32 12 device.sectors512)
    act (.put32 16 device.reliableFrames)
    act (.put32 20 9)
  else pure ()

/-- QS_RPMB_INIT: without a device or with another version the status stays -1. -/
def dispatchInit (device : Device) (size : Nat) : Script Unit := do
  let version ← act (.load32 4)
  act (.memset 0 size)
  act (.put32 0 initCommand)
  act (.put32 4 2)
  act (.put32 8 0xffffffff)
  grant device (version = 2 ∧ device.opened = true)
  -- the status in the line of the log
  let _ ← act (.load32 8)
  pure ()

/-- The shared-memory envelope; true where it is refused. -/
def envelope (device : Device) (size : Nat) (request : Request) : Script Bool :=
  either (test (device.opened = false)) <|
  either (test (request.command ≠ readCommand ∧ request.command ≠ writeCommand)) <|
  either (test (request.count = 0)) <|
  either (do
    let room ← act (.compute 64 (size - 24 : Int))
    test (request.count > room / frameSize)) <|
  either (test (request.offset < 24)) <|
  either (test (request.offset > size)) (do
    let room ← act (.compute 64 (size - request.offset : Int))
    test (request.length > room))

/-- The words of the first frame that the last line of the log names. -/
def peek (size : Nat) (request : Request) : Script Unit := do
  let whole ← both (test (request.length ≥ frameSize)) (do
    let room ← act (.compute 64 (size - request.offset : Int))
    test (frameSize ≤ room))
  if whole then
    let _ ← act (.load16 (request.offset + 510))
    let _ ← act (.load16 (request.offset + 506))
    pure ()
  else pure ()

/-- Whether the blocks from the frame's address on leave the region. -/
def outside (device : Device) (frame blocks : Nat) : Script Bool := do
  let address ← act (.load16 (frame + 504))
  let last ← act (.compute 32 (address + blocks))
  let region ← act (.compute 32 (device.sectors512 * 2))
  test (last > region)

/-- The checks of a read; true where it is refused. -/
def readFrame (device : Device) (size : Nat) (request : Request) : Script Bool :=
  either (test (request.count > device.reliableFrames)) <|
  either (do
    let room ← act (.compute 64 (size - request.offset : Int))
    test (frameSize > room)) <|
  either (both (test (request.length ≠ frameSize)) (do
    let length ← act (.compute 32 (request.count * 256))
    test (request.length ≠ length))) (do
  let type ← act (.load16 (request.offset + 510))
  either (test ((type ≠ 2 ∧ type ≠ 4) ∨ (type = 2 ∧ request.count ≠ 1))) (do
    let blocks ← act (.load16 (request.offset + 506))
    both (test (type = 4)) <|
      either (test (blocks ≠ 0 ∧ blocks ≠ request.count))
        (outside device request.offset request.count)))

/-- The loop over the frames of a write from frame `index` on. -/
def writeFrames (device : Device) (request : Request) : (left index : Nat) → Script Bool
  | 0, _ => pure false
  | left + 1, index => do
      let start ← act (.compute 32 (index * frameSize))
      let earlier ← act (.compute 32 (index / request.reliable * request.reliable : Nat))
      let remaining ← act (.compute 32 (request.count - earlier : Int))
      let group := if remaining < request.reliable then remaining else request.reliable
      let frame := request.offset + start
      let bad ← either (do
          let type ← act (.load16 (frame + 510))
          test (type ≠ 3)) <|
        either (do
          let blocks ← act (.load16 (frame + 506))
          test (blocks ≠ group))
        (outside device frame group)
      if bad then pure true
      else
        let next ← act (.compute 32 (index + 1))
        writeFrames device request left next

/-- The checks of a write; true where it is refused. -/
def writeRefused (device : Device) (request : Request) : Script Bool :=
  either (test (device.allowDataWrites = false)) <|
  either (act .writeFailed) <|
  either (test (request.reliable = 0)) <|
  either (test (request.reliable > device.reliableFrames)) <|
  either (do
    let length ← act (.compute 32 (request.count * frameSize))
    test (request.length ≠ length))
  (writeFrames device request request.count 0)

/-- The transfer of a read. -/
def readTransfer (request : Request) : Script Outcome := do
  let worked ← transfer false 0 1 20 request.count
  if worked then
    let length ← act (.compute 32 (request.count * frameSize))
    pure ⟨0, length⟩
  else pure refused

/-- Whether the response of the device to a write reports a failure. -/
def deviceFailed : Script Bool :=
  either (do
    let type ← act (.load16 (20 + 510))
    test (type ≠ 0x300)) (do
  let result ← act (.load16 (20 + 508))
  test (result ≠ 0))

/-- The loop over the groups of a write; the fuel is the number of frames. -/
def writeTransfer (request : Request) : (fuel index : Nat) → Outcome → Script Outcome
  | 0, _, outcome => pure outcome
  | fuel + 1, index, outcome =>
      if index < request.count then do
        let left ← act (.compute 32 (request.count - index : Int))
        let group := if left < request.reliable then left else request.reliable
        act (.memset 20 frameSize)
        let start ← act (.compute 32 (index * frameSize))
        let worked ← transfer true start group 20 1
        if worked then
          let failed ← deviceFailed
          if failed then
            act .setFailed
            pure ⟨0, frameSize⟩
          else
            let next ← act (.compute 32 (index + request.reliable))
            writeTransfer request fuel next ⟨0, frameSize⟩
        else pure refused
      else pure outcome

/-- The checks of the command. -/
def checked (device : Device) (size : Nat) (request : Request) : Script Bool :=
  if request.command = readCommand then readFrame device size request
  else writeRefused device request

/-- From the allocation to the label `reply`. -/
def move (size : Nat) (request : Request) : Script Outcome := do
  let length := if request.command = readCommand then frameSize else request.length
  let allocated ← act (.malloc length)
  if allocated then
    act (.memcpy request.offset length)
    act (.memset 0 size)
    if request.command = readCommand then readTransfer request
    else writeTransfer request request.count 0 refused
  else pure refused

/-- Up to the label `reply`. -/
def handle (device : Device) (size : Nat) (request : Request) : Script Outcome := do
  let bad ← envelope device size request
  if bad then pure refused
  else
    peek size request
    let bad ← checked device size request
    if bad then pure refused
    else move size request

/-- The label `reply`. -/
def finish (size : Nat) (request : Request) (outcome : Outcome) : Script Unit := do
  act (.memset 0 (if outcome.status ≠ 0 then size else 20))
  act (.put32 0 request.command)
  act (.put32 4 (word outcome.status))
  act (.put32 8 outcome.length)
  act (.put32 12 (if outcome.status ≠ 0 then 0 else 20))
  act (.put32 16 request.version)

def readRequest (command : Nat) : Script Request := do
  let count ← act (.load32 4)
  let length ← act (.load32 8)
  let offset ← act (.load32 12)
  let version ← act (.load32 16)
  let reliable ← act (.load32 20)
  pure { command, count, length, offset, version, reliable }

def serveCommand (device : Device) (size command : Nat) : Script Unit :=
  if command = initCommand then dispatchInit device size
  else do
    let request ← readRequest command
    let outcome ← handle device size request
    finish size request outcome

/-- qs_rpmb_dispatch; true where it returns 0. -/
def dispatch (device : Device) (size : Nat) : Script Bool :=
  if size < 40 ∨ size > bufferSize then pure false
  else do
    let command ← act (.load32 0)
    serveCommand device size command
    pure true

def answer (served : Bool) : Script Unit :=
  if served then act .reply else pure ()

/-- The listener serves so many requests. -/
def serve (device : Device) (size : Nat) : Nat → Script Unit
  | 0 => pure ()
  | requests + 1 => do
      act .receive
      let served ← dispatch device size
      answer served
      serve device size requests

end Liuqin.Rpmb
