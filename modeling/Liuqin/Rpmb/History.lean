/-
What the events of a listener have to say of each other.

The frames a write request carries go out from the first one on, in groups that
say their own length, and none of them goes out twice.  A failure of a write is
the end of all writes.  A request that sends nothing is answered as refused.
-/

import Liuqin.Rpmb.Listener

namespace Liuqin.Rpmb

open Liuqin.Library Liuqin.Library.Program
open Library.Bytes (part overwrite little fromLittle fromBig zeros)

/-! ### Requests -/

def requestOf (content : Bytes) : Request where
  command := le32 content 0
  count := le32 content 4
  length := le32 content 8
  offset := le32 content 12
  version := le32 content 16
  reliable := le32 content 20

/-- The frames that a write request carries. -/
def framesOf (content : Bytes) : Bytes :=
  part content (requestOf content).offset
    ((requestOf content).offset + (requestOf content).count * frameSize)

/-- The content of the last request. -/
def latest : List Event → Option Bytes
  | [] => none
  | .received content :: _ => some content
  | _ :: log => latest log

/-- What was written since the last request, in its order. -/
def written : List Event → Bytes
  | [] => []
  | .received _ :: _ => []
  | .out true frames _ :: log => written log ++ frames
  | _ :: log => written log

/-- Whether anything was sent since the last request. -/
def sent : List Event → Bool
  | [] => false
  | .received _ :: _ => false
  | .out _ _ _ :: _ => true
  | _ :: log => sent log

/-- A transport error of a write, or a failure of it that the device reports. -/
def Event.fails : Event → Bool
  | .out true _ worked => !worked
  | .asked worked => !worked
  | .into true frames worked => !worked || be16 frames 510 ≠ 0x300 || be16 frames 508 ≠ 0
  | _ => false

/-! ### Each write once -/

/-- Frames of data writes, each with the number of them. -/
structure Group (device : Device) (frames : Bytes) (blocks : Nat) : Prop where
  some : 0 < blocks
  reliable : blocks ≤ device.reliableFrames
  length : frames.length = blocks * frameSize
  type : ∀ index < blocks, be16 frames (index * frameSize + 510) = 3
  counted : ∀ index < blocks, be16 frames (index * frameSize + 506) = blocks

/-- What may be written behind these events. -/
structure Writes (device : Device) (frames : Bytes) (log : List Event) : Prop where
  allowed : device.allowDataWrites = true
  unfailed : ∀ event ∈ log, event.fails = false
  group : ∃ blocks, Group device frames blocks
  next : ∃ content, latest log = some content ∧ (requestOf content).command = writeCommand ∧
    written log ++ frames <+: framesOf content

/-- One frame that asks for the write counter or for data. -/
structure Reads (frames : Bytes) : Prop where
  length : frames.length = frameSize
  type : be16 frames 510 = 2 ∨ be16 frames 510 = 4

/-- A write that began and did not fail has sent all its frames. -/
def Finished (log : List Event) : Prop :=
  written log ≠ [] → (∀ event ∈ log, event.fails = false) →
    ∃ content, latest log = some content ∧ written log = framesOf content

def Event.Fits (device : Device) : Event → List Event → Prop
  | .out true frames _, log => Writes device frames log
  | .out false frames _, _ => Reads frames
  | .replied _, log => Finished log
  | _, _ => True

/-- Every event fits those before it. -/
def Once (device : Device) : List Event → Prop
  | [] => True
  | event :: log => event.Fits device log ∧ Once device log

/-! ### Answers -/

def words (values : List Nat) : Bytes := values.flatMap (little 4)

/-- Status -1 and a payload of zeros. -/
def refusal (size : Nat) (content : Bytes) : Bytes :=
  if (requestOf content).command = initCommand then
    words [initCommand, 2, 0xffffffff] ++ zeros (size - 12 : Nat)
  else
    words [(requestOf content).command, 0xffffffff, 0, 0, (requestOf content).version] ++
      zeros (size - 20 : Nat)

/-- Whether a request gets nothing: no session, no frame sent. -/
def Refused (device : Device) (content : Bytes) (log : List Event) : Prop :=
  if (requestOf content).command = initCommand then
    ¬(le32 content 4 = 2 ∧ device.opened = true)
  else sent log = false

/-- The status word of an answer. -/
def statusOf (content answer : Bytes) : Nat :=
  le32 answer (if (requestOf content).command = initCommand then 8 else 4)

/-- A refused request is answered with the refusal, and so is every request
that is answered with another status than 0. -/
structure Replies (device : Device) (size : Nat) (content answer : Bytes) (log : List Event) :
    Prop where
  length : answer.length = size
  refused : Refused device content log → answer = refusal size content
  failed : statusOf content answer ≠ 0 → answer = refusal size content

def Event.Answers (device : Device) (size : Nat) : Event → List Event → Prop
  | .replied answer, log => ∃ content, latest log = some content ∧
      Replies device size content answer log
  | _, _ => True

def Answered (device : Device) (size : Nat) : List Event → Prop
  | [] => True
  | event :: log => event.Answers device size log ∧ Answered device size log

/-! ### Bounds -/

/-- A frame that writes or reads blocks. -/
def moves (frames : Bytes) (start : Nat) : Prop :=
  be16 frames (start + 510) = 3 ∨ be16 frames (start + 510) = 4

/-- Every access stays inside the buffer of this size or inside the copy of the
request, no computation wraps, and every frame addresses blocks of the region. -/
def Bounded (region size : Nat) : Op → World → Prop
  | .load32 address, _ => address + 4 ≤ size
  | .load16 address, _ => address + 2 ≤ size
  | .put32 address value, _ => address + 4 ≤ size ∧ value < 2 ^ 32
  | .memset address length, _ => address + length ≤ size
  | .compute width exact, _ => 0 ≤ exact ∧ exact < 2 ^ width
  | .memcpy address length, world => address + length ≤ size ∧ length ≤ world.request.length
  | .out _ address length span, world => address + length ≤ world.request.length ∧
      ∀ index, (index + 1) * frameSize ≤ length →
        moves world.request (address + index * frameSize) →
          be16 world.request (address + index * frameSize + 506) ≤ span ∧
          be16 world.request (address + index * frameSize + 504) + span ≤ region
  | .into _ address length, _ => address + length ≤ size
  | _, _ => True

/-- The blocks of region 0 that the unit has. -/
def Attributes.capacity (attributes : Attributes) : Nat :=
  min (attributes.region0.toNat * 512) attributes.blocks.toNat

end Liuqin.Rpmb
