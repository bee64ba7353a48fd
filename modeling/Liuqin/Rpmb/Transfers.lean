/-
The transfers of a request that passed its checks.

The write loop keeps its turn in step with what was written.  A failure leaves
the flag set, so behind a command the flag is set wherever a failure is among
the events.
-/

import Liuqin.Rpmb.Checked

namespace Liuqin.Rpmb

open Liuqin.Library Liuqin.Library.Program
open Library.Bytes (part overwrite little fromLittle fromBig zeros)

/-! ### The copy of a write -/

/-- Overwriting everything forgets everything. -/
theorem overwrite_whole {data text : Bytes} (same : text.length = data.length) :
    overwrite data 0 text = text := by
  rw [overwrite, List.take_zero, List.nil_append, Nat.zero_add, same, List.drop_length,
    List.append_nil]

/-- A request that passed the checks of a write, as its content has it. -/
structure Accepted (device : Device) (region size : Nat) (content : Bytes) : Prop where
  whole : content.length = size
  command : (requestOf content).command = writeCommand
  some : 0 < (requestOf content).count
  room : 24 + (requestOf content).count * frameSize ≤ size
  inside : (requestOf content).offset + (requestOf content).count * frameSize ≤ size
  allowed : device.allowDataWrites = true
  grouped : 0 < (requestOf content).reliable
  reliable : (requestOf content).reliable ≤ device.reliableFrames
  frames : ∀ index < (requestOf content).count,
    WriteFrame device content (requestOf content) index
  few : device.reliableFrames ≤ 255
  fits : device.sectors512 * 2 ≤ region

section Groups

variable {device : Device} {region size : Nat} {content : Bytes}
  (accepted : Accepted device region size content)

include accepted

theorem framesOf_length :
    (framesOf content).length = (requestOf content).count * frameSize := by
  have inside := accepted.inside
  rw [framesOf, Bytes.part_within (by rw [accepted.whole]; exact inside)]
  omega

/-- The group that begins at a frame whose number is a multiple of `reliable`. -/
def groupAt (content : Bytes) (turn : Nat) : Nat :=
  min ((requestOf content).count - turn * (requestOf content).reliable)
    (requestOf content).reliable

/-- What the frames of a group say, read from the copy. -/
theorem group_frame {turn index : Nat} (within : index < groupAt content turn) :
    let place := (turn * (requestOf content).reliable + index) * frameSize
    be16 (framesOf content) (place + 510) = 3 ∧
      be16 (framesOf content) (place + 506) = groupAt content turn ∧
      be16 (framesOf content) (place + 504) + groupAt content turn ≤ device.sectors512 * 2 := by
  intro place
  have few : turn * (requestOf content).reliable + index < (requestOf content).count := by
    rw [groupAt] at within
    omega
  have short : index < (requestOf content).reliable := by
    rw [groupAt] at within
    omega
  have quotient : (turn * (requestOf content).reliable + index) / (requestOf content).reliable =
      turn := by
    rw [Nat.mul_comm, Nat.mul_add_div accepted.grouped, Nat.div_eq_of_lt short, Nat.add_zero]
  have frame := accepted.frames _ few
  have bound : place + frameSize ≤ (requestOf content).count * frameSize := by
    have product := Nat.mul_le_mul_right frameSize few
    rw [Nat.succ_mul] at product
    exact product
  have width : frameSize = 512 := rfl
  have moved : ∀ word, word + 2 ≤ frameSize → be16 (framesOf content) (place + word) =
      be16 content ((requestOf content).offset + place + word) := by
    intro word small
    rw [framesOf, be16_part content (by omega), Nat.add_assoc]
  have type := frame.type
  have blocks := frame.blocks
  have inside := frame.inside
  rw [quotient] at blocks inside
  refine ⟨?_, ?_, ?_⟩
  · rw [moved 510 (by omega)]
    exact type
  · rw [moved 506 (by omega)]
    exact blocks
  · rw [moved 504 (by omega)]
    exact inside

/-- The bytes of a group. -/
def groupOf (content : Bytes) (turn : Nat) : Bytes :=
  part (framesOf content) (turn * (requestOf content).reliable * frameSize)
    (turn * (requestOf content).reliable * frameSize + groupAt content turn * frameSize)

/-- A turn of the loop: its first frame is one of the request's. -/
def Turn (content : Bytes) (turn : Nat) : Prop :=
  turn * (requestOf content).reliable < (requestOf content).count

theorem group_bound (turn : Nat) (due : Turn content turn) :
    turn * (requestOf content).reliable * frameSize + groupAt content turn * frameSize ≤
      (requestOf content).count * frameSize := by
  have few : turn * (requestOf content).reliable + groupAt content turn ≤
      (requestOf content).count := by
    rw [Turn] at due
    rw [groupAt]
    omega
  have product := Nat.mul_le_mul_right frameSize few
  rw [Nat.add_mul] at product
  exact product

theorem groupOf_length (turn : Nat) (due : Turn content turn) :
    (groupOf content turn).length = groupAt content turn * frameSize := by
  have bound := group_bound accepted turn due
  rw [groupOf, Bytes.part_within (by rw [framesOf_length accepted]; exact bound)]
  omega

theorem groupOf_group (turn : Nat) (due : Turn content turn) :
    Group device (groupOf content turn) (groupAt content turn) := by
  have reliable := accepted.reliable
  have grouped := accepted.grouped
  have width : frameSize = 512 := rfl
  have read : ∀ index < groupAt content turn, ∀ word, word + 2 ≤ frameSize →
      be16 (groupOf content turn) (index * frameSize + word) = be16 (framesOf content)
        ((turn * (requestOf content).reliable + index) * frameSize + word) := by
    intro index within word small
    have product := Nat.mul_le_mul_right frameSize within
    rw [Nat.succ_mul] at product
    rw [groupOf, be16_part _ (by omega), Nat.add_mul, Nat.add_assoc]
  constructor
  · rw [Turn] at due
    rw [groupAt]
    omega
  · rw [groupAt]
    omega
  · exact groupOf_length accepted turn due
  · intro index within
    rw [read index within 510 (by omega)]
    exact (group_frame accepted within).1
  · intro index within
    rw [read index within 506 (by omega)]
    exact (group_frame accepted within).2.1

theorem group_region (turn : Nat) (due : Turn content turn) :
    Bounded region size (.out true (turn * (requestOf content).reliable * frameSize)
      (groupAt content turn * frameSize) (groupAt content turn))
      ⟨content, framesOf content, false, []⟩ := by
  constructor
  · show _ ≤ (framesOf content).length
    rw [framesOf_length accepted]
    exact group_bound accepted turn due
  · intro index within _
    have early : index < groupAt content turn := by
      have product := Nat.le_of_mul_le_mul_right within (by decide : 0 < frameSize)
      omega
    have said := group_frame accepted early
    have fits := accepted.fits
    have place : turn * (requestOf content).reliable * frameSize + index * frameSize =
        (turn * (requestOf content).reliable + index) * frameSize := (Nat.add_mul _ _ _).symm
    rw [place]
    constructor
    · rw [said.2.1]
    · have last := said.2.2
      show be16 (framesOf content) _ + _ ≤ region
      omega

/-- What was written after a turn is a front of the request's frames. -/
theorem group_next (turn : Nat) (due : Turn content turn) :
    part (framesOf content) 0 (turn * (requestOf content).reliable * frameSize) ++
        groupOf content turn =
      part (framesOf content) 0 ((turn + 1) * (requestOf content).reliable * frameSize) := by
  have length := framesOf_length accepted
  rw [groupOf, Bytes.part_append_part (by omega) (by omega), ← Nat.add_mul, Bytes.part_zero,
    Bytes.part_zero, Nat.succ_mul]
  by_cases full : (requestOf content).reliable ≤
      (requestOf content).count - turn * (requestOf content).reliable
  · rw [groupAt, Nat.min_eq_right full]
  · rw [Turn] at due
    have all : turn * (requestOf content).reliable + groupAt content turn =
        (requestOf content).count := by
      rw [groupAt, Nat.min_eq_left (by omega)]
      omega
    have past : (requestOf content).count * frameSize ≤
        (turn * (requestOf content).reliable + (requestOf content).reliable) * frameSize :=
      Nat.mul_le_mul_right _ (by omega)
    rw [all, List.take_of_length_le (by omega), List.take_of_length_le (by omega)]

end Groups

/-! ### Between the events -/

/-- The events since a request and the failures up to now. -/
structure Serving (device : Device) (size : Nat) (content : Bytes) (world : World) : Prop where
  history : History device size world.log
  length : world.buffer.length = size
  latest : latest world.log = some content

/-- The write loop at a turn. -/
structure Writing (device : Device) (size : Nat) (content : Bytes) (turn : Nat) (world : World) :
    Prop extends Serving device size content world where
  copy : world.request = framesOf content
  clean : ∀ event ∈ world.log, event.fails = false
  written : written world.log =
    part (framesOf content) 0 (turn * (requestOf content).reliable * frameSize)

/-- The command is through. -/
structure Through (device : Device) (size : Nat) (content : Bytes) (outcome : Outcome)
    (world : World) : Prop extends Serving device size content world where
  flagged : (∃ event ∈ world.log, event.fails = true) → world.writeFailed = true
  finished : Finished world.log
  quiet : sent world.log = false → outcome = refused
  outcome : outcome = refused ∨ outcome.status = 0 ∧ outcome.length < 2 ^ 32

/-- A write failed: nothing is left to say of it but that. -/
structure Broken (device : Device) (size : Nat) (content : Bytes) (world : World) : Prop
    extends Serving device size content world where
  failed : ∃ event ∈ world.log, event.fails = true
  flagged : world.writeFailed = true
  sent : sent world.log = true

theorem Broken.through {device : Device} {size : Nat} {content : Bytes} {world : World}
    (broken : Broken device size content world) {outcome : Outcome}
    (answer : outcome = refused ∨ outcome.status = 0 ∧ outcome.length < 2 ^ 32) :
    Through device size content outcome world where
  toServing := broken.toServing
  flagged := fun _ => broken.flagged
  finished := by
    intro _ clean
    obtain ⟨event, member, fails⟩ := broken.failed
    rw [clean event member] at fails
    cases fails
  quiet := by
    intro nothing
    rw [broken.sent] at nothing
    cases nothing
  outcome := answer

section Transfers

variable {device : Device} {region size : Nat} {content : Bytes} {world : World}

theorem History.other {log : List Event} (kept : History device size log) {event : Event}
    (fits : event.Fits device log) (answers : event.Answers device size log) :
    History device size (event :: log) :=
  ⟨⟨fits, kept.once⟩, ⟨answers, kept.answered⟩⟩

/-- What the transfer of a group leaves where it worked. -/
structure Moved (before : World) (group frames : Bytes) (after : World) : Prop where
  length : frames.length = frameSize
  log : after.log = .into true frames true :: .asked true :: .out true group true :: before.log
  buffer : after.buffer = overwrite before.buffer 20 frames
  request : after.request = before.request
  flag : after.writeFailed = before.writeFailed

/-- A write that failed, with the flag set behind it. -/
theorem broken_now {buffer request : Bytes} {log : List Event} {event : Event}
    (history : History device size (event :: log)) (fails : event.fails = true)
    (length : buffer.length = size) (behind : latest (event :: log) = some content)
    (out : sent (event :: log) = true) :
    Broken device size content ⟨buffer, request, true, event :: log⟩ where
  history := history
  length := length
  latest := behind
  failed := ⟨event, List.mem_cons_self, fails⟩
  flagged := rfl
  sent := out

theorem Writing.writes {turn : Nat} (writing : Writing device size content turn world)
    (accepted : Accepted device region size content) (due : Turn content turn) :
    Writes device (groupOf content turn) world.log where
  allowed := accepted.allowed
  unfailed := writing.clean
  group := ⟨groupAt content turn, groupOf_group accepted turn due⟩
  next := by
    refine ⟨content, writing.latest, accepted.command, ?_⟩
    rw [writing.written, group_next accepted turn due, Bytes.part_zero]
    exact List.take_prefix _ _

/-- The transfer of a group. -/
theorem goes_group {turn : Nat} (writing : Writing device size content turn world)
    (accepted : Accepted device region size content) (due : Turn content turn)
    (high : size ≤ bufferSize) :
    Goes device region size
      (transfer true (turn * (requestOf content).reliable * frameSize) (groupAt content turn) 20 1)
      (fun worked after =>
        if worked = true then
          ∃ frames, Moved world (groupOf content turn) frames after ∧
            Serving device size content after
        else Broken device size content after) world := by
  have top : bufferSize = 25600 := rfl
  have width : frameSize = 512 := rfl
  have kept := writing.history
  have room := accepted.room
  have bound := group_bound accepted turn due
  have many : groupAt content turn * frameSize < 2 ^ 32 := by omega
  have answer : 20 + frameSize ≤ size := by
    have some := accepted.some
    have product := Nat.mul_le_mul_right frameSize some
    omega
  have fits := writing.writes accepted due
  have behind := writing.latest
  rcases world with ⟨buffer, request, flag, log⟩
  have copy : request = framesOf content := writing.copy
  have whole : buffer.length = size := writing.length
  subst copy
  apply goes_compute kept (groupAt content turn * frameSize) (by push_cast; rfl) many
  apply goes_out kept (group_region accepted turn due)
  intro sending
  have out : History device size (.out true (groupOf content turn) sending :: log) :=
    kept.other fits trivial
  cases sending with
  | false =>
      show Goes device region size ((act .setFailed).bind (fun _ => pure false)) _ _
      apply goes_setFailed out
      exact broken_now out rfl whole behind rfl
  | true =>
      apply goes_compute out frameSize (by push_cast; rfl) (by omega)
      apply goes_asked out
      intro telling
      have asked : History device size
          (.asked telling :: .out true (groupOf content turn) true :: log) :=
        out.other trivial trivial
      cases telling with
      | false =>
          show Goes device region size ((act .setFailed).bind (fun _ => pure false)) _ _
          apply goes_setFailed asked
          exact broken_now asked rfl whole behind rfl
      | true =>
          apply goes_compute asked frameSize (by push_cast; rfl) (by omega)
          apply goes_into asked answer
          intro reading frames length
          have came : History device size (.into true frames reading ::
              .asked true :: .out true (groupOf content turn) true :: log) :=
            asked.other trivial trivial
          have after : (overwrite buffer 20 frames).length = size := by
            rw [Bytes.overwrite_length (by omega)]
            exact whole
          cases reading with
          | false =>
              show Goes device region size ((act .setFailed).bind (fun _ => pure false)) _ _
              apply goes_setFailed came
              exact broken_now came rfl after behind rfl
          | true => exact ⟨frames, ⟨length, rfl, rfl, rfl, rfl⟩, ⟨came, after, behind⟩⟩

/-- What the response of the device at 20 is read as. -/
theorem be16_response {buffer frames : Bytes} (inside : 20 + frames.length ≤ buffer.length)
    {place : Nat} (within : place + 2 ≤ frames.length) :
    be16 (overwrite buffer 20 frames) (20 + place) = be16 frames place := by
  have read : be16 (part (overwrite buffer 20 frames) 20 (20 + frames.length)) place =
      be16 (overwrite buffer 20 frames) (20 + place) := be16_part _ (by omega)
  rw [Bytes.part_overwrite inside] at read
  exact read.symm

theorem goes_deviceFailed {buffer frames : Bytes} (kept : History device size world.log)
    (length : frames.length = frameSize) (inside : 20 + frameSize ≤ size)
    (whole : buffer.length = size) (written : world.buffer = overwrite buffer 20 frames) :
    Goes device region size deviceFailed
      (fun failed after => after = world ∧ failed = (Event.into true frames true).fails)
      world := by
  have width : frameSize = 512 := rfl
  have type : be16 world.buffer (20 + 510) = be16 frames 510 := by
    rw [written]
    exact be16_response (by omega) (by omega)
  have result : be16 world.buffer (20 + 508) = be16 frames 508 := by
    rw [written]
    exact be16_response (by omega) (by omega)
  apply goes_either
  apply goes_load16 kept (by omega)
  rw [type]
  apply goes_test
  · intro other
    refine ⟨rfl, ?_⟩
    simp [Event.fails, other]
  · intro same
    apply goes_load16 kept (by omega)
    rw [result]
    refine ⟨rfl, ?_⟩
    simp [Event.fails, not_not.mp same]

/-- At the end of the loop every frame is written. -/
theorem Writing.ended {turn : Nat} {outcome : Outcome}
    (writing : Writing device size content turn world)
    (accepted : Accepted device region size content)
    (last : ¬turn * (requestOf content).reliable < (requestOf content).count)
    (quiet : sent world.log = false → outcome = refused)
    (answer : outcome = refused ∨ outcome.status = 0 ∧ outcome.length < 2 ^ 32) :
    Through device size content outcome world where
  toServing := writing.toServing
  flagged := by
    rintro ⟨event, member, fails⟩
    rw [writing.clean event member] at fails
    cases fails
  finished := by
    intro _ _
    refine ⟨content, writing.latest, ?_⟩
    have counted := framesOf_length accepted
    have past := Nat.mul_le_mul_right frameSize (Nat.le_of_not_lt last)
    rw [writing.written, Bytes.part_zero, List.take_of_length_le (by omega)]
  quiet := quiet
  outcome := answer

/-- The loop over the groups. -/
theorem goes_writeTransfer (accepted : Accepted device region size content)
    (high : size ≤ bufferSize) (fuel turn : Nat) {outcome : Outcome}
    (writing : Writing device size content turn world)
    (enough : (requestOf content).count ≤ turn * (requestOf content).reliable + fuel)
    (quiet : sent world.log = false → outcome = refused)
    (answer : outcome = refused ∨ outcome.status = 0 ∧ outcome.length < 2 ^ 32) :
    Goes device region size
      (writeTransfer (requestOf content) fuel (turn * (requestOf content).reliable) outcome)
      (Through device size content) world := by
  have top : bufferSize = 25600 := rfl
  have width : frameSize = 512 := rfl
  have room := accepted.room
  have grouped := accepted.grouped
  have reply : 20 + frameSize ≤ size := by
    have some := accepted.some
    have product := Nat.mul_le_mul_right frameSize some
    omega
  have few : (requestOf content).count ≤ 25600 := by
    have product := Nat.le_mul_of_pos_right (requestOf content).count (by decide : 0 < frameSize)
    omega
  induction fuel generalizing turn outcome world with
  | zero => exact writing.ended accepted (by omega) quiet answer
  | succ fuel ih =>
      rw [writeTransfer]
      apply wp_ite
      · intro due
        have kept := writing.history
        apply goes_compute kept ((requestOf content).count - turn * (requestOf content).reliable)
          (by omega) (by omega)
        have least : (if (requestOf content).count - turn * (requestOf content).reliable <
              (requestOf content).reliable then
            (requestOf content).count - turn * (requestOf content).reliable
            else (requestOf content).reliable) = groupAt content turn := by
          rw [groupAt]
          split <;> omega
        simp only [least]
        apply goes_memset kept reply
        have cleared : Writing device size content turn { world with
            buffer := overwrite world.buffer 20 (zeros frameSize) } := by
          refine ⟨⟨kept, ?_, writing.latest⟩, writing.copy, writing.clean, writing.written⟩
          show (overwrite world.buffer 20 (zeros frameSize)).length = size
          rw [Bytes.overwrite_length (by rw [zeros_length, writing.length]; exact reply)]
          exact writing.length
        have start : turn * (requestOf content).reliable * frameSize < 2 ^ 32 := by
          have product := Nat.mul_le_mul_right frameSize (Nat.le_of_lt due)
          omega
        apply goes_compute cleared.history _ (by push_cast; rfl) start
        apply wp_seq
        apply wp_returned (goes_group cleared accepted due high)
        intro worked after moved
        cases worked with
        | false => exact Broken.through moved (Or.inl rfl)
        | true =>
            obtain ⟨frames, moved, serving⟩ := moved
            apply wp_seq
            apply wp_returned (goes_deviceFailed serving.history moved.length reply cleared.length
              moved.buffer)
            intro failed later ⟨same, said⟩
            subst same
            cases failed with
            | true =>
                rw [if_pos rfl]
                apply goes_setFailed serving.history
                have broken : Broken device size content { later with writeFailed := true } := by
                  refine ⟨⟨serving.history, serving.length, serving.latest⟩, ?_, rfl, ?_⟩
                  · refine ⟨.into true frames true, ?_, said.symm⟩
                    show _ ∈ later.log
                    rw [moved.log]
                    exact List.mem_cons_self
                  · show sent later.log = true
                    rw [moved.log]
                    rfl
                exact broken.through (Or.inr ⟨rfl, by decide⟩)
            | false =>
                have width32 : turn * (requestOf content).reliable + (requestOf content).reliable <
                    2 ^ 32 := by
                  have reliable := accepted.reliable
                  have narrow := accepted.few
                  omega
                apply goes_compute serving.history
                  (turn * (requestOf content).reliable + (requestOf content).reliable)
                  (by push_cast; rfl) width32
                rw [← Nat.succ_mul]
                have further : Writing device size content (turn + 1) later := by
                  refine ⟨serving, ?_, ?_, ?_⟩
                  · rw [moved.request]
                    exact writing.copy
                  · intro event member
                    rw [moved.log] at member
                    rcases List.mem_cons.mp member with last | member
                    · rw [last]
                      exact said.symm
                    · rcases List.mem_cons.mp member with asked | member
                      · rw [asked]
                        rfl
                      · rcases List.mem_cons.mp member with out | member
                        · rw [out]
                          rfl
                        · exact writing.clean event member
                  · rw [moved.log]
                    show written world.log ++ groupOf content turn = _
                    rw [writing.written]
                    exact group_next accepted turn due
                have more : (requestOf content).count ≤
                    (turn + 1) * (requestOf content).reliable + fuel := by
                  rw [Nat.succ_mul]
                  omega
                apply ih (turn + 1) further more
                · intro nothing
                  rw [moved.log] at nothing
                  cases nothing
                · exact Or.inr ⟨rfl, by decide⟩
      · intro last
        exact writing.ended accepted last quiet answer

end Transfers

end Liuqin.Rpmb
