/-
Whole runs of the listener.

Between two requests the flag is set wherever a failure is among the events, and
that is what a later write is refused by.  The reply is written over a cleared
buffer, so a refused request has nothing in it but its words.
-/

import Liuqin.Rpmb.Transfers

namespace Liuqin.Rpmb

open Liuqin.Library Liuqin.Library.Program
open Library.Bytes (part overwrite little fromLittle fromBig zeros)

/-! ### Reads -/

/-- A request was read and nothing was sent for it. -/
structure Fresh (device : Device) (size : Nat) (content : Bytes) (world : World) : Prop
    extends Serving device size content world where
  flagged : (∃ event ∈ world.log, event.fails = true) → world.writeFailed = true
  nothing : written world.log = []
  quiet : sent world.log = false

/-- What openDevice promises of a device. -/
structure Device.Fits (device : Device) (region : Nat) : Prop where
  sectors : device.sectors512 ≤ 32768
  reliable : device.reliableFrames ≤ 255
  region : device.sectors512 * 2 ≤ region

section Commands

variable {device : Device} {region size : Nat} {content : Bytes} {world : World}

theorem finished_nothing {log : List Event} (nothing : written log = []) : Finished log := by
  intro some
  exact absurd nothing some

theorem Fresh.refused (fresh : Fresh device size content world) :
    Through device size content refused world where
  toServing := fresh.toServing
  flagged := fresh.flagged
  finished := finished_nothing fresh.nothing
  quiet := fun _ => rfl
  outcome := Or.inl rfl

/-- The frame of a read as the copy has it. -/
theorem read_frame {request : Bytes}
    (readable : Readable device size content (requestOf content))
    (copy : request = part content (requestOf content).offset
      ((requestOf content).offset + frameSize)) (place : Nat) (within : place + 2 ≤ frameSize) :
    be16 request place = be16 content ((requestOf content).offset + place) := by
  rw [copy, be16_part content (by omega)]

theorem goes_readTransfer (fresh : Fresh device size content world) (high : size ≤ bufferSize)
    (fits : device.Fits region) (enveloped : Enveloped device size (requestOf content))
    (readable : Readable device size content (requestOf content)) (whole : content.length = size)
    (copy : world.request = part content (requestOf content).offset
      ((requestOf content).offset + frameSize)) :
    Goes device region size (readTransfer (requestOf content)) (Through device size content)
      world := by
  have top : bufferSize = 25600 := rfl
  have width : frameSize = 512 := rfl
  have many : 24 + (requestOf content).count * 512 ≤ size := enveloped.room
  have kept := fresh.history
  have length : world.request.length = frameSize := by
    have room := readable.room
    rw [copy, Bytes.part_within (by rw [whole]; exact room)]
    omega
  have type := read_frame readable copy 510 (by omega)
  have blocks := read_frame readable copy 506 (by omega)
  have address := read_frame readable copy 504 (by omega)
  apply wp_seq
  apply goes_compute kept frameSize (by rw [width]; rfl) (by omega)
  apply goes_out kept
  · constructor
    · omega
    · intro index within moves
      have first : index = 0 := by
        rw [width] at within
        omega
      rw [first, Nat.zero_mul, Nat.add_zero] at moves ⊢
      rw [Rpmb.moves, Nat.zero_add, type] at moves
      have data : be16 content ((requestOf content).offset + 510) = 4 := by
        rcases readable.type with count | data
        · omega
        · exact data
      have said := readable.blocks data
      rw [if_neg Bool.false_ne_true, blocks, address]
      constructor
      · exact said.1
      · exact Nat.le_trans said.2 fits.region
  intro sending
  have payload : part world.request 0 (0 + frameSize) = world.request := by
    rw [Nat.zero_add, Bytes.part_zero, List.take_of_length_le (by omega)]
  rw [payload]
  have reads : Reads world.request := by
    constructor
    · exact length
    · rw [type]
      exact readable.type
  have out : History device size (.out false world.request sending :: world.log) :=
    kept.other reads trivial
  have flag : (∃ event ∈ (.out false world.request sending :: world.log : List Event),
      event.fails = true) → world.writeFailed = true := by
    rintro ⟨event, member, fails⟩
    rcases List.mem_cons.mp member with last | member
    · rw [last] at fails
      cases fails
    · exact fresh.flagged ⟨event, member, fails⟩
  cases sending with
  | false =>
      refine ⟨⟨out, fresh.length, fresh.latest⟩, flag, finished_nothing fresh.nothing, ?_,
        Or.inl rfl⟩
      intro _
      rfl
  | true =>
      have bytes : (requestOf content).count * frameSize < 2 ^ 32 := by
        rw [width]
        omega
      have room : 20 + (requestOf content).count * frameSize ≤ size := by
        rw [width]
        omega
      apply goes_compute out _ (by push_cast; rfl) bytes
      apply goes_into out room
      intro reading frames long
      have came : History device size
          (.into false frames reading :: .out false world.request true :: world.log) :=
        out.other trivial trivial
      have after : (overwrite world.buffer 20 frames).length = size := by
        rw [Bytes.overwrite_length (by rw [fresh.length, long]; exact room)]
        exact fresh.length
      have flags : (∃ event ∈ (.into false frames reading :: .out false world.request true ::
          world.log : List Event), event.fails = true) → world.writeFailed = true := by
        rintro ⟨event, member, fails⟩
        rcases List.mem_cons.mp member with last | member
        · rw [last] at fails
          cases fails
        · exact flag ⟨event, member, fails⟩
      have through : ∀ outcome : Outcome,
          (outcome = refused ∨ outcome.status = 0 ∧ outcome.length < 2 ^ 32) →
          Through device size content outcome ⟨overwrite world.buffer 20 frames, world.request,
            world.writeFailed, .into false frames reading :: .out false world.request true ::
              world.log⟩ := by
        intro outcome answer
        refine ⟨⟨came, after, fresh.latest⟩, flags, finished_nothing fresh.nothing, ?_, answer⟩
        intro nothing
        cases nothing
      cases reading with
      | false => exact through refused (Or.inl rfl)
      | true =>
          apply goes_compute came _ (by push_cast; rfl) bytes
          exact through _ (Or.inr ⟨rfl, bytes⟩)

/-! ### Commands -/

theorem checked_envelope (enveloped : Enveloped device size (requestOf content))
    (fits : device.Fits region) (whole : content.length = size)
    (write : (requestOf content).command = writeCommand)
    (writable : Writable device world (requestOf content)) (same : world.buffer = content) :
    Accepted device region size content where
  whole := whole
  command := write
  some := enveloped.some
  room := enveloped.room
  inside := by
    have inside := enveloped.inside
    rw [writable.length] at inside
    exact inside
  allowed := writable.allowed
  grouped := writable.some
  reliable := writable.reliable
  frames := by
    intro index below
    have frame := writable.frames index below
    rw [same] at frame
    exact frame
  few := fits.reliable
  fits := fits.region

/-- The copy of a request, and the cleared buffer. -/
theorem goes_move (fresh : Fresh device size content world) (high : size ≤ bufferSize)
    (fits : device.Fits region) (enveloped : Enveloped device size (requestOf content))
    (same : world.buffer = content)
    (passed : if (requestOf content).command = readCommand then
        Readable device size content (requestOf content)
      else Writable device world (requestOf content)) :
    Goes device region size (move size (requestOf content)) (Through device size content)
      world := by
  have whole : content.length = size := by
    rw [← same]
    exact fresh.length
  have kept := fresh.history
  have inside := enveloped.inside
  generalize counted : (if (requestOf content).command = readCommand then frameSize
    else (requestOf content).length) = length
  have room : (requestOf content).offset + length ≤ size := by
    rw [← counted]
    split
    · rename_i read
      rw [if_pos read] at passed
      exact passed.room
    · exact inside
  unfold move
  dsimp only
  rw [counted]
  apply goes_malloc kept
  intro works memory long
  apply wp_ite
  · intro _
    have allocated : History device size
        (⟨world.buffer, memory, world.writeFailed, world.log⟩ : World).log := kept
    apply goes_memcpy allocated room (Nat.le_of_eq long.symm)
    have copy : overwrite memory 0
        (part world.buffer (requestOf content).offset ((requestOf content).offset + length)) =
        part content (requestOf content).offset ((requestOf content).offset + length) := by
      rw [same, overwrite_whole]
      rw [Bytes.part_within (by rw [whole]; exact room), long]
      omega
    generalize copied : overwrite memory 0
      (part world.buffer (requestOf content).offset ((requestOf content).offset + length)) = request
    have cleaning : History device size
        (⟨world.buffer, request, world.writeFailed, world.log⟩ : World).log := kept
    apply goes_memset cleaning (by omega)
    rw [copied] at copy
    have cleared : (overwrite world.buffer 0 (zeros size)).length = size := by
      rw [Bytes.overwrite_length (by rw [zeros_length, fresh.length]; omega)]
      exact fresh.length
    apply wp_ite
    · intro read
      rw [if_pos read] at passed counted
      apply goes_readTransfer _ high fits enveloped passed whole
      · show request = _
        rw [copy, counted]
      · exact ⟨⟨kept, cleared, fresh.latest⟩, fresh.flagged, fresh.nothing, fresh.quiet⟩
    · intro other
      rw [if_neg other] at passed counted
      have write : (requestOf content).command = writeCommand := by
        rcases enveloped.command with read | write
        · exact absurd read other
        · exact write
      have accepted := checked_envelope enveloped fits whole write passed same
      have clean : ∀ event ∈ world.log, event.fails = false := by
        intro event member
        cases fails : event.fails with
        | false => rfl
        | true =>
            have flag := fresh.flagged ⟨event, member, fails⟩
            rw [passed.unfailed] at flag
            cases flag
      have writing : Writing device size content 0
          ⟨overwrite world.buffer 0 (zeros size), request, world.writeFailed, world.log⟩ := by
        refine ⟨⟨kept, cleared, fresh.latest⟩, ?_, clean, ?_⟩
        · show request = _
          rw [copy, ← counted, passed.length, framesOf]
        · show written world.log = _
          rw [fresh.nothing, Nat.zero_mul, Nat.zero_mul]
          rfl
      have first := goes_writeTransfer accepted high (requestOf content).count 0 writing (by omega)
        (fun _ => rfl) (Or.inl rfl)
      rw [Nat.zero_mul] at first
      exact first
  · intro _
    exact ⟨⟨kept, fresh.length, fresh.latest⟩, fresh.flagged, finished_nothing fresh.nothing,
      fun _ => rfl, Or.inl rfl⟩

theorem goes_handle (fresh : Fresh device size content world) (low : 40 ≤ size)
    (high : size ≤ bufferSize) (fits : device.Fits region) (same : world.buffer = content) :
    Goes device region size (handle device size (requestOf content)) (Through device size content)
      world := by
  have kept := fresh.history
  apply wp_seq
  apply wp_returned (goes_envelope kept low high)
  intro bad after ⟨unchanged, enveloped⟩
  rw [unchanged]
  cases bad with
  | true => exact fresh.refused
  | false =>
      have enveloped := enveloped rfl
      apply wp_seq
      apply goes_peek kept high enveloped
      apply wp_seq
      have tested : Goes device region size (checked device size (requestOf content))
          (Passes (if (requestOf content).command = readCommand then
              Readable device size content (requestOf content)
            else Writable device world (requestOf content)) world) world := by
        rw [checked]
        apply wp_ite
        · intro read
          rw [if_pos read, ← same]
          exact goes_readFrame kept fits.sectors high (same ▸ enveloped)
        · intro write
          rw [if_neg write]
          exact goes_writeRefused kept fits.sectors high enveloped
      apply wp_returned tested
      intro bad after ⟨unchanged, passed⟩
      rw [unchanged]
      cases bad with
      | true => exact fresh.refused
      | false => exact goes_move fresh high fits enveloped same (passed rfl)

/-! ### Replies -/

/-- The command is done and its reply stands in the buffer. -/
structure Done (device : Device) (size : Nat) (content : Bytes) (world : World) : Prop
    extends Serving device size content world where
  flagged : (∃ event ∈ world.log, event.fails = true) → world.writeFailed = true
  finished : Finished world.log
  replies : Replies device size content world.buffer world.log

theorem zeros_add (front rest : Nat) :
    zeros (front + rest : Nat) = zeros front ++ zeros rest := by
  simp only [zeros, Int.toNat_natCast, List.replicate_add]

/-- A word over the first zeros behind a front. -/
theorem put_next (front : Bytes) {place rest : Nat} (value : Nat) (length : front.length = place) :
    overwrite (front ++ zeros (4 + rest : Nat)) place (little 4 value) =
      front ++ little 4 value ++ zeros rest := by
  have width := zeros_length 4
  rw [zeros_add, ← List.append_assoc, overwrite, Bytes.little_length, List.drop_left',
    List.append_assoc, List.take_left' length, List.append_assoc]
  rw [List.length_append, length, width]

theorem cleared_whole {buffer : Bytes} (whole : buffer.length = size) :
    overwrite buffer 0 (zeros size) = [] ++ zeros size := by
  rw [List.nil_append]
  apply overwrite_whole
  rw [zeros_length, whole]

/-- The words of a refusal over a cleared buffer. -/
theorem refused_words {buffer : Bytes} (whole : buffer.length = size) (low : 40 ≤ size)
    (command version : Nat) :
    overwrite (overwrite (overwrite (overwrite (overwrite (overwrite buffer 0 (zeros size))
      0 (little 4 command)) 4 (little 4 0xffffffff)) 8 (little 4 0)) 12 (little 4 0))
      16 (little 4 version) =
      words [command, 0xffffffff, 0, 0, version] ++ zeros (size - 20 : Nat) := by
  have width := Bytes.little_length 4
  obtain ⟨rest, rfl⟩ : ∃ rest, size = 4 + (4 + (4 + (4 + (4 + rest)))) := ⟨size - 20, by omega⟩
  rw [cleared_whole whole, put_next [] command List.length_nil,
    put_next _ 0xffffffff (by simp [width]), put_next _ 0 (by simp [width]), put_next _ 0 (by simp [width]),
    put_next _ version (by simp [width])]
  have left : 4 + (4 + (4 + (4 + (4 + rest)))) - 20 = rest := by omega
  simp [words, left]

theorem init_words {buffer : Bytes} (whole : buffer.length = size) (low : 40 ≤ size) :
    overwrite (overwrite (overwrite (overwrite buffer 0 (zeros size))
      0 (little 4 initCommand)) 4 (little 4 2)) 8 (little 4 0xffffffff) =
      words [initCommand, 2, 0xffffffff] ++ zeros (size - 12 : Nat) := by
  have width := Bytes.little_length 4
  obtain ⟨rest, rfl⟩ : ∃ rest, size = 4 + (4 + (4 + rest)) := ⟨size - 12, by omega⟩
  rw [cleared_whole whole, put_next [] initCommand List.length_nil,
    put_next _ 2 (by simp [width]), put_next _ 0xffffffff (by simp [width])]
  have left : 4 + (4 + (4 + rest)) - 12 = rest := by omega
  simp [words, left]

theorem put_length {data : Bytes} {place value : Nat} (inside : place + 4 ≤ data.length) :
    (overwrite data place (little 4 value)).length = data.length := by
  apply Bytes.overwrite_length
  rw [Bytes.little_length]
  exact inside

theorem le32_put {data : Bytes} {place value : Nat} (inside : place + 4 ≤ data.length)
    (fits : value < 2 ^ 32) : le32 (overwrite data place (little 4 value)) place = value := by
  have written : part (overwrite data place (little 4 value)) place
      (place + (little 4 value).length) = little 4 value := by
    apply Bytes.part_overwrite
    rw [Bytes.little_length]
    exact inside
  rw [Bytes.little_length] at written
  rw [le32, written, Bytes.fromLittle_little (by exact fits)]

theorem le32_before {data : Bytes} {place value address : Nat} (inside : place + 4 ≤ data.length)
    (before : address + 4 ≤ place) :
    le32 (overwrite data place (little 4 value)) address = le32 data address := by
  rw [le32, Bytes.part_overwrite_before (by rw [Bytes.little_length]; exact inside) before, le32]

theorem refusal_length (content : Bytes) (low : 40 ≤ size) :
    (refusal size content).length = size := by
  have width := Bytes.little_length 4
  rw [refusal]
  split
  · simp only [words, List.flatMap_cons, List.flatMap_nil, List.length_append, width,
      List.length_nil, zeros_length]
    omega
  · simp only [words, List.flatMap_cons, List.flatMap_nil, List.length_append, width,
      List.length_nil, zeros_length]
    omega

theorem goes_clear {α : Type} {buffer request : Bytes} {flag : Bool} {log : List Event}
    {length : Nat} {next : Unit → Script α} {returned : α → World → Prop}
    (kept : History device size log) (inside : length ≤ size)
    (behind : Goes device region size (next ()) returned
      ⟨overwrite buffer 0 (zeros length), request, flag, log⟩) :
    Goes device region size ((act (.memset 0 length)).bind next) returned
      ⟨buffer, request, flag, log⟩ :=
  goes_memset kept (by omega) behind

theorem goes_put {α : Type} {buffer request : Bytes} {flag : Bool} {log : List Event}
    {place value : Nat} {next : Unit → Script α} {returned : α → World → Prop}
    (kept : History device size log) (inside : place + 4 ≤ size) (fits : value < 2 ^ 32)
    (behind : Goes device region size (next ()) returned
      ⟨overwrite buffer place (little 4 value), request, flag, log⟩) :
    Goes device region size ((act (.put32 place value)).bind next) returned
      ⟨buffer, request, flag, log⟩ :=
  goes_put32 kept inside fits behind

/-- The words of a reply, one after the other. -/
theorem goes_words {buffer request : Bytes} {flag : Bool} {log : List Event}
    {first second third fourth fifth : Nat} {returned : Unit → World → Prop}
    (kept : History device size log) (low : 40 ≤ size)
    (fits : first < 2 ^ 32 ∧ second < 2 ^ 32 ∧ third < 2 ^ 32 ∧ fourth < 2 ^ 32 ∧ fifth < 2 ^ 32)
    (behind : returned () ⟨overwrite (overwrite (overwrite (overwrite (overwrite buffer
      0 (little 4 first)) 4 (little 4 second)) 8 (little 4 third)) 12 (little 4 fourth))
      16 (little 4 fifth), request, flag, log⟩) :
    Goes device region size (do
      act (.put32 0 first)
      act (.put32 4 second)
      act (.put32 8 third)
      act (.put32 12 fourth)
      act (.put32 16 fifth)) returned ⟨buffer, request, flag, log⟩ := by
  apply goes_put kept (by omega) fits.1
  apply goes_put kept (by omega) fits.2.1
  apply goes_put kept (by omega) fits.2.2.1
  apply goes_put kept (by omega) fits.2.2.2.1
  exact ⟨⟨⟨by omega, fits.2.2.2.2⟩, kept⟩, fun _ => behind⟩

theorem goes_finish {outcome : Outcome} (through : Through device size content outcome world)
    (other : (requestOf content).command ≠ initCommand) (low : 40 ≤ size) :
    Goes device region size (finish size (requestOf content) outcome)
      (fun _ => Done device size content) world := by
  have kept := through.history
  have command : (requestOf content).command < 2 ^ 32 := le32_lt content 0
  have version : (requestOf content).version < 2 ^ 32 := le32_lt content 16
  have behind := through.latest
  have flagged := through.flagged
  have finished := through.finished
  have quiet := through.quiet
  rcases world with ⟨buffer, request, flag, log⟩
  have whole : buffer.length = size := through.length
  rcases through.outcome with rejected | ⟨done, bounded⟩
  · rw [rejected]
    apply goes_clear kept (Nat.le_refl size)
    apply goes_words kept low ⟨command, by decide, by decide, by decide, version⟩
    have answer := refused_words whole low (requestOf content).command (requestOf content).version
    have same : refusal size content =
        words [(requestOf content).command, 0xffffffff, 0, 0, (requestOf content).version] ++
          zeros (size - 20 : Nat) := by
      rw [refusal, if_neg other]
    rw [← same] at answer
    have exact_ := refusal_length content low
    constructor
    · constructor
      · exact kept
      · exact (congrArg List.length answer).trans exact_
      · exact behind
    · exact flagged
    · exact finished
    · exact ⟨(congrArg List.length answer).trans exact_, fun _ => answer, fun _ => answer⟩
  · have sum : finish size (requestOf content) outcome = (do
        act (.memset 0 20)
        act (.put32 0 (requestOf content).command)
        act (.put32 4 0)
        act (.put32 8 outcome.length)
        act (.put32 12 20)
        act (.put32 16 (requestOf content).version)) := by
      rw [finish, done]
      rfl
    rw [sum]
    apply goes_clear kept (by omega)
    apply goes_words kept low ⟨command, by decide, bounded, by decide, version⟩
    have cleared : (overwrite buffer 0 (zeros (20 : Nat))).length = size := by
      rw [Bytes.overwrite_length (by rw [zeros_length, whole]; omega)]
      exact whole
    generalize overwrite buffer 0 (zeros (20 : Nat)) = clear at cleared ⊢
    have one : (overwrite clear 0 (little 4 (requestOf content).command)).length = size := by
      rw [put_length (by omega)]
      exact cleared
    generalize overwrite clear 0 (little 4 (requestOf content).command) = first at one ⊢
    have two : (overwrite first 4 (little 4 0)).length = size := by
      rw [put_length (by omega)]
      exact one
    have status : le32 (overwrite first 4 (little 4 0)) 4 = 0 := le32_put (by omega) (by decide)
    generalize overwrite first 4 (little 4 0) = second at two status ⊢
    have three : (overwrite second 8 (little 4 outcome.length)).length = size := by
      rw [put_length (by omega)]
      exact two
    have four : (overwrite (overwrite second 8 (little 4 outcome.length)) 12
        (little 4 20)).length = size := by
      rw [put_length (by omega)]
      exact three
    have five : (overwrite (overwrite (overwrite second 8 (little 4 outcome.length)) 12
        (little 4 20)) 16 (little 4 (requestOf content).version)).length = size := by
      rw [put_length (by omega)]
      exact four
    constructor
    · exact ⟨kept, five, behind⟩
    · exact flagged
    · exact finished
    · constructor
      · exact five
      · intro nothing
        rw [Refused, if_neg other] at nothing
        rw [quiet nothing] at done
        cases done
      · intro failed
        rw [statusOf, if_neg other] at failed
        apply absurd _ failed
        show le32 (overwrite (overwrite (overwrite second 8 (little 4 outcome.length)) 12
          (little 4 20)) 16 (little 4 (requestOf content).version)) 4 = 0
        rw [le32_before (by omega) (by omega), le32_before (by omega) (by omega),
          le32_before (by omega) (by omega)]
        exact status

/-! ### QS_RPMB_INIT -/

theorem goes_dispatchInit {content : Bytes} {world : World}
    (fresh : Fresh device size content world) (fits : device.Fits region)
    (command : (requestOf content).command = initCommand) (low : 40 ≤ size)
    (same : world.buffer = content) :
    Goes device region size (dispatchInit device size) (fun _ => Done device size content)
      world := by
  have kept := fresh.history
  have behind := fresh.latest
  have flagged := fresh.flagged
  have nothing := fresh.nothing
  have sectors := fits.sectors
  have reliable := fits.reliable
  rcases world with ⟨buffer, request, flag, log⟩
  have whole : buffer.length = size := fresh.length
  have words := init_words whole low
  have refusal_init : refusal size content =
      Rpmb.words [initCommand, 2, 0xffffffff] ++ zeros (size - 12 : Nat) := by
    rw [refusal, if_pos command]
  rw [← refusal_init] at words
  have length := refusal_length content low
  have done : ∀ answer : Bytes, answer.length = size →
      (Refused device content log → answer = refusal size content) →
      (statusOf content answer ≠ 0 → answer = refusal size content) →
      Done device size content ⟨answer, request, flag, log⟩ := by
    intro answer long refused failed
    exact ⟨⟨kept, long, behind⟩, flagged, finished_nothing nothing, long, refused, failed⟩
  apply goes_load32 kept (by omega)
  apply goes_clear kept (Nat.le_refl size)
  apply goes_put kept (by omega) (by decide)
  apply goes_put kept (by omega) (by decide)
  apply goes_put kept (by omega) (by decide)
  rw [words]
  have version : le32 buffer 4 = le32 content 4 := congrArg (le32 · 4) same
  rw [version]
  by_cases granted : le32 content 4 = 2 ∧ device.opened = true
  · rw [decide_eq_true granted]
    apply goes_put kept (by omega) (by decide)
    apply goes_put kept (by omega) (by omega)
    apply goes_put kept (by omega) (by omega)
    apply goes_put kept (by omega) (by decide)
    refine ⟨⟨by show 8 + 4 ≤ size; omega, kept⟩, fun _ => ?_⟩
    have one : (overwrite (refusal size content) 8 (little 4 0)).length = size := by
      rw [put_length (by omega)]
      exact length
    have status : le32 (overwrite (refusal size content) 8 (little 4 0)) 8 = 0 :=
      le32_put (by omega) (by decide)
    generalize overwrite (refusal size content) 8 (little 4 0) = first at one status ⊢
    have two : (overwrite first 12 (little 4 device.sectors512)).length = size := by
      rw [put_length (by omega)]
      exact one
    have three : (overwrite (overwrite first 12 (little 4 device.sectors512)) 16
        (little 4 device.reliableFrames)).length = size := by
      rw [put_length (by omega)]
      exact two
    have four : (overwrite (overwrite (overwrite first 12 (little 4 device.sectors512)) 16
        (little 4 device.reliableFrames)) 20 (little 4 9)).length = size := by
      rw [put_length (by omega)]
      exact three
    apply done _ four
    · intro refused
      rw [Refused, if_pos command] at refused
      exact absurd granted refused
    · intro failed
      rw [statusOf, if_pos command] at failed
      apply absurd _ failed
      rw [le32_before (by omega) (by omega), le32_before (by omega) (by omega),
        le32_before (by omega) (by omega)]
      exact status
  · rw [decide_eq_false granted]
    refine ⟨⟨by show 8 + 4 ≤ size; omega, kept⟩, fun _ => ?_⟩
    exact done _ length (fun _ => rfl) (fun _ => rfl)

theorem goes_dispatch (fresh : Fresh device size content world) (fits : device.Fits region)
    (same : world.buffer = content) :
    Goes device region size (dispatch device size)
      (fun served after => if served = true then Done device size content after else after = world)
      world := by
  apply wp_ite
  · intro _
    rfl
  · intro sized
    have low : 40 ≤ size := by omega
    have high : size ≤ bufferSize := by omega
    have kept := fresh.history
    have read : ∀ address, le32 world.buffer address = le32 content address := by
      intro address
      rw [same]
    apply goes_load32 kept (by omega)
    rw [read]
    apply wp_seq
    have served : Goes device region size (serveCommand device size (le32 content 0))
        (fun _ => Done device size content) world := by
      apply wp_ite
      · intro command
        exact goes_dispatchInit fresh fits command low same
      · intro other
        apply wp_seq
        have request : Goes device region size (readRequest (le32 content 0))
            (fun request after => request = requestOf content ∧ after = world) world := by
          apply goes_load32 kept (by omega)
          apply goes_load32 kept (by omega)
          apply goes_load32 kept (by omega)
          apply goes_load32 kept (by omega)
          apply goes_load32 kept (by omega)
          simp only [read]
          exact ⟨rfl, rfl⟩
        apply wp_returned request
        intro words after ⟨known, unchanged⟩
        rw [known, unchanged]
        apply wp_seq
        apply wp_returned (goes_handle fresh low high fits same)
        intro outcome after through
        exact goes_finish through other low
    apply wp_returned served
    intro _ after done
    exact done

end Commands

/-! ### Runs -/

/-- Between two requests. -/
structure Idle (device : Device) (size : Nat) (world : World) : Prop where
  history : History device size world.log
  flagged : (∃ event ∈ world.log, event.fails = true) → world.writeFailed = true

section Runs

variable {device : Device} {region size : Nat}

theorem Done.replied {content : Bytes} {world : World} (done : Done device size content world) :
    Idle device size { world with log := .replied world.buffer :: world.log } where
  history := done.history.other done.finished ⟨content, done.latest, done.replies⟩
  flagged := by
    rintro ⟨event, member, fails⟩
    rcases List.mem_cons.mp member with last | member
    · rw [last] at fails
      cases fails
    · exact done.flagged ⟨event, member, fails⟩

theorem Idle.received {world : World} (idle : Idle device size world) (content : Bytes)
    (whole : content.length = size) : Fresh device size content
      { world with buffer := content, log := .received content :: world.log } where
  history := idle.history.other trivial trivial
  length := whole
  latest := rfl
  flagged := by
    rintro ⟨event, member, fails⟩
    rcases List.mem_cons.mp member with last | member
    · rw [last] at fails
      cases fails
    · exact idle.flagged ⟨event, member, fails⟩
  nothing := rfl
  quiet := rfl

theorem goes_receive {α : Type} {world : World} {next : Unit → Script α}
    {returned : α → World → Prop} (kept : History device size world.log)
    (behind : ∀ content, content.length = size → Goes device region size (next ()) returned
      { world with buffer := content, log := .received content :: world.log }) :
    Goes device region size ((act .receive).bind next) returned world :=
  ⟨⟨trivial, kept⟩, fun fault => behind _ (fit_length size fault.bytes)⟩

theorem goes_serve (fits : device.Fits region) (requests : Nat) {world : World}
    (idle : Idle device size world) :
    Goes device region size (serve device size requests) (fun _ => Idle device size) world := by
  induction requests generalizing world with
  | zero => exact idle
  | succ requests ih =>
      apply goes_receive idle.history
      intro content whole
      have fresh := idle.received content whole
      apply wp_seq
      apply wp_returned (goes_dispatch fresh fits rfl)
      intro served after ended
      apply wp_seq
      cases served with
      | true =>
          have done : Done device size content after := ended
          exact ⟨⟨trivial, done.history⟩, fun _ => ih done.replied⟩
      | false =>
          have unchanged : after = _ := ended
          rw [unchanged]
          exact ih ⟨fresh.history, fresh.flagged⟩

end Runs

/-! ### The device -/

section Opened

variable (attributes : Attributes) (node allowDataWrites : Bool)

theorem openDevice_fits :
    (openDevice attributes node allowDataWrites).Fits attributes.capacity := by
  rw [openDevice]
  by_cases opens : attributes.Supported ∧ node = true
  · rw [if_pos opens]
    have supported := opens.1
    have small : attributes.region0.toNat ≤ 128 := UInt32.le_iff_toNat_le.mp supported.region0.2
    have reliable : attributes.reliable.toNat ≤ 255 :=
      UInt64.le_iff_toNat_le.mp supported.reliable.2
    have sectors : (attributes.region0 * 256).toNat = attributes.region0.toNat * 256 := by
      rw [UInt32.toNat_mul]
      show attributes.region0.toNat * 256 % 2 ^ 32 = _
      omega
    have inside : attributes.region0.toNat * 512 ≤ attributes.blocks.toNat := by
      have bound := UInt64.le_iff_toNat_le.mp supported.inside
      rw [UInt32.toNat_toUInt64, UInt32.toNat_mul] at bound
      have exactly : attributes.region0.toNat * 512 % 2 ^ 32 = attributes.region0.toNat * 512 := by
        omega
      have same : attributes.region0.toNat * (512 : UInt32).toNat % 2 ^ 32 =
          attributes.region0.toNat * 512 := exactly
      rw [same] at bound
      exact bound
    constructor
    · show (attributes.region0 * 256).toNat ≤ 32768
      omega
    · show attributes.reliable.toUInt32.toNat ≤ 255
      rw [UInt64.toNat_toUInt32]
      omega
    · show (attributes.region0 * 256).toNat * 2 ≤ attributes.capacity
      rw [Attributes.capacity]
      omega
  · rw [if_neg opens]
    constructor
    · exact Nat.zero_le _
    · exact Nat.zero_le _
    · exact Nat.zero_le _

variable (size requests : Nat) (buffer : Bytes) {later : Script Unit × World}
  (run : Reaches (machine size)
    (serve (openDevice attributes node allowDataWrites) size requests, World.start buffer) later)

include run

theorem served_safe : Safe
    (Proper (openDevice attributes node allowDataWrites) attributes.capacity size)
    (fun _ _ => False)
    (fun _ => Idle (openDevice attributes node allowDataWrites) size) later := by
  apply wp_sound _ run
  apply goes_serve (openDevice_fits attributes node allowDataWrites) requests
  constructor
  · exact ⟨trivial, trivial⟩
  · rintro ⟨event, member, _⟩
    cases member

theorem served_history :
    History (openDevice attributes node allowDataWrites) size later.2.log := by
  have safe := served_safe attributes node allowDataWrites size requests buffer run
  rcases later with ⟨program, world⟩
  cases program with
  | done value => exact safe.history
  | exit status => exact safe.elim
  | act operation next => exact safe.history

/-- In every run each write goes out at most once, in its order and in groups
that count themselves, and none goes out behind a failure or without leave. -/
theorem writes_once : Once (openDevice attributes node allowDataWrites) later.2.log :=
  (served_history attributes node allowDataWrites size requests buffer run).once

/-- In every run all accesses stay inside, no computation wraps, the frames
address blocks of the region, and what is refused is answered so. -/
theorem requests_inside :
    (∀ operation, later.1.pending = some operation →
      Bounded attributes.capacity size operation later.2) ∧
      Answered (openDevice attributes node allowDataWrites) size later.2.log := by
  constructor
  · intro operation due
    have safe := served_safe attributes node allowDataWrites size requests buffer run
    rcases later with ⟨program, world⟩
    cases program with
    | done value => cases due
    | exit status => cases due
    | act other next =>
        cases due
        exact safe.bounded
  · exact (served_history attributes node allowDataWrites size requests buffer run).answered

end Opened

/-! ### One run -/

/-- A unit of one region of 128 KiB. -/
def sampleUnit : Attributes where
  version := 0x0310
  security := 1
  enabled := 1
  exponent := 8
  blocks := 512
  reliable := 64
  type := 30
  regions := 0x1000000

/-- A frame that writes block 0. -/
def sampleFrame : Bytes := zeros 506 ++ [0, 1, 0, 0, 0, 3]

def sampleRequest : Bytes := words [writeCommand, 1, 512, 24, 7, 1] ++ sampleFrame

/-- The device answers that the write is done. -/
def sampleTransport (_ : Nat) : (operation : Op) → World → Fault
  | .receive, _ => ⟨true, sampleRequest⟩
  | _, _ => ⟨true, zeros 510 ++ [3, 0]⟩

@[irreducible] def sampleRun : Script Unit × World :=
  play (machine 536) sampleTransport 100
    (serve (openDevice sampleUnit true true) 536 1, World.start [])

theorem sample_reached : Reaches (machine 536)
    (serve (openDevice sampleUnit true true) 536 1, World.start []) sampleRun := by
  unfold sampleRun
  exact play_reaches (machine 536) sampleTransport 100 _

theorem sample_log : sampleRun.2.log.length = 5 := by decide +kernel

theorem sample_out : .out true sampleFrame true ∈ sampleRun.2.log := by decide +kernel

theorem sample_once : Once (openDevice sampleUnit true true) sampleRun.2.log ∧
    sampleRun.2.log.length = 5 ∧ .out true sampleFrame true ∈ sampleRun.2.log := by
  have once := writes_once sampleUnit true true 536 1 [] sample_reached
  exact ⟨once, sample_log, sample_out⟩

theorem sample_inside : ((∀ operation, sampleRun.1.pending = some operation →
      Bounded sampleUnit.capacity 536 operation sampleRun.2) ∧
      Answered (openDevice sampleUnit true true) 536 sampleRun.2.log) ∧
    sampleUnit.capacity = 512 ∧ sampleRun.2.log.length = 5 := by
  have inside := requests_inside sampleUnit true true 536 1 [] sample_reached
  exact ⟨inside, by decide +kernel, sample_log⟩

end Liuqin.Rpmb
