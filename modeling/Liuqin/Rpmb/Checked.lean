/-
What the checks of a request leave of it.

They read the buffer and compute, and change nothing, so their rules keep the
world.  Each check that lets a request pass says what holds of it then.
-/

import Liuqin.Rpmb.History

namespace Liuqin.Rpmb

open Liuqin.Library Liuqin.Library.Program
open Library.Bytes (part overwrite little fromLittle fromLittle_lt fromBig zeros)

/-! ### Words -/

theorem le32_lt (data : Bytes) (address : Nat) : le32 data address < 2 ^ 32 := by
  have bound := fromLittle_lt (part data address (address + 4))
  have short : (part data address (address + 4)).length ≤ 4 := by
    rw [Bytes.part_length]
    omega
  have power : 256 ^ (part data address (address + 4)).length ≤ 256 ^ 4 :=
    Nat.pow_le_pow_right (by decide) short
  have top : (256 : Nat) ^ 4 = 2 ^ 32 := by decide
  rw [le32]
  omega

theorem be16_lt (data : Bytes) (address : Nat) : be16 data address < 65536 := by
  have bound := fromLittle_lt (part data address (address + 2)).reverse
  have short : (part data address (address + 2)).reverse.length ≤ 2 := by
    rw [List.length_reverse, Bytes.part_length]
    omega
  have power : 256 ^ (part data address (address + 2)).reverse.length ≤ 256 ^ 2 :=
    Nat.pow_le_pow_right (by decide) short
  rw [be16, fromBig]
  omega

/-- What a part of the data holds at a place in it. -/
theorem be16_part (data : Bytes) {start stop place : Nat} (within : start + place + 2 ≤ stop) :
    be16 (part data start stop) place = be16 data (start + place) := by
  rw [be16, Bytes.part_part data (by omega), be16, Nat.add_assoc]

theorem zeros_length (count : Nat) : (zeros count).length = count := by
  rw [zeros, List.length_replicate, Int.toNat_natCast]

theorem fit_length (length : Nat) (bytes : Bytes) : (fit length bytes).length = length := by
  rw [fit, List.length_append, List.length_take, zeros_length]
  omega

/-! ### Rules -/

structure History (device : Device) (size : Nat) (log : List Event) : Prop where
  once : Once device log
  answered : Answered device size log

structure Proper (device : Device) (region size : Nat) (operation : Op) (world : World) : Prop where
  bounded : Bounded region size operation world
  history : History device size world.log

abbrev Goes {α : Type} (device : Device) (region size : Nat) (program : Script α)
    (returned : α → World → Prop) (world : World) : Prop :=
  wp (machine size) (Proper device region size) (fun _ _ => False) program returned world

section Rules

variable {α : Type} {device : Device} {region size : Nat} {world : World}
  {returned : α → World → Prop} {decided : Bool → World → Prop}

theorem goes_either {first second : Script Bool}
    (holds : Goes device region size first (fun yes after =>
      if yes = true then decided true after else Goes device region size second decided after)
      world) :
    Goes device region size (either first second) decided world := by
  apply wp_seq
  apply wp_returned holds
  intro yes after known
  cases yes with
  | true => exact known
  | false => exact known

theorem goes_both {first second : Script Bool}
    (holds : Goes device region size first (fun yes after =>
      if yes = true then Goes device region size second decided after else decided false after)
      world) :
    Goes device region size (both first second) decided world := by
  apply wp_seq
  apply wp_returned holds
  intro yes after known
  cases yes with
  | true => exact known
  | false => exact known

section Tests

variable {condition : Prop} [Decidable condition]

theorem goes_test (positive : condition → decided true world)
    (negative : ¬condition → decided false world) :
    Goes device region size (test condition) decided world := by
  show decided (decide condition) world
  by_cases holds : condition
  · rw [decide_eq_true holds]
    exact positive holds
  · rw [decide_eq_false holds]
    exact negative holds

theorem goes_or {second : Script Bool} (positive : condition → decided true world)
    (negative : ¬condition → Goes device region size second decided world) :
    Goes device region size (either (test condition) second) decided world := by
  apply goes_either
  apply goes_test
  · intro holds
    exact positive holds
  · intro fails
    exact negative fails

theorem goes_and {second : Script Bool}
    (positive : condition → Goes device region size second decided world)
    (negative : ¬condition → decided false world) :
    Goes device region size (both (test condition) second) decided world := by
  apply goes_both
  apply goes_test
  · intro holds
    exact positive holds
  · intro fails
    exact negative fails

end Tests

section Operations

variable (kept : History device size world.log)

include kept

theorem goes_load32 {address : Nat} {next : Nat → Script α} (inside : address + 4 ≤ size)
    (behind : Goes device region size (next (le32 world.buffer address)) returned world) :
    Goes device region size ((act (.load32 address)).bind next) returned world :=
  ⟨⟨inside, kept⟩, fun _ => behind⟩

theorem goes_load16 {address : Nat} {next : Nat → Script α} (inside : address + 2 ≤ size)
    (behind : Goes device region size (next (be16 world.buffer address)) returned world) :
    Goes device region size ((act (.load16 address)).bind next) returned world :=
  ⟨⟨inside, kept⟩, fun _ => behind⟩

/-- A computation that does not wrap answers its exact result. -/
theorem goes_compute {width : Nat} {exact : Int} {next : Nat → Script α} (value : Nat)
    (same : exact = value) (fits : value < 2 ^ width)
    (behind : Goes device region size (next value) returned world) :
    Goes device region size ((act (.compute width exact)).bind next) returned world := by
  have below : exact < 2 ^ width := by
    rw [same]
    exact_mod_cast fits
  have answer : (exact % 2 ^ width).toNat = value := by
    rw [Int.emod_eq_of_lt (by omega) below, same, Int.toNat_natCast]
  refine ⟨⟨⟨by omega, below⟩, kept⟩, fun _ => ?_⟩
  show Goes device region size (next (exact % 2 ^ width).toNat) returned world
  rw [answer]
  exact behind

theorem goes_memset {address length : Nat} {next : Unit → Script α}
    (inside : address + length ≤ size)
    (behind : Goes device region size (next ()) returned
      { world with buffer := overwrite world.buffer address (zeros length) }) :
    Goes device region size ((act (.memset address length)).bind next) returned world :=
  ⟨⟨inside, kept⟩, fun _ => behind⟩

theorem goes_put32 {address value : Nat} {next : Unit → Script α}
    (inside : address + 4 ≤ size) (fits : value < 2 ^ 32)
    (behind : Goes device region size (next ()) returned
      { world with buffer := overwrite world.buffer address (little 4 value) }) :
    Goes device region size ((act (.put32 address value)).bind next) returned world :=
  ⟨⟨⟨inside, fits⟩, kept⟩, fun _ => behind⟩

theorem goes_setFailed {next : Unit → Script α}
    (behind : Goes device region size (next ()) returned { world with writeFailed := true }) :
    Goes device region size ((act .setFailed).bind next) returned world :=
  ⟨⟨trivial, kept⟩, fun _ => behind⟩

theorem goes_malloc {length : Nat} {next : Bool → Script α}
    (behind : ∀ works fresh, fresh.length = length →
      Goes device region size (next works) returned { world with request := fresh }) :
    Goes device region size ((act (.malloc length)).bind next) returned world :=
  ⟨⟨trivial, kept⟩, fun fault => behind fault.works _ (fit_length length fault.bytes)⟩

theorem goes_memcpy {address length : Nat} {next : Unit → Script α}
    (inside : address + length ≤ size) (room : length ≤ world.request.length)
    (behind : Goes device region size (next ()) returned { world with
      request := overwrite world.request 0 (part world.buffer address (address + length)) }) :
    Goes device region size ((act (.memcpy address length)).bind next) returned world :=
  ⟨⟨⟨inside, room⟩, kept⟩, fun _ => behind⟩

theorem goes_out {write : Bool} {address length span : Nat} {next : Bool → Script α}
    (bounded : Bounded region size (.out write address length span) world)
    (behind : ∀ works, Goes device region size (next works) returned { world with
      log := .out write (part world.request address (address + length)) works :: world.log }) :
    Goes device region size ((act (.out write address length span)).bind next) returned world :=
  ⟨⟨bounded, kept⟩, fun fault => behind fault.works⟩

theorem goes_asked {next : Bool → Script α}
    (behind : ∀ works, Goes device region size (next works) returned
      { world with log := .asked works :: world.log }) :
    Goes device region size ((act .ask).bind next) returned world :=
  ⟨⟨trivial, kept⟩, fun fault => behind fault.works⟩

theorem goes_into {write : Bool} {address length : Nat} {next : Bool → Script α}
    (inside : address + length ≤ size)
    (behind : ∀ works frames, frames.length = length →
      Goes device region size (next works) returned { world with
        buffer := overwrite world.buffer address frames
        log := .into write frames works :: world.log }) :
    Goes device region size ((act (.into write address length)).bind next) returned world :=
  ⟨⟨inside, kept⟩, fun fault => behind fault.works _ (fit_length length fault.bytes)⟩

end Operations

end Rules

/-! ### The envelope -/

structure Enveloped (device : Device) (size : Nat) (request : Request) : Prop where
  opened : device.opened = true
  command : request.command = readCommand ∨ request.command = writeCommand
  some : 0 < request.count
  room : 24 + request.count * frameSize ≤ size
  behind : 24 ≤ request.offset
  inside : request.offset + request.length ≤ size

section Checks

variable {device : Device} {region size : Nat} {world : World} {request : Request}

/-- The check leaves the world alone, and where it lets pass a fact holds. -/
def Passes (fact : Prop) (world : World) (bad : Bool) (after : World) : Prop :=
  after = world ∧ (bad = false → fact)

theorem passes_bad (fact : Prop) (world : World) : Passes fact world true world := by
  constructor
  · rfl
  · intro good
    cases good

theorem passes_good {fact : Prop} (holds : fact) (world : World) :
    Passes fact world false world := ⟨rfl, fun _ => holds⟩

variable (kept : History device size world.log)

include kept

theorem goes_envelope (low : 40 ≤ size) (high : size ≤ bufferSize) :
    Goes device region size (envelope device size request)
      (Passes (Enveloped device size request) world) world := by
  have top : bufferSize = 25600 := rfl
  have frame : frameSize = 512 := rfl
  apply goes_or
  · intro _
    exact passes_bad _ _
  intro opened
  apply goes_or
  · intro _
    exact passes_bad _ _
  intro command
  apply goes_or
  · intro _
    exact passes_bad _ _
  intro some
  apply goes_either
  apply goes_compute kept (size - 24) (by omega) (by omega)
  apply goes_test
  · intro _
    exact passes_bad _ _
  intro room
  apply goes_or
  · intro _
    exact passes_bad _ _
  intro behind
  apply goes_or
  · intro _
    exact passes_bad _ _
  intro inside
  apply goes_compute kept (size - request.offset) (by omega) (by omega)
  apply goes_test
  · intro _
    exact passes_bad _ _
  intro length
  apply passes_good
  constructor
  · cases known : device.opened with
    | true => rfl
    | false => exact absurd known opened
  · by_cases read : request.command = readCommand
    · exact Or.inl read
    · by_cases write : request.command = writeCommand
      · exact Or.inr write
      · exact absurd ⟨read, write⟩ command
  · omega
  · have bound : request.count ≤ (size - 24) / frameSize := by omega
    have multiple := (Nat.le_div_iff_mul_le (by decide)).mp bound
    omega
  · omega
  · omega

theorem goes_peek (high : size ≤ bufferSize) (enveloped : Enveloped device size request)
    {returned : Unit → World → Prop} (behind : returned () world) :
    Goes device region size (peek size request) returned world := by
  have top : bufferSize = 25600 := rfl
  have frame : frameSize = 512 := rfl
  have inside := enveloped.inside
  apply wp_seq
  apply goes_and
  · intro long
    apply goes_compute kept (size - request.offset) (by omega) (by omega)
    apply goes_test
    · intro room
      rw [if_pos rfl]
      apply goes_load16 kept (by omega)
      apply goes_load16 kept (by omega)
      exact behind
    · intro _
      exact behind
  · intro _
    exact behind

theorem goes_outside (wide : device.sectors512 ≤ 32768) {frame blocks : Nat}
    (room : frame + frameSize ≤ size) (few : blocks ≤ 65536) :
    Goes device region size (outside device frame blocks)
      (Passes (be16 world.buffer (frame + 504) + blocks ≤ device.sectors512 * 2) world) world := by
  have width : frameSize = 512 := rfl
  have short := be16_lt world.buffer (frame + 504)
  apply goes_load16 kept (by omega)
  apply goes_compute kept (be16 world.buffer (frame + 504) + blocks) (by push_cast; rfl) (by omega)
  apply goes_compute kept (device.sectors512 * 2) (by push_cast; rfl) (by omega)
  apply goes_test
  · intro _
    exact passes_bad _ _
  · intro within
    exact passes_good (not_lt.mp within) _

end Checks

/-! ### Reads -/

/-- What the frame of a read that passes says. -/
structure Readable (device : Device) (size : Nat) (content : Bytes) (request : Request) : Prop where
  few : request.count ≤ device.reliableFrames
  room : request.offset + frameSize ≤ size
  type : be16 content (request.offset + 510) = 2 ∨ be16 content (request.offset + 510) = 4
  blocks : be16 content (request.offset + 510) = 4 →
    be16 content (request.offset + 506) ≤ request.count ∧
      be16 content (request.offset + 504) + request.count ≤ device.sectors512 * 2

/-- What frame `index` of a write that passes says. -/
structure WriteFrame (device : Device) (content : Bytes) (request : Request) (index : Nat) :
    Prop where
  type : be16 content (request.offset + index * frameSize + 510) = 3
  blocks : be16 content (request.offset + index * frameSize + 506) =
    min (request.count - index / request.reliable * request.reliable) request.reliable
  inside : be16 content (request.offset + index * frameSize + 504) +
    min (request.count - index / request.reliable * request.reliable) request.reliable ≤
      device.sectors512 * 2

structure Writable (device : Device) (world : World) (request : Request) : Prop where
  allowed : device.allowDataWrites = true
  unfailed : world.writeFailed = false
  some : 0 < request.reliable
  reliable : request.reliable ≤ device.reliableFrames
  length : request.length = request.count * frameSize
  frames : ∀ index < request.count, WriteFrame device world.buffer request index

section Checks

variable {device : Device} {region size : Nat} {world : World} {request : Request}
  (kept : History device size world.log) (wide : device.sectors512 ≤ 32768)

include kept wide

theorem goes_readFrame (high : size ≤ bufferSize) (enveloped : Enveloped device size request) :
    Goes device region size (readFrame device size request)
      (Passes (Readable device size world.buffer request) world) world := by
  have top : bufferSize = 25600 := rfl
  have frame : frameSize = 512 := rfl
  have inside := enveloped.inside
  have counted : 24 + request.count * 512 ≤ size := enveloped.room
  apply goes_or
  · intro _
    exact passes_bad _ _
  intro many
  have few : request.count ≤ device.reliableFrames := not_lt.mp many
  apply goes_either
  apply goes_compute kept (size - request.offset) (by omega) (by omega)
  apply goes_test
  · intro _
    exact passes_bad _ _
  intro room
  have fits : request.offset + frameSize ≤ size := by omega
  -- behind the test of the length
  have rest : Goes device region size (do
      let type ← act (.load16 (request.offset + 510))
      either (test ((type ≠ 2 ∧ type ≠ 4) ∨ (type = 2 ∧ request.count ≠ 1))) (do
        let blocks ← act (.load16 (request.offset + 506))
        both (test (type = 4)) <|
          either (test (blocks ≠ 0 ∧ blocks ≠ request.count))
            (outside device request.offset request.count)))
      (Passes (Readable device size world.buffer request) world) world := by
    apply goes_load16 kept (by omega)
    apply goes_or
    · intro _
      exact passes_bad _ _
    intro known
    have type : be16 world.buffer (request.offset + 510) = 2 ∨
        be16 world.buffer (request.offset + 510) = 4 := by
      have tested := (not_or.mp known).1
      by_contra neither
      exact tested (not_or.mp neither)
    apply goes_load16 kept (by omega)
    apply goes_and
    · intro data
      apply goes_or
      · intro _
        exact passes_bad _ _
      intro blocks
      apply wp_returned (goes_outside kept wide fits (by omega))
      intro bad after ⟨same, within⟩
      rw [same]
      cases bad with
      | true => exact passes_bad _ _
      | false =>
          apply passes_good
          have last := within rfl
          constructor
          · omega
          · exact fits
          · exact type
          · intro _
            constructor
            · by_cases zero : be16 world.buffer (request.offset + 506) = 0
              · omega
              · have same : be16 world.buffer (request.offset + 506) = request.count := by
                  by_contra other
                  exact blocks ⟨zero, other⟩
                omega
            · exact last
    · intro other
      apply passes_good
      constructor
      · omega
      · exact fits
      · exact type
      · intro data
        exact absurd data other
  apply goes_either
  apply goes_and
  · intro _
    apply goes_compute kept (request.count * 256) (by push_cast; rfl) (by omega)
    apply goes_test
    · intro _
      exact passes_bad _ _
    · intro _
      exact rest
  · intro _
    exact rest

/-! ### Writes -/

theorem goes_writeFrames (high : size ≤ bufferSize) (enveloped : Enveloped device size request)
    (some : 0 < request.reliable) (length : request.length = request.count * frameSize)
    (left index : Nat) (sum : index + left = request.count) :
    Goes device region size (writeFrames device request left index)
      (Passes (∀ later, index ≤ later → later < request.count →
        WriteFrame device world.buffer request later) world) world := by
  have top : bufferSize = 25600 := rfl
  have width : frameSize = 512 := rfl
  have inside := enveloped.inside
  have many : 24 + request.count * 512 ≤ size := enveloped.room
  induction left generalizing index with
  | zero =>
      apply passes_good
      intro later from_ below
      omega
  | succ left ih =>
      have earlier : index / request.reliable * request.reliable ≤ index :=
        Nat.div_mul_le_self _ _
      have place : request.offset + index * frameSize + frameSize ≤ size := by
        rw [width] at length ⊢
        omega
      apply goes_compute kept (index * frameSize) (by push_cast; rfl) (by omega)
      apply goes_compute kept (index / request.reliable * request.reliable) rfl (by omega)
      apply goes_compute kept (request.count - index / request.reliable * request.reliable)
        (by omega) (by omega)
      have least : (if request.count - index / request.reliable * request.reliable <
            request.reliable then
          request.count - index / request.reliable * request.reliable else request.reliable) =
          min (request.count - index / request.reliable * request.reliable) request.reliable := by
        split <;> omega
      simp only [least]
      generalize grouped : min (request.count - index / request.reliable * request.reliable)
        request.reliable = group
      have few : group ≤ request.count := by omega
      apply wp_seq
      have here : Goes device region size (either (do
            let type ← act (.load16 (request.offset + index * frameSize + 510))
            test (type ≠ 3)) <|
          either (do
            let blocks ← act (.load16 (request.offset + index * frameSize + 506))
            test (blocks ≠ group))
          (outside device (request.offset + index * frameSize) group))
          (Passes (WriteFrame device world.buffer request index) world) world := by
        apply goes_either
        apply goes_load16 kept (by omega)
        apply goes_test
        · intro _
          exact passes_bad _ _
        intro type
        apply goes_either
        apply goes_load16 kept (by omega)
        apply goes_test
        · intro _
          exact passes_bad _ _
        intro blocks
        apply wp_returned (goes_outside kept wide place (by omega))
        intro bad after ⟨same, within⟩
        rw [same]
        cases bad with
        | true => exact passes_bad _ _
        | false =>
            apply passes_good
            constructor
            · exact not_not.mp type
            · rw [grouped]
              exact not_not.mp blocks
            · rw [grouped]
              exact within rfl
      apply wp_returned here
      intro bad after ⟨same, fine⟩
      rw [same]
      cases bad with
      | true => exact passes_bad _ _
      | false =>
          apply goes_compute kept (index + 1) (by push_cast; rfl) (by omega)
          apply wp_returned (ih (index + 1) (by omega))
          intro bad after ⟨unchanged, others⟩
          constructor
          · exact unchanged
          · intro good later from_ below
            by_cases first : later = index
            · rw [first]
              exact fine rfl
            · exact others good later (by omega) below

theorem goes_writeRefused (high : size ≤ bufferSize) (enveloped : Enveloped device size request) :
    Goes device region size (writeRefused device request)
      (Passes (Writable device world request) world) world := by
  have top : bufferSize = 25600 := rfl
  have width : frameSize = 512 := rfl
  have many : 24 + request.count * 512 ≤ size := enveloped.room
  apply goes_or
  · intro _
    exact passes_bad _ _
  intro allowed
  apply goes_either
  refine ⟨⟨trivial, kept⟩, fun _ => ?_⟩
  cases known : world.writeFailed with
  | true =>
      show (if world.writeFailed = true then _ else _)
      rw [if_pos known]
      exact passes_bad _ _
  | false =>
      show (if world.writeFailed = true then _ else _)
      rw [if_neg (by rw [known]; exact Bool.false_ne_true)]
      apply goes_or
      · intro _
        exact passes_bad _ _
      intro some
      apply goes_or
      · intro _
        exact passes_bad _ _
      intro reliable
      apply goes_either
      have bytes : request.count * frameSize < 2 ^ 32 := by
        rw [width]
        omega
      apply goes_compute kept (request.count * frameSize) (by push_cast; rfl) bytes
      apply goes_test
      · intro _
        exact passes_bad _ _
      intro length
      have exactly : request.length = request.count * frameSize := not_not.mp length
      apply wp_returned (goes_writeFrames kept wide high enveloped (by omega) exactly
        request.count 0 (by omega))
      intro bad after ⟨same, frames⟩
      rw [same]
      cases bad with
      | true => exact passes_bad _ _
      | false =>
          apply passes_good
          constructor
          · cases open_ : device.allowDataWrites with
            | true => rfl
            | false => exact absurd open_ allowed
          · exact known
          · omega
          · omega
          · exact exactly
          · intro index below
            exact frames rfl index (by omega) below

end Checks

end Liuqin.Rpmb
