/-
Two programs that meet only in what each can learn of the other.

Each side runs on its own machine.  A link says which answers a side can get
while the other side is in a given state, and either side may stop before any
of its operations.  Whatever the schedule, each side's own run is a run on its
own machine, and a relation between the two states that every linked step keeps
holds all along.

Two byte streams joined by a pipe are related by a prefix, and messages of one
size are told apart in a stream by counting.
-/

import Liuqin.Library.Program

namespace Liuqin.Library.Parallel

open Liuqin.Library.Program

/-! ### The two sides -/

variable {LeftOp RightOp : Type} {LeftAnswer : LeftOp → Type} {RightAnswer : RightOp → Type}
  {LeftState RightState α β : Type}

structure Duet (LeftAnswer : LeftOp → Type) (RightAnswer : RightOp → Type)
    (α β LeftState RightState : Type) where
  left : Prog LeftAnswer α × LeftState
  right : Prog RightAnswer β × RightState
  leftStopped : Bool
  rightStopped : Bool

/-- Nothing is left to perform. -/
def stopped {Op : Type} {Answer : Op → Type} {γ : Type} : Prog Answer γ → Bool
  | .act _ _ => false
  | _ => true

namespace Duet

def leftOver (duet : Duet LeftAnswer RightAnswer α β LeftState RightState) : Bool :=
  duet.leftStopped || stopped duet.left.1

def rightOver (duet : Duet LeftAnswer RightAnswer α β LeftState RightState) : Bool :=
  duet.rightStopped || stopped duet.right.1

def performLeft (machine : Machine LeftAnswer LeftState) (operation : LeftOp)
    (next : LeftAnswer operation → Prog LeftAnswer α) (fault : machine.Fault operation)
    (duet : Duet LeftAnswer RightAnswer α β LeftState RightState) :
    Duet LeftAnswer RightAnswer α β LeftState RightState :=
  { duet with
    left := (next (machine.perform operation fault duet.left.2).1,
      (machine.perform operation fault duet.left.2).2) }

def performRight (machine : Machine RightAnswer RightState) (operation : RightOp)
    (next : RightAnswer operation → Prog RightAnswer β) (fault : machine.Fault operation)
    (duet : Duet LeftAnswer RightAnswer α β LeftState RightState) :
    Duet LeftAnswer RightAnswer α β LeftState RightState :=
  { duet with
    right := (next (machine.perform operation fault duet.right.2).1,
      (machine.perform operation fault duet.right.2).2) }

end Duet

/-- Which answers are possible, from the two states and whether the other side
is over. -/
structure Link (leftMachine : Machine LeftAnswer LeftState)
    (rightMachine : Machine RightAnswer RightState) where
  left : (operation : LeftOp) → leftMachine.Fault operation → LeftState → RightState → Bool → Prop
  right : (operation : RightOp) → rightMachine.Fault operation → RightState → LeftState → Bool → Prop

variable {leftMachine : Machine LeftAnswer LeftState}
  {rightMachine : Machine RightAnswer RightState}

inductive Step (link : Link leftMachine rightMachine) :
    Duet LeftAnswer RightAnswer α β LeftState RightState →
    Duet LeftAnswer RightAnswer α β LeftState RightState → Prop where
  | left {operation : LeftOp} {next : LeftAnswer operation → Prog LeftAnswer α}
      {duet : Duet LeftAnswer RightAnswer α β LeftState RightState}
      (fault : leftMachine.Fault operation) (running : duet.leftStopped = false)
      (due : duet.left.1 = .act operation next)
      (allowed : link.left operation fault duet.left.2 duet.right.2 duet.rightOver) :
      Step link duet (duet.performLeft leftMachine operation next fault)
  | right {operation : RightOp} {next : RightAnswer operation → Prog RightAnswer β}
      {duet : Duet LeftAnswer RightAnswer α β LeftState RightState}
      (fault : rightMachine.Fault operation) (running : duet.rightStopped = false)
      (due : duet.right.1 = .act operation next)
      (allowed : link.right operation fault duet.right.2 duet.left.2 duet.leftOver) :
      Step link duet (duet.performRight rightMachine operation next fault)
  | stopLeft {duet : Duet LeftAnswer RightAnswer α β LeftState RightState} :
      Step link duet { duet with leftStopped := true }
  | stopRight {duet : Duet LeftAnswer RightAnswer α β LeftState RightState} :
      Step link duet { duet with rightStopped := true }

def Runs (link : Link leftMachine rightMachine) :
    Duet LeftAnswer RightAnswer α β LeftState RightState →
    Duet LeftAnswer RightAnswer α β LeftState RightState → Prop :=
  Relation.ReflTransGen (Step link)

/-! ### Each side by itself -/

section Projection

variable {link : Link leftMachine rightMachine}
  {before after : Duet LeftAnswer RightAnswer α β LeftState RightState}

theorem Step.left_reaches (step : Step link before after) :
    Reaches leftMachine before.left after.left := by
  cases step with
  | left fault running due allowed =>
      have same : before.left = (_, before.left.2) := Prod.ext due rfl
      rw [same]
      exact Relation.ReflTransGen.single (Program.Step.act fault)
  | right fault running due allowed => exact Relation.ReflTransGen.refl
  | stopLeft => exact Relation.ReflTransGen.refl
  | stopRight => exact Relation.ReflTransGen.refl

theorem Step.right_reaches (step : Step link before after) :
    Reaches rightMachine before.right after.right := by
  cases step with
  | left fault running due allowed => exact Relation.ReflTransGen.refl
  | right fault running due allowed =>
      have same : before.right = (_, before.right.2) := Prod.ext due rfl
      rw [same]
      exact Relation.ReflTransGen.single (Program.Step.act fault)
  | stopLeft => exact Relation.ReflTransGen.refl
  | stopRight => exact Relation.ReflTransGen.refl

theorem left_reaches (run : Runs link before after) :
    Reaches leftMachine before.left after.left := by
  induction run with
  | refl => exact Relation.ReflTransGen.refl
  | tail _ step ih => exact ih.trans step.left_reaches

theorem right_reaches (run : Runs link before after) :
    Reaches rightMachine before.right after.right := by
  induction run with
  | refl => exact Relation.ReflTransGen.refl
  | tail _ step ih => exact ih.trans step.right_reaches

/-- A relation between the states that linked steps keep. -/
theorem related {relation : LeftState → RightState → Prop}
    (left : ∀ operation fault leftState rightState gone,
      link.left operation fault leftState rightState gone → relation leftState rightState →
      relation (leftMachine.perform operation fault leftState).2 rightState)
    (right : ∀ operation fault rightState leftState gone,
      link.right operation fault rightState leftState gone → relation leftState rightState →
      relation leftState (rightMachine.perform operation fault rightState).2)
    (run : Runs link before after) (start : relation before.left.2 before.right.2) :
    relation after.left.2 after.right.2 := by
  induction run with
  | refl => exact start
  | tail _ step ih =>
      cases step with
      | left fault running due allowed => exact left _ fault _ _ _ allowed ih
      | right fault running due allowed => exact right _ fault _ _ _ allowed ih
      | stopLeft => exact ih
      | stopRight => exact ih

end Projection

/-! ### A pipe -/

section Pipe

variable {byte : Type} {received sent chunk : List byte}

theorem prefix_written (before : received <+: sent) (more : List byte) :
    received <+: sent ++ more := before.trans (List.prefix_append sent more)

/-- What is read next is the beginning of what is unread. -/
theorem prefix_read (before : received <+: sent) (unread : chunk <+: sent.drop received.length) :
    received ++ chunk <+: sent := by
  obtain ⟨rest, rfl⟩ := before
  rw [List.drop_left] at unread
  exact (List.prefix_append_right_inj received).mpr unread

/-- Messages of one size: a prefix of the streams is a prefix of the messages. -/
theorem messages_prefix {size : Nat} (positive : 0 < size) {short long : List (List byte)}
    (shortSized : ∀ message ∈ short, message.length = size)
    (longSized : ∀ message ∈ long, message.length = size)
    (streams : short.flatten <+: long.flatten) : short <+: long := by
  induction short generalizing long with
  | nil => exact List.nil_prefix
  | cons first rest ih =>
      have firstSized := shortSized first List.mem_cons_self
      cases long with
      | nil =>
          have none := List.prefix_nil.mp streams
          rw [List.flatten_cons, List.append_eq_nil_iff] at none
          rw [none.1, List.length_nil] at firstSized
          omega
      | cons other others =>
          have otherSized := longSized other List.mem_cons_self
          rw [List.flatten_cons, List.flatten_cons] at streams
          have front : first <+: other ++ others.flatten :=
            (List.prefix_append first rest.flatten).trans streams
          have same : first = other := by
            have within := List.prefix_of_prefix_length_le front (List.prefix_append other others.flatten)
              (by omega)
            exact within.eq_of_length (by omega)
          subst same
          have behind := (List.prefix_append_right_inj first).mp streams
          apply (List.prefix_cons_inj first).mpr
          apply ih _ _ behind
          · exact fun message member => shortSized message (List.mem_cons_of_mem first member)
          · exact fun message member => longSized message (List.mem_cons_of_mem first member)

theorem flatten_length {size : Nat} {messages : List (List byte)}
    (sized : ∀ message ∈ messages, message.length = size) :
    messages.flatten.length = size * messages.length := by
  induction messages with
  | nil => rw [List.flatten_nil, List.length_nil, List.length_nil, Nat.mul_zero]
  | cons first rest ih =>
      have behind := ih fun message member => sized message (List.mem_cons_of_mem first member)
      rw [List.flatten_cons, List.length_append, behind, sized first List.mem_cons_self,
        List.length_cons, Nat.mul_succ, Nat.add_comm]

end Pipe

/-! ### Playing a run -/

inductive Turn where
  | left
  | right
  deriving DecidableEq, Repr

section Play

variable (link : Link leftMachine rightMachine)
  (leftFault : (operation : LeftOp) → LeftState → RightState → leftMachine.Fault operation)
  (rightFault : (operation : RightOp) → RightState → LeftState → rightMachine.Fault operation)
  [∀ operation fault left right gone, Decidable (link.left operation fault left right gone)]
  [∀ operation fault right left gone, Decidable (link.right operation fault right left gone)]

/-- The side whose turn it is performs its operation, when its answer is
possible. -/
def turn (duet : Duet LeftAnswer RightAnswer α β LeftState RightState) :
    Turn → Duet LeftAnswer RightAnswer α β LeftState RightState
  | .left =>
      match duet.left.1 with
      | .act operation next =>
          let fault := leftFault operation duet.left.2 duet.right.2
          if duet.leftStopped = false ∧
              link.left operation fault duet.left.2 duet.right.2 duet.rightOver then
            duet.performLeft leftMachine operation next fault
          else duet
      | _ => duet
  | .right =>
      match duet.right.1 with
      | .act operation next =>
          let fault := rightFault operation duet.right.2 duet.left.2
          if duet.rightStopped = false ∧
              link.right operation fault duet.right.2 duet.left.2 duet.leftOver then
            duet.performRight rightMachine operation next fault
          else duet
      | _ => duet

def playTurns (schedule : List Turn) (duet : Duet LeftAnswer RightAnswer α β LeftState RightState) :
    Duet LeftAnswer RightAnswer α β LeftState RightState :=
  schedule.foldl (turn link leftFault rightFault) duet

theorem turn_runs (duet : Duet LeftAnswer RightAnswer α β LeftState RightState) (side : Turn) :
    Runs link duet (turn link leftFault rightFault duet side) := by
  cases side with
  | left =>
      cases due : duet.left.1 with
      | done value =>
          simp only [turn, due]
          exact Relation.ReflTransGen.refl
      | exit status =>
          simp only [turn, due]
          exact Relation.ReflTransGen.refl
      | act operation next =>
          simp only [turn, due]
          split
          · rename_i possible
            exact Relation.ReflTransGen.single (Step.left _ possible.1 due possible.2)
          · exact Relation.ReflTransGen.refl
  | right =>
      cases due : duet.right.1 with
      | done value =>
          simp only [turn, due]
          exact Relation.ReflTransGen.refl
      | exit status =>
          simp only [turn, due]
          exact Relation.ReflTransGen.refl
      | act operation next =>
          simp only [turn, due]
          split
          · rename_i possible
            exact Relation.ReflTransGen.single (Step.right _ possible.1 due possible.2)
          · exact Relation.ReflTransGen.refl

theorem playTurns_runs (schedule : List Turn)
    (duet : Duet LeftAnswer RightAnswer α β LeftState RightState) :
    Runs link duet (playTurns link leftFault rightFault schedule duet) := by
  induction schedule generalizing duet with
  | nil => exact Relation.ReflTransGen.refl
  | cons side rest ih => exact (turn_runs link leftFault rightFault duet side).trans (ih _)

end Play

end Liuqin.Library.Parallel
