/-
Programs over a machine that may answer anything.

A program returns, exits with a status, or performs one operation and goes on
with its answer.  The machine owns the state; what it answers and what becomes
of the state is the choice of a fault, so a property of all runs ranges over
all faults.  Every configuration a run passes through is reachable, which is
where a crash can stop it.

The weakest precondition carries an assertion for every operation about to be
performed besides the ones for the return and for the exit, so that one
calculation covers crashes, exits and results.
-/

import Mathlib.Logic.Function.Basic
import Mathlib.Logic.Relation

namespace Liuqin.Library.Program

variable {Op : Type} {Answer : Op → Type} {State α β : Type}

inductive Prog (Answer : Op → Type) (α : Type) : Type where
  | done (value : α)
  | exit (status : Nat)
  | act (operation : Op) (next : Answer operation → Prog Answer α)

namespace Prog

def bind (first : Prog Answer α) (next : α → Prog Answer β) : Prog Answer β :=
  match first with
  | .done value => next value
  | .exit status => .exit status
  | .act operation rest => .act operation (fun answer => (rest answer).bind next)

instance : Monad (Prog Answer) where
  pure := .done
  bind := Prog.bind

def perform (operation : Op) : Prog Answer (Answer operation) :=
  .act operation .done

/-- The EXIT trap: `handler` takes over wherever the program exits. -/
def onExit (handler : Nat → Prog Answer α) : Prog Answer α → Prog Answer α
  | .done value => .done value
  | .exit status => handler status
  | .act operation next => .act operation (fun answer => (next answer).onExit handler)

/-- The program performs none but allowed operations and exits only with
allowed statuses. -/
def Only (allowed : Op → Prop) (leaves : Nat → Prop) : Prog Answer α → Prop
  | .done _ => True
  | .exit status => leaves status
  | .act operation next => allowed operation ∧ ∀ answer, (next answer).Only allowed leaves

@[simp] theorem pure_eq (value : α) : (pure value : Prog Answer α) = .done value := rfl

@[simp] theorem bind_eq (first : Prog Answer α) (next : α → Prog Answer β) :
    first >>= next = first.bind next := rfl

section Only

variable {allowed : Op → Prop} {leaves : Nat → Prop}

theorem only_done (value : α) : (Prog.done value : Prog Answer α).Only allowed leaves := trivial

theorem only_bind {first : Prog Answer α} {next : α → Prog Answer β}
    (front : first.Only allowed leaves) (back : ∀ value, (next value).Only allowed leaves) :
    (first.bind next).Only allowed leaves := by
  induction first with
  | done value => exact back value
  | exit status => exact front
  | act operation rest ih => exact ⟨front.1, fun answer => ih answer (front.2 answer)⟩

theorem only_mono {otherAllowed : Op → Prop} {otherLeaves : Nat → Prop}
    {program : Prog Answer α} (only : program.Only allowed leaves)
    (wider : ∀ operation, allowed operation → otherAllowed operation)
    (looser : ∀ status, leaves status → otherLeaves status) :
    program.Only otherAllowed otherLeaves := by
  induction program with
  | done value => trivial
  | exit status => exact looser status only
  | act operation next ih => exact ⟨wider operation only.1, fun answer => ih answer (only.2 answer)⟩

theorem only_ite {condition : Prop} [Decidable condition] {yes no : Prog Answer α}
    (positive : yes.Only allowed leaves) (negative : no.Only allowed leaves) :
    (if condition then yes else no).Only allowed leaves := by
  split
  · exact positive
  · exact negative

end Only

end Prog

/-- The machine answers an operation and moves on as the fault decides. -/
structure Machine (Answer : Op → Type) (State : Type) where
  Fault : Op → Type
  perform : (operation : Op) → Fault operation → State → Answer operation × State

/-! ### Runs -/

inductive Step (machine : Machine Answer State) :
    Prog Answer α × State → Prog Answer α × State → Prop where
  | act {operation : Op} {next : Answer operation → Prog Answer α} {state : State}
      (fault : machine.Fault operation) :
      Step machine (.act operation next, state)
        (next (machine.perform operation fault state).1,
          (machine.perform operation fault state).2)

def Reaches (machine : Machine Answer State) :
    Prog Answer α × State → Prog Answer α × State → Prop :=
  Relation.ReflTransGen (Step machine)

/-- One run, played for a number of steps against a strategy of the machine. -/
def play (machine : Machine Answer State)
    (strategy : Nat → (operation : Op) → State → machine.Fault operation) :
    Nat → Prog Answer α × State → Prog Answer α × State
  | steps + 1, (.act operation next, state) =>
      let outcome := machine.perform operation (strategy steps operation state) state
      play machine strategy steps (next outcome.1, outcome.2)
  | _, configuration => configuration

theorem play_reaches (machine : Machine Answer State)
    (strategy : Nat → (operation : Op) → State → machine.Fault operation) (steps : Nat)
    (start : Prog Answer α × State) :
    Reaches machine start (play machine strategy steps start) := by
  induction steps generalizing start with
  | zero =>
      rcases start with ⟨program, state⟩
      cases program <;> exact Relation.ReflTransGen.refl
  | succ steps ih =>
      rcases start with ⟨program, state⟩
      cases program with
      | done value => exact Relation.ReflTransGen.refl
      | exit status => exact Relation.ReflTransGen.refl
      | act operation next =>
          exact Relation.ReflTransGen.head (Step.act (strategy steps operation state)) (ih _)

/-- What a program that has come to its end returned. -/
def Prog.returned : Prog Answer α → Option α
  | .done value => some value
  | _ => none

theorem Prog.done_of_returned {program : Prog Answer α} {value : α}
    (ended : program.returned = some value) : program = .done value := by
  cases program with
  | done other =>
      cases ended
      rfl
  | exit status => cases ended
  | act operation next => cases ended

theorem returns_of_play (machine : Machine Answer State)
    (strategy : Nat → (operation : Op) → State → machine.Fault operation) (steps : Nat)
    {start : Prog Answer α × State} {value : α}
    (ended : (play machine strategy steps start).1.returned = some value) :
    Reaches machine start (.done value, (play machine strategy steps start).2) := by
  have run := play_reaches machine strategy steps start
  generalize play machine strategy steps start = result at ended run ⊢
  rcases result with ⟨program, last⟩
  cases program with
  | done other =>
      cases ended
      exact run
  | exit status => cases ended
  | act operation next => cases ended

/-- The status of a program that has left. -/
def Prog.status : Prog Answer α → Option Nat
  | .exit status => some status
  | _ => none

theorem exits_of_play (machine : Machine Answer State)
    (strategy : Nat → (operation : Op) → State → machine.Fault operation) (steps : Nat)
    {start : Prog Answer α × State} {status : Nat}
    (left : (play machine strategy steps start).1.status = some status) :
    Reaches machine start (.exit status, (play machine strategy steps start).2) := by
  have run := play_reaches machine strategy steps start
  generalize play machine strategy steps start = result at left run ⊢
  rcases result with ⟨program, last⟩
  cases program with
  | done value => cases left
  | exit other =>
      cases left
      exact run
  | act operation next => cases left

/-- The operation a program is about to perform. -/
def Prog.pending : Prog Answer α → Option Op
  | .act operation _ => some operation
  | _ => none

theorem acts_of_play (machine : Machine Answer State)
    (strategy : Nat → (operation : Op) → State → machine.Fault operation) (steps : Nat)
    {start : Prog Answer α × State} {operation : Op}
    (due : (play machine strategy steps start).1.pending = some operation) :
    ∃ next, Reaches machine start
      (.act operation next, (play machine strategy steps start).2) := by
  have run := play_reaches machine strategy steps start
  generalize play machine strategy steps start = result at due run ⊢
  rcases result with ⟨program, last⟩
  cases program with
  | done value => cases due
  | exit status => cases due
  | act other next =>
      cases due
      exact ⟨next, run⟩

/-! ### Runs under a condition -/

section Within

variable (machine : Machine Answer State)
  (permits : (operation : Op) → machine.Fault operation → State → Prop)

/-- A step whose fault meets a condition in the state before it. -/
inductive StepWithin : Prog Answer α × State → Prog Answer α × State → Prop where
  | act {operation : Op} {next : Answer operation → Prog Answer α} {state : State}
      (fault : machine.Fault operation) (fits : permits operation fault state) :
      StepWithin (.act operation next, state)
        (next (machine.perform operation fault state).1,
          (machine.perform operation fault state).2)

def ReachesWithin : Prog Answer α × State → Prog Answer α × State → Prop :=
  Relation.ReflTransGen (StepWithin machine permits)

/-- The machine whose faults meet the condition in every state. -/
def Machine.within : Machine Answer State where
  Fault operation :=
    { choice : State → machine.Fault operation //
      ∀ state, permits operation (choice state) state }
  perform operation fault state := machine.perform operation (fault.1 state) state

variable {machine permits}

theorem step_of_within {before after : Prog Answer α × State}
    (step : StepWithin machine permits before after) : Step machine before after := by
  cases step with
  | act fault fits => exact Step.act fault

theorem reaches_of_within {before after : Prog Answer α × State}
    (run : ReachesWithin machine permits before after) : Reaches machine before after := by
  induction run with
  | refl => exact Relation.ReflTransGen.refl
  | tail _ step ih => exact ih.tail (step_of_within step)

/-- Where some fault meets the condition in every state, the runs under the
condition are runs of that machine. -/
theorem within_of_reaches
    (total : ∀ operation state, ∃ fault, permits operation fault state)
    {before after : Prog Answer α × State}
    (run : ReachesWithin machine permits before after) :
    Reaches (machine.within permits) before after := by
  classical
  induction run with
  | refl => exact Relation.ReflTransGen.refl
  | tail _ step ih =>
      cases step with
      | @act operation next state fault fits =>
          apply ih.tail
          let other := fun later => Classical.choose (total operation later)
          have meets : ∀ later, permits operation (other later) later :=
            fun later => Classical.choose_spec (total operation later)
          have every : ∀ later, permits operation (Function.update other state fault later) later := by
            intro later
            by_cases same : later = state
            · rw [same, Function.update_self]
              exact fits
            · rw [Function.update_of_ne same]
              exact meets later
          let choice : (machine.within permits).Fault operation :=
            ⟨Function.update other state fault, every⟩
          have chosen : (machine.within permits).perform operation choice state =
              machine.perform operation fault state := by
            show machine.perform operation (Function.update other state fault state) state = _
            rw [Function.update_self]
          rw [← chosen]
          exact Step.act choice

/-- A play whose faults meet the condition. -/
theorem play_within
    (strategy : Nat → (operation : Op) → State → machine.Fault operation)
    (fits : ∀ steps operation state, permits operation (strategy steps operation state) state)
    (steps : Nat) (start : Prog Answer α × State) :
    ReachesWithin machine permits start (play machine strategy steps start) := by
  induction steps generalizing start with
  | zero =>
      rcases start with ⟨program, state⟩
      cases program <;> exact Relation.ReflTransGen.refl
  | succ steps ih =>
      rcases start with ⟨program, state⟩
      cases program with
      | done value => exact Relation.ReflTransGen.refl
      | exit status => exact Relation.ReflTransGen.refl
      | act operation next =>
          exact Relation.ReflTransGen.head
            (StepWithin.act (strategy steps operation state) (fits steps operation state)) (ih _)

end Within

/-! ### Settled runs -/

section Settled

variable (machine : Machine Answer State)
  (choice : (operation : Op) → State → machine.Fault operation)

/-- The whole run against a machine whose choices depend on the operation and
the state alone. -/
def settle : Prog Answer α → State → Except Nat α × State
  | .done value, state => (.ok value, state)
  | .exit status, state => (.error status, state)
  | .act operation next, state =>
      settle (next (machine.perform operation (choice operation state) state).1)
        (machine.perform operation (choice operation state) state).2

theorem settle_act (operation : Op) (next : Answer operation → Prog Answer α) (state : State) :
    settle machine choice (.act operation next) state =
      settle machine choice (next (machine.perform operation (choice operation state) state).1)
        (machine.perform operation (choice operation state) state).2 := rfl

theorem settle_bind (first : Prog Answer α) (next : α → Prog Answer β) (state : State) :
    settle machine choice (first.bind next) state =
      match settle machine choice first state with
      | (.ok value, after) => settle machine choice (next value) after
      | (.error status, after) => (.error status, after) := by
  induction first generalizing state with
  | done value => rfl
  | exit status => rfl
  | act operation rest ih => exact ih _ _

theorem settle_onExit (handler : Nat → Prog Answer α) (program : Prog Answer α) (state : State) :
    settle machine choice (program.onExit handler) state =
      match settle machine choice program state with
      | (.ok value, after) => (.ok value, after)
      | (.error status, after) => settle machine choice (handler status) after := by
  induction program generalizing state with
  | done value => rfl
  | exit status => rfl
  | act operation rest ih => exact ih _ _

end Settled

/-! ### Weakest preconditions -/

section Weakest

variable (machine : Machine Answer State) (during : Op → State → Prop)
  (exited : Nat → State → Prop)

/-- In every run `during` holds of each operation about to be performed,
`returned` of a result and `exited` of an exit. -/
def wp : Prog Answer α → (α → State → Prop) → State → Prop
  | .done value, returned, state => returned value state
  | .exit status, _, state => exited status state
  | .act operation next, returned, state =>
      during operation state ∧ ∀ fault : machine.Fault operation,
        wp (next (machine.perform operation fault state).1) returned
          (machine.perform operation fault state).2

variable {machine during exited}

@[simp] theorem wp_done (value : α) (returned : α → State → Prop) :
    wp machine during exited (.done value) returned = returned value := rfl

@[simp] theorem wp_exit (status : Nat) (returned : α → State → Prop) :
    wp machine during exited (.exit status) returned = exited status := rfl

theorem wp_act (operation : Op) (next : Answer operation → Prog Answer α)
    (returned : α → State → Prop) (state : State) :
    wp machine during exited (.act operation next) returned state ↔
      during operation state ∧ ∀ fault : machine.Fault operation,
        wp machine during exited (next (machine.perform operation fault state).1) returned
          (machine.perform operation fault state).2 := Iff.rfl

@[simp] theorem wp_bind (first : Prog Answer α) (next : α → Prog Answer β)
    (returned : β → State → Prop) :
    wp machine during exited (first.bind next) returned =
      wp machine during exited first
        (fun value => wp machine during exited (next value) returned) := by
  funext state
  induction first generalizing state with
  | done value => rfl
  | exit status => rfl
  | act operation rest ih =>
      apply propext
      simp only [Prog.bind, wp_act, ih]

theorem wp_seq {first : Prog Answer α} {next : α → Prog Answer β} {returned : β → State → Prop}
    {state : State}
    (holds : wp machine during exited first
      (fun value => wp machine during exited (next value) returned) state) :
    wp machine during exited (first.bind next) returned state := by
  rw [wp_bind]
  exact holds

theorem wp_ite {condition : Prop} [Decidable condition] {yes no : Prog Answer α}
    {returned : α → State → Prop} {state : State}
    (positive : condition → wp machine during exited yes returned state)
    (negative : ¬condition → wp machine during exited no returned state) :
    wp machine during exited (if condition then yes else no) returned state := by
  split
  · exact positive ‹_›
  · exact negative ‹_›

@[simp] theorem wp_onExit (handler : Nat → Prog Answer α) (program : Prog Answer α)
    (returned : α → State → Prop) :
    wp machine during exited (program.onExit handler) returned =
      wp machine during (fun status => wp machine during exited (handler status) returned)
        program returned := by
  funext state
  induction program generalizing state with
  | done value => rfl
  | exit status => rfl
  | act operation rest ih =>
      apply propext
      simp only [Prog.onExit, wp_act, ih]

theorem wp_mono {otherDuring : Op → State → Prop} {otherExited : Nat → State → Prop}
    {program : Prog Answer α} {returned otherReturned : α → State → Prop} {state : State}
    (holds : wp machine during exited program returned state)
    (ongoing : ∀ operation state, during operation state → otherDuring operation state)
    (leaving : ∀ status state, exited status state → otherExited status state)
    (returning : ∀ value state, returned value state → otherReturned value state) :
    wp machine otherDuring otherExited program otherReturned state := by
  induction program generalizing state with
  | done value => exact returning value state holds
  | exit status => exact leaving status state holds
  | act operation next ih =>
      exact ⟨ongoing operation state holds.1, fun fault => ih _ (holds.2 fault)⟩

theorem wp_returned {program : Prog Answer α} {returned otherReturned : α → State → Prop}
    {state : State} (holds : wp machine during exited program returned state)
    (returning : ∀ value state, returned value state → otherReturned value state) :
    wp machine during exited program otherReturned state :=
  wp_mono holds (fun _ _ => id) (fun _ _ => id) returning

/-- The frame rule: operations that keep an invariant keep it through the
whole program. -/
theorem wp_of_only {allowed : Op → Prop} {leaves : Nat → Prop} {invariant : State → Prop}
    {program : Prog Answer α} {returned : α → State → Prop} {state : State}
    (only : program.Only allowed leaves)
    (kept : ∀ operation, allowed operation → ∀ fault state, invariant state →
      invariant (machine.perform operation fault state).2)
    (ongoing : ∀ operation, allowed operation → ∀ state, invariant state → during operation state)
    (leaving : ∀ status, leaves status → ∀ state, invariant state → exited status state)
    (returning : ∀ value state, invariant state → returned value state)
    (start : invariant state) :
    wp machine during exited program returned state := by
  induction program generalizing state with
  | done value => exact returning value state start
  | exit status => exact leaving status only state start
  | act operation next ih =>
      refine ⟨ongoing operation only.1 state start, fun fault => ?_⟩
      exact ih _ (only.2 _) (kept operation only.1 fault state start)

/-- The frame rule without an invariant. -/
theorem wp_of_performed {allowed : Op → Prop} {leaves : Nat → Prop}
    {program : Prog Answer α} {returned : α → State → Prop} {state : State}
    (only : program.Only allowed leaves)
    (ongoing : ∀ operation, allowed operation → ∀ state, during operation state)
    (leaving : ∀ status, leaves status → ∀ state, exited status state)
    (returning : ∀ value state, returned value state) :
    wp machine during exited program returned state := by
  induction program generalizing state with
  | done value => exact returning value state
  | exit status => exact leaving status only state
  | act operation next ih => exact ⟨ongoing operation only.1 state, fun fault => ih _ (only.2 _)⟩

/-- What the weakest precondition says of one configuration. -/
def Safe (during : Op → State → Prop) (exited : Nat → State → Prop)
    (returned : α → State → Prop) : Prog Answer α × State → Prop
  | (.done value, state) => returned value state
  | (.exit status, state) => exited status state
  | (.act operation _, state) => during operation state

theorem wp_step {returned : α → State → Prop} {before after : Prog Answer α × State}
    (step : Step machine before after)
    (holds : wp machine during exited before.1 returned before.2) :
    wp machine during exited after.1 returned after.2 := by
  cases step with
  | act fault => exact holds.2 fault

theorem wp_reaches {returned : α → State → Prop} {before after : Prog Answer α × State}
    (run : Reaches machine before after)
    (holds : wp machine during exited before.1 returned before.2) :
    wp machine during exited after.1 returned after.2 := by
  induction run with
  | refl => exact holds
  | tail _ step ih => exact wp_step step ih

/-- Soundness: every reachable configuration is safe. -/
theorem wp_sound {returned : α → State → Prop} {before after : Prog Answer α × State}
    (holds : wp machine during exited before.1 returned before.2)
    (run : Reaches machine before after) :
    Safe during exited returned after := by
  have later := wp_reaches run holds
  rcases after with ⟨program, state⟩
  cases program with
  | done value => exact later
  | exit status => exact later
  | act operation next => exact later.1

/-- A run comes to its end, and where each fault keeps an invariant the end has it. -/
theorem ends_with {returned : α → State → Prop} (invariant : State → Prop)
    (strategy : (operation : Op) → State → machine.Fault operation)
    (kept : ∀ operation state, during operation state → invariant state →
      invariant (machine.perform operation (strategy operation state) state).2)
    {program : Prog Answer α} {state : State}
    (holds : wp machine during exited program returned state) (start : invariant state) :
    ∃ last, invariant last ∧
      ((∃ status, Reaches machine (program, state) (.exit status, last) ∧ exited status last) ∨
        ∃ value, Reaches machine (program, state) (.done value, last) ∧ returned value last) := by
  induction program generalizing state with
  | done value => exact ⟨state, start, Or.inr ⟨value, Relation.ReflTransGen.refl, holds⟩⟩
  | exit status => exact ⟨state, start, Or.inl ⟨status, Relation.ReflTransGen.refl, holds⟩⟩
  | act operation next ih =>
      have step : Step machine (.act operation next, state)
          (next (machine.perform operation (strategy operation state) state).1,
            (machine.perform operation (strategy operation state) state).2) :=
        Step.act (strategy operation state)
      obtain ⟨last, good, ended⟩ := ih _ (holds.2 (strategy operation state))
        (kept operation state holds.1 start)
      refine ⟨last, good, ?_⟩
      rcases ended with ⟨status, run, left⟩ | ⟨value, run, left⟩
      · exact Or.inl ⟨status, Relation.ReflTransGen.head step run, left⟩
      · exact Or.inr ⟨value, Relation.ReflTransGen.head step run, left⟩

end Weakest

/-! ### Some run -/

section Some

variable (machine : Machine Answer State) (goal : State → Prop)

/-- Some run meets the goal on its way or returns with `returned`. -/
def may : Prog Answer α → (α → State → Prop) → State → Prop
  | .done value, returned, state => returned value state
  | .exit _, _, state => goal state
  | .act operation next, returned, state =>
      goal state ∨ ∃ fault : machine.Fault operation,
        may (next (machine.perform operation fault state).1) returned
          (machine.perform operation fault state).2

variable {machine goal}

@[simp] theorem may_done (value : α) (returned : α → State → Prop) :
    may machine goal (.done value) returned = returned value := rfl

@[simp] theorem may_bind (first : Prog Answer α) (next : α → Prog Answer β)
    (returned : β → State → Prop) :
    may machine goal (first.bind next) returned =
      may machine goal first (fun value => may machine goal (next value) returned) := by
  funext state
  induction first generalizing state with
  | done value => rfl
  | exit status => rfl
  | act operation rest ih =>
      apply propext
      simp only [Prog.bind, may, ih]

/-- A goal met by some run is met at a reachable configuration, the handler of
the exits notwithstanding. -/
theorem may_reaches (handler : Nat → Prog Answer α) {program : Prog Answer α} {state : State}
    (met : may machine goal program (fun _ => goal) state) :
    ∃ later after, Reaches machine (program.onExit handler, state) (later, after) ∧ goal after := by
  induction program generalizing state with
  | done value => exact ⟨_, state, Relation.ReflTransGen.refl, met⟩
  | exit status => exact ⟨_, state, Relation.ReflTransGen.refl, met⟩
  | act operation next ih =>
      rcases met with now | ⟨fault, later⟩
      · exact ⟨_, state, Relation.ReflTransGen.refl, now⟩
      · obtain ⟨program, after, run, reached⟩ := ih _ later
        exact ⟨program, after, Relation.ReflTransGen.head (Step.act fault) run, reached⟩

end Some

end Liuqin.Library.Program
