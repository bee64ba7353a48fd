/-
Any number of programs that share one state.

A thread performs one operation at a time, at any moment of its own, and may be
killed before any of them; a crash ends every thread that is not at its end and
leaves what the machine says survives one.  Runs can be restricted to those
that perform an operation only in a state that permits it.

A thread relies on what the others leave alone and guarantees what the others
rely on.  The weakest precondition of a program under interference lets the
others act between any two of its operations.
-/

import Mathlib.Logic.Function.Basic
import Liuqin.Library.Program

namespace Liuqin.Library.Sharing

open Liuqin.Library.Program

/-! ### Threads -/

variable {Op : Type} {Answer : Op → Type} {State α β : Type}

structure Crew (Answer : Op → Type) (State : Type) where
  Fault : Op → Type
  perform : Nat → (operation : Op) → Fault operation → State → Answer operation × State
  died : Nat → State → State
  crashed : State → State → Prop

inductive Thread (Answer : Op → Type) (α : Type) where
  | waiting
  | running (program : Prog Answer α)
  | gone

/-- What a crash leaves of a thread. -/
def Thread.struck : Thread Answer α → Thread Answer α
  | .running (.act _ _) => .gone
  | thread => thread

structure Pool (Answer : Op → Type) (α State : Type) where
  thread : Nat → Thread Answer α
  state : State

def Pool.start (state : State) : Pool Answer α State where
  thread := fun _ => .waiting
  state := state

def Pool.began (programs : Nat → Prog Answer α) (pool : Pool Answer α State) (index : Nat) :
    Pool Answer α State :=
  { pool with thread := Function.update pool.thread index (.running (programs index)) }

def Pool.performed (crew : Crew Answer State) (pool : Pool Answer α State) (index : Nat)
    (operation : Op) (next : Answer operation → Prog Answer α) (fault : crew.Fault operation) :
    Pool Answer α State where
  thread := Function.update pool.thread index
    (.running (next (crew.perform index operation fault pool.state).1))
  state := (crew.perform index operation fault pool.state).2

def Pool.killed (crew : Crew Answer State) (pool : Pool Answer α State) (index : Nat) :
    Pool Answer α State where
  thread := Function.update pool.thread index .gone
  state := crew.died index pool.state

def Pool.crashed (pool : Pool Answer α State) (left : State) : Pool Answer α State where
  thread := fun index => (pool.thread index).struck
  state := left

inductive Step (crew : Crew Answer State) (permits : Nat → Op → State → Prop)
    (programs : Nat → Prog Answer α) :
    Pool Answer α State → Pool Answer α State → Prop where
  | start {pool : Pool Answer α State} {index : Nat} (waits : pool.thread index = .waiting) :
      Step crew permits programs pool (pool.began programs index)
  | act {pool : Pool Answer α State} {index : Nat} {operation : Op}
      {next : Answer operation → Prog Answer α} (fault : crew.Fault operation)
      (due : pool.thread index = .running (.act operation next))
      (permitted : permits index operation pool.state) :
      Step crew permits programs pool (pool.performed crew index operation next fault)
  | die {pool : Pool Answer α State} {index : Nat} {operation : Op}
      {next : Answer operation → Prog Answer α}
      (due : pool.thread index = .running (.act operation next)) :
      Step crew permits programs pool (pool.killed crew index)
  | crash {pool : Pool Answer α State} {left : State} (lost : crew.crashed pool.state left) :
      Step crew permits programs pool (pool.crashed left)

def Runs (crew : Crew Answer State) (permits : Nat → Op → State → Prop)
    (programs : Nat → Prog Answer α) : Pool Answer α State → Pool Answer α State → Prop :=
  Relation.ReflTransGen (Step crew permits programs)

/-! ### Preconditions under interference -/

section Weakest

variable (crew : Crew Answer State) (permits : Nat → Op → State → Prop) (index : Nat)
  (rely guarantee : State → State → Prop) (exited : Nat → State → Prop)

/-- Every operation keeps the guarantee, the others move as relied on behind
it, and what comes back or leaves meets its postcondition. -/
def rg : Prog Answer α → (α → State → Prop) → State → Prop
  | .done value, returned, state => returned value state
  | .exit status, _, state => exited status state
  | .act operation next, returned, state =>
      permits index operation state → ∀ fault : crew.Fault operation,
      guarantee state (crew.perform index operation fault state).2 ∧
      ∀ later, rely (crew.perform index operation fault state).2 later →
        rg (next (crew.perform index operation fault state).1) returned later

variable {crew permits index rely guarantee exited}

@[simp] theorem rg_done (value : α) (returned : α → State → Prop) :
    rg crew permits index rely guarantee exited (.done value) returned = returned value := rfl

theorem rg_act (operation : Op) (next : Answer operation → Prog Answer α)
    (returned : α → State → Prop) (state : State) :
    rg crew permits index rely guarantee exited (.act operation next) returned state ↔
      (permits index operation state → ∀ fault : crew.Fault operation,
        guarantee state (crew.perform index operation fault state).2 ∧
        ∀ later, rely (crew.perform index operation fault state).2 later →
          rg crew permits index rely guarantee exited
            (next (crew.perform index operation fault state).1) returned later) := Iff.rfl

theorem rg_bind (first : Prog Answer α) (next : α → Prog Answer β)
    (returned : β → State → Prop) :
    rg crew permits index rely guarantee exited (first.bind next) returned =
      rg crew permits index rely guarantee exited first
        (fun value => rg crew permits index rely guarantee exited (next value) returned) := by
  funext state
  induction first generalizing state with
  | done value => rfl
  | exit status => rfl
  | act operation rest ih =>
      apply propext
      simp only [Prog.bind, rg_act, ih]

theorem rg_seq {first : Prog Answer α} {next : α → Prog Answer β} {returned : β → State → Prop}
    {state : State}
    (holds : rg crew permits index rely guarantee exited first
      (fun value => rg crew permits index rely guarantee exited (next value) returned) state) :
    rg crew permits index rely guarantee exited (first.bind next) returned state := by
  rw [rg_bind]
  exact holds

theorem rg_ite {condition : Prop} [Decidable condition] {yes no : Prog Answer α}
    {returned : α → State → Prop} {state : State}
    (positive : condition → rg crew permits index rely guarantee exited yes returned state)
    (negative : ¬condition → rg crew permits index rely guarantee exited no returned state) :
    rg crew permits index rely guarantee exited (if condition then yes else no) returned state := by
  split
  · exact positive ‹_›
  · exact negative ‹_›

theorem rg_onExit (handler : Nat → Prog Answer α) (program : Prog Answer α)
    (returned : α → State → Prop) :
    rg crew permits index rely guarantee exited (program.onExit handler) returned =
      rg crew permits index rely guarantee
        (fun status => rg crew permits index rely guarantee exited (handler status) returned)
        program returned := by
  funext state
  induction program generalizing state with
  | done value => rfl
  | exit status => rfl
  | act operation rest ih =>
      apply propext
      simp only [Prog.onExit, rg_act, ih]

theorem rg_returned {program : Prog Answer α} {returned otherReturned : α → State → Prop}
    {state : State} (holds : rg crew permits index rely guarantee exited program returned state)
    (returning : ∀ value state, returned value state → otherReturned value state) :
    rg crew permits index rely guarantee exited program otherReturned state := by
  induction program generalizing state with
  | done value => exact returning value state holds
  | exit status => exact holds
  | act operation next ih =>
      intro permitted fault
      obtain ⟨kept, behind⟩ := holds permitted fault
      exact ⟨kept, fun later relied => ih _ (behind later relied)⟩

/-- The frame rule: operations that keep an invariant the others keep too. -/
theorem rg_of_only {allowed : Op → Prop} {leaves : Nat → Prop} {invariant : State → Prop}
    {program : Prog Answer α} {returned : α → State → Prop} {state : State}
    (only : program.Only allowed leaves)
    (kept : ∀ operation, allowed operation → ∀ fault state, permits index operation state →
      invariant state → guarantee state (crew.perform index operation fault state).2 ∧
        invariant (crew.perform index operation fault state).2)
    (relied : ∀ state later, invariant state → rely state later → invariant later)
    (leaving : ∀ status, leaves status → ∀ state, invariant state → exited status state)
    (returning : ∀ value state, invariant state → returned value state)
    (start : invariant state) :
    rg crew permits index rely guarantee exited program returned state := by
  induction program generalizing state with
  | done value => exact returning value state start
  | exit status => exact leaving status only state start
  | act operation next ih =>
      intro permitted fault
      obtain ⟨keeps, still⟩ := kept operation only.1 fault state permitted start
      exact ⟨keeps, fun later moved => ih _ (only.2 _) (relied _ later still moved)⟩

end Weakest

/-! ### All threads together -/

section Together

variable {crew : Crew Answer State} {permits : Nat → Op → State → Prop}
  {rely guarantee : Nat → State → State → Prop}
  {exited : Nat → Nat → State → Prop} {returned : Nat → α → State → Prop}
  {programs : Nat → Prog Answer α} {invariant : State → Prop} {unbegun : Nat → State → Prop}

/-- How the contracts of the threads fit together and with the invariant;
`unbegun` holds until a thread begins. -/
structure Fits (crew : Crew Answer State) (rely guarantee : Nat → State → State → Prop)
    (exited : Nat → Nat → State → Prop) (returned : Nat → α → State → Prop)
    (invariant : State → Prop) (unbegun : Nat → State → Prop) : Prop where
  stutter : ∀ index state, rely index state state
  chain : ∀ index first second third, rely index first second → rely index second third →
    rely index first third
  others : ∀ index other before after, other ≠ index → invariant before →
    guarantee index before after → rely other before after
  kept : ∀ index before after, guarantee index before after → invariant before → invariant after
  relied : ∀ index before after, rely index before after → invariant before → invariant after
  death : ∀ index state, invariant state → invariant (crew.died index state) ∧
    ∀ other, other ≠ index → rely other state (crew.died index state)
  crash : ∀ before after, crew.crashed before after → invariant before → invariant after
  unbegunLasts : ∀ index before after, unbegun index before → rely index before after →
    unbegun index after
  unbegunSurvives : ∀ index before after, unbegun index before → crew.crashed before after →
    unbegun index after
  returnedLasts : ∀ index value before after, returned index value before →
    rely index before after → returned index value after
  exitedLasts : ∀ index status before after, exited index status before →
    rely index before after → exited index status after
  returnedSurvives : ∀ index value before after, returned index value before →
    crew.crashed before after → returned index value after
  exitedSurvives : ∀ index status before after, exited index status before →
    crew.crashed before after → exited index status after

/-- A thread is ready for whatever the others do next. -/
def Ready (crew : Crew Answer State) (permits : Nat → Op → State → Prop)
    (rely guarantee : Nat → State → State → Prop) (exited : Nat → Nat → State → Prop)
    (returned : Nat → α → State → Prop)
    (unbegun : Nat → State → Prop) (index : Nat) (state : State) : Thread Answer α → Prop
  | .waiting => unbegun index state
  | .running program => ∀ later, rely index state later →
      rg crew permits index (rely index) (guarantee index) (exited index) program
        (returned index) later
  | _ => True

variable (fits : Fits crew rely guarantee exited returned invariant unbegun)

include fits

theorem Ready.relied {index : Nat} {before after : State} {thread : Thread Answer α}
    (ready : Ready crew permits rely guarantee exited returned unbegun index before thread)
    (moved : rely index before after) :
    Ready crew permits rely guarantee exited returned unbegun index after thread := by
  cases thread with
  | running program =>
      intro later more
      exact ready later (fits.chain index before after later moved more)
  | waiting => exact fits.unbegunLasts index before after ready moved
  | gone => trivial

theorem Ready.struck {index : Nat} {before after : State} {thread : Thread Answer α}
    (ready : Ready crew permits rely guarantee exited returned unbegun index before thread)
    (lost : crew.crashed before after) :
    Ready crew permits rely guarantee exited returned unbegun index after thread.struck := by
  cases thread with
  | waiting => exact fits.unbegunSurvives index before after ready lost
  | gone => trivial
  | running program =>
      cases program with
      | act operation next => trivial
      | done value =>
          intro later moved
          have now := ready before (fits.stutter index before)
          exact fits.returnedLasts index value after later
            (fits.returnedSurvives index value before after now lost) moved
      | exit status =>
          intro later moved
          have now := ready before (fits.stutter index before)
          exact fits.exitedLasts index status after later
            (fits.exitedSurvives index status before after now lost) moved

variable (begins : ∀ index state, invariant state → unbegun index state →
  rg crew permits index (rely index) (guarantee index) (exited index) (programs index)
    (returned index) state)

include begins

theorem step_ready {before after : Pool Answer α State}
    (step : Step crew permits programs before after) (holds : invariant before.state)
    (ready : ∀ index,
      Ready crew permits rely guarantee exited returned unbegun index before.state
        (before.thread index)) :
    invariant after.state ∧ ∀ index,
      Ready crew permits rely guarantee exited returned unbegun index after.state
        (after.thread index) := by
  cases step with
  | @start index waits =>
      refine ⟨holds, fun other => ?_⟩
      by_cases same : other = index
      · subst same
        show Ready crew permits rely guarantee exited returned unbegun other before.state
          (Function.update before.thread other _ other)
        rw [Function.update_self]
        have new := ready other
        rw [waits] at new
        intro later moved
        exact begins other later (fits.relied other _ later moved holds)
          (fits.unbegunLasts other _ later new moved)
      · show Ready crew permits rely guarantee exited returned unbegun other before.state
          (Function.update before.thread index _ other)
        rw [Function.update_of_ne same]
        exact ready other
  | @act index operation next fault due permitted =>
      have own := ready index
      rw [due] at own
      obtain ⟨keeps, behind⟩ := own before.state (fits.stutter index before.state) permitted fault
      refine ⟨fits.kept index _ _ keeps holds, fun other => ?_⟩
      by_cases same : other = index
      · subst same
        show Ready crew permits rely guarantee exited returned unbegun other _
          (Function.update before.thread other _ other)
        rw [Function.update_self]
        exact behind
      · show Ready crew permits rely guarantee exited returned unbegun other _
          (Function.update before.thread index _ other)
        rw [Function.update_of_ne same]
        exact (ready other).relied fits (fits.others index other _ _ same holds keeps)
  | @die index operation next due =>
      obtain ⟨still, moved⟩ := fits.death index before.state holds
      refine ⟨still, fun other => ?_⟩
      by_cases same : other = index
      · subst same
        show Ready crew permits rely guarantee exited returned unbegun other _
          (Function.update before.thread other _ other)
        rw [Function.update_self]
        trivial
      · show Ready crew permits rely guarantee exited returned unbegun other _
          (Function.update before.thread index _ other)
        rw [Function.update_of_ne same]
        exact (ready other).relied fits (moved other same)
  | crash lost =>
      exact ⟨fits.crash _ _ lost holds, fun index => (ready index).struck fits lost⟩

/-- Soundness: in every state that is reached the invariant holds and every
thread that is at its end meets its postcondition. -/
theorem pool_sound {start : State} {after : Pool Answer α State}
    (run : Runs crew permits programs (Pool.start start) after) (holds : invariant start)
    (none : ∀ index, unbegun index start) :
    invariant after.state ∧
    (∀ index value, after.thread index = .running (.done value) →
      returned index value after.state) ∧
    ∀ index status, after.thread index = .running (.exit status) →
      exited index status after.state := by
  have all : invariant after.state ∧ ∀ index,
      Ready crew permits rely guarantee exited returned unbegun index after.state
        (after.thread index) := by
    induction run with
    | refl => exact ⟨holds, none⟩
    | tail _ step ih => exact step_ready fits begins step ih.1 ih.2
  refine ⟨all.1, fun index value ended => ?_, fun index status ended => ?_⟩
  · have ready := all.2 index
    rw [ended] at ready
    exact ready after.state (fits.stutter index after.state)
  · have ready := all.2 index
    rw [ended] at ready
    exact ready after.state (fits.stutter index after.state)

end Together

/-! ### Playing a run -/

/-- What a thread that has come to its end returned. -/
def Thread.returned : Thread Answer α → Option α
  | .running program => program.returned
  | _ => none

theorem Thread.of_returned {thread : Thread Answer α} {value : α}
    (ended : thread.returned = some value) : thread = .running (.done value) := by
  cases thread with
  | waiting => cases ended
  | gone => cases ended
  | running program =>
      cases program with
      | done other =>
          cases ended
          rfl
      | exit status => cases ended
      | act operation next => cases ended

section Play

variable (crew : Crew Answer State) (permits : Nat → Op → State → Prop)
  [∀ index operation state, Decidable (permits index operation state)]
  (programs : Nat → Prog Answer α)
  (strategy : Nat → (operation : Op) → State → crew.Fault operation)

/-- The thread whose turn it is begins or performs its operation, if the state
permits it. -/
def turn (pool : Pool Answer α State) (index : Nat) : Pool Answer α State :=
  match pool.thread index with
  | .waiting => pool.began programs index
  | .running (.act operation next) =>
      if permits index operation pool.state then
        pool.performed crew index operation next (strategy index operation pool.state)
      else pool
  | _ => pool

def playPool (schedule : List Nat) (pool : Pool Answer α State) : Pool Answer α State :=
  schedule.foldl (turn crew permits programs strategy) pool

theorem turn_runs (pool : Pool Answer α State) (index : Nat) :
    Runs crew permits programs pool (turn crew permits programs strategy pool index) := by
  cases due : pool.thread index with
  | waiting =>
      simp only [turn, due]
      exact Relation.ReflTransGen.single (Step.start due)
  | gone =>
      simp only [turn, due]
      exact Relation.ReflTransGen.refl
  | running program =>
      cases program with
      | done value =>
          simp only [turn, due]
          exact Relation.ReflTransGen.refl
      | exit status =>
          simp only [turn, due]
          exact Relation.ReflTransGen.refl
      | act operation next =>
          simp only [turn, due]
          split
          · exact Relation.ReflTransGen.single (Step.act _ due ‹_›)
          · exact Relation.ReflTransGen.refl

theorem playPool_runs (schedule : List Nat) (pool : Pool Answer α State) :
    Runs crew permits programs pool (playPool crew permits programs strategy schedule pool) := by
  induction schedule generalizing pool with
  | nil => exact Relation.ReflTransGen.refl
  | cons index rest ih =>
      exact (turn_runs crew permits programs strategy pool index).trans (ih _)

end Play

end Liuqin.Library.Sharing
