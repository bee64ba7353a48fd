/-
Polling however the calls nest: the steps keep the driver in order, and what was
requested last is what the outermost call leaves.
-/

import Liuqin.Sensors.Polling

namespace Liuqin.Sensors.Polling

/-! ### The invariant -/

/-- The handler follows the request, or a failure says why it does not. -/
structure Settled (drvData : DrvData) (log : List Event) : Prop where
  follows : decide (drvData.measurementId ≠ 0) = drvData.pollingRequested ∨
    openFailedSince log = true ∨ Dropped log
  dropped : Dropped log → drvData.measurementId = 0 ∧ openFailedSince log = false

structure Busy (drvData : DrvData) (log : List Event) (call : SyncCall) : Prop where
  changing : drvData.pollingChanging = true
  inProgress : inProgress log = some call
  connected : drvData.measurementId ≠ 0 ↔ call = .openSync
  reopened : call = .closeSync → lastRequest log = some true → openFailedSince log = false

/-- Only a call inside a sync call has another one on top, and that one comes back at once. -/
def Shape (drvData : DrvData) (log : List Event) : List Point → Prop
  | [] => drvData.pollingChanging = false ∧ inProgress log = none ∧ Settled drvData log
  | [.entered _] => drvData.pollingChanging = false ∧ inProgress log = none
  | [.requested] => drvData.pollingChanging = false ∧ inProgress log = none ∧ ¬Dropped log
  | [.looping] => drvData.pollingChanging = true ∧ inProgress log = none ∧ ¬Dropped log
  | [.leaving] => drvData.pollingChanging = true ∧ inProgress log = none ∧ Settled drvData log
  | [.inside call] => Busy drvData log call
  | [.entered _, .inside call] => Busy drvData log call
  | [.requested, .inside call] => Busy drvData log call
  | _ => False

/-- The fields beside the calls that are active. -/
structure Kept (drvData : DrvData) (log : List Event) : Prop where
  handlers : drvData.handlers =
    if drvData.measurementId = 0 then [] else [drvData.measurementId]
  requested : drvData.pollingRequested = (lastRequest log).getD false
  turn : failed log = false → (drvData.measurementId ≠ 0 ↔ lastStarted log = some .openSync)
  serial : Serial log
  alternate : Alternate log

structure Good (world : World) : Prop where
  kept : Kept world.drvData world.log
  shape : Shape world.drvData world.log world.stack

section Steps

variable {drvData : DrvData} {log : List Event} {stack : List Point}

theorem clear_id (drvData : DrvData) : (clearSignalHandler drvData).measurementId = 0 := by
  unfold clearSignalHandler
  split
  · assumption
  · rfl

theorem clear_requested (drvData : DrvData) :
    (clearSignalHandler drvData).pollingRequested = drvData.pollingRequested := by
  unfold clearSignalHandler
  split
  · rfl
  · rfl

theorem clear_changing (drvData : DrvData) :
    (clearSignalHandler drvData).pollingChanging = drvData.pollingChanging := by
  unfold clearSignalHandler
  split
  · rfl
  · rfl

theorem clear_handlers (kept : Kept drvData log) :
    (clearSignalHandler drvData).handlers = [] := by
  have handlers := kept.handlers
  unfold clearSignalHandler
  split
  · rename_i none
    rw [if_pos none] at handlers
    exact handlers
  · rename_i some
    rw [if_neg some] at handlers
    show drvData.handlers.erase drvData.measurementId = []
    rw [handlers, List.erase_cons_head]

/-- A request is taken down whatever is active. -/
theorem kept_request (kept : Kept drvData log) (state : Bool) :
    Kept { drvData with pollingRequested := state } (.request state :: log) where
  handlers := kept.handlers
  requested := rfl
  turn := kept.turn
  serial := kept.serial
  alternate := kept.alternate

theorem busy_request {call : SyncCall} (busy : Busy drvData log call) (state : Bool) :
    Busy { drvData with pollingRequested := state } (.request state :: log) call where
  changing := busy.changing
  inProgress := busy.inProgress
  connected := busy.connected
  reopened := fun _ _ => rfl

theorem kept_changing (kept : Kept drvData log) (changing : Bool) :
    Kept { drvData with pollingChanging := changing } log where
  handlers := kept.handlers
  requested := kept.requested
  turn := kept.turn
  serial := kept.serial
  alternate := kept.alternate

theorem kept_opening (kept : Kept drvData log) (free : inProgress log = none)
    (none : drvData.measurementId = 0) {id : Nat} (nonzero : id ≠ 0) :
    Kept (signalConnect drvData id) (.started .openSync :: log) where
  handlers := by
    have handlers := kept.handlers
    rw [if_pos none] at handlers
    show id :: drvData.handlers = if id = 0 then [] else [id]
    rw [handlers, if_neg nonzero]
  requested := kept.requested
  turn := by
    intro _
    exact ⟨fun _ => rfl, fun _ => nonzero⟩
  serial := ⟨free, kept.serial⟩
  alternate := by
    constructor
    · intro fine started
      exact (kept.turn fine).mpr started none
    · exact kept.alternate

theorem kept_closing (kept : Kept drvData log) (free : inProgress log = none)
    (some : drvData.measurementId ≠ 0) :
    Kept (clearSignalHandler drvData) (.started .closeSync :: log) where
  handlers := by
    rw [clear_handlers kept, clear_id, if_pos rfl]
  requested := by
    rw [clear_requested]
    exact kept.requested
  turn := by
    intro _
    rw [clear_id]
    constructor
    · intro impossible
      exact absurd rfl impossible
    · intro impossible
      cases impossible
  serial := ⟨free, kept.serial⟩
  alternate := ⟨fun fine => (kept.turn fine).mp some, kept.alternate⟩

theorem kept_ended (kept : Kept drvData log) (call : SyncCall) :
    Kept drvData (.ended call true :: log) where
  handlers := kept.handlers
  requested := kept.requested
  turn := kept.turn
  serial := kept.serial
  alternate := kept.alternate

theorem kept_failed (kept : Kept drvData log) (call : SyncCall) :
    Kept drvData (.ended call false :: log) where
  handlers := kept.handlers
  requested := kept.requested
  turn := by
    intro impossible
    cases impossible
  serial := kept.serial
  alternate := kept.alternate

theorem kept_openFailed (kept : Kept drvData log) :
    Kept (clearSignalHandler drvData) (.ended .openSync false :: log) where
  handlers := by
    rw [clear_handlers kept, clear_id, if_pos rfl]
  requested := by
    rw [clear_requested]
    exact kept.requested
  turn := by
    intro impossible
    cases impossible
  serial := kept.serial
  alternate := kept.alternate

/-- What a failed close leaves. -/
theorem settled_closeFailed (kept : Kept drvData log) (busy : Busy drvData log .closeSync) :
    Settled drvData (.ended .closeSync false :: log) := by
  have none : drvData.measurementId = 0 := by
    apply Classical.byContradiction
    intro some
    cases busy.connected.mp some
  have requested := kept.requested
  cases last : lastRequest log with
  | none =>
      rw [last] at requested
      constructor
      · left
        rw [none, requested]
        rfl
      · intro dropped
        rw [Dropped, last] at dropped
        cases dropped
  | some state =>
      rw [last] at requested
      cases state with
      | false =>
          constructor
          · left
            rw [none, requested]
            rfl
          · intro dropped
            rw [Dropped, last] at dropped
            cases dropped
      | true =>
          constructor
          · exact Or.inr (Or.inr last)
          · intro _
            exact ⟨none, busy.reopened rfl last⟩

/-- One step, by what the innermost call does. -/
theorem good_step {world next : World} (good : Good world) (step : Step world next) :
    Good next := by
  obtain ⟨kept, shape⟩ := good
  cases step with
  | call state dispatches =>
      rename_i drvData stack log
      refine ⟨kept, ?_⟩
      match stack, dispatches with
      | [], _ => exact ⟨shape.1, shape.2.1⟩
      | [.inside call], _ => exact shape
      | .inside call :: other :: rest, _ => exact shape.elim
  | request =>
      rename_i drvData stack log state
      refine ⟨kept_request kept state, ?_⟩
      match stack with
      | [] => exact ⟨shape.1, shape.2, fun impossible => impossible⟩
      | [.inside call] => exact busy_request shape state
      | .inside call :: other :: rest => exact shape.elim
      | .entered _ :: rest => exact shape.elim
      | .requested :: rest => exact shape.elim
      | .looping :: rest => exact shape.elim
      | .leaving :: rest => exact shape.elim
  | coalesced changing =>
      rename_i drvData stack log
      refine ⟨kept, ?_⟩
      match stack with
      | [] =>
          have idle : drvData.pollingChanging = false := shape.1
          rw [idle] at changing
          cases changing
      | [.inside call] => exact shape
      | .inside call :: other :: rest => exact shape.elim
      | .entered _ :: rest => exact shape.elim
      | .requested :: rest => exact shape.elim
      | .looping :: rest => exact shape.elim
      | .leaving :: rest => exact shape.elim
  | change settled =>
      rename_i drvData stack log
      refine ⟨kept_changing kept true, ?_⟩
      match stack with
      | [] => exact ⟨rfl, shape.2⟩
      | [.inside call] =>
          have busy : drvData.pollingChanging = true := shape.changing
          rw [busy] at settled
          cases settled
      | .inside call :: other :: rest => exact shape.elim
      | .entered _ :: rest => exact shape.elim
      | .requested :: rest => exact shape.elim
      | .looping :: rest => exact shape.elim
      | .leaving :: rest => exact shape.elim
  | settle same =>
      rename_i drvData stack log
      refine ⟨kept, ?_⟩
      match stack with
      | [] =>
          refine ⟨shape.1, shape.2.1, Or.inl same, ?_⟩
          intro dropped
          exact absurd dropped shape.2.2
      | other :: rest => exact shape.elim
  | opening differs wanted nonzero =>
      rename_i drvData stack log id
      have none : drvData.measurementId = 0 := by
        apply Classical.byContradiction
        intro some
        apply differs
        rw [wanted]
        exact decide_eq_true some
      match stack with
      | [] =>
          refine ⟨kept_opening kept shape.2.1 none nonzero, ?_⟩
          exact {
            changing := shape.1
            inProgress := rfl
            connected := ⟨fun _ => rfl, fun _ => nonzero⟩
            reopened := fun impossible => by cases impossible }
      | other :: rest => exact shape.elim
  | opened =>
      rename_i drvData stack log
      match stack with
      | [] => exact ⟨kept_ended kept .openSync, shape.changing, rfl, fun impossible => impossible⟩
      | other :: rest => exact shape.elim
  | openFailed =>
      rename_i drvData stack log
      match stack with
      | [] =>
          refine ⟨kept_openFailed kept, ?_⟩
          refine ⟨(clear_changing drvData).trans shape.changing, rfl, Or.inr (Or.inl rfl), ?_⟩
          intro impossible
          exact impossible.elim
      | other :: rest => exact shape.elim
  | closing differs unwanted =>
      rename_i drvData stack log
      have connected : drvData.measurementId ≠ 0 := by
        intro none
        apply differs
        rw [unwanted]
        exact decide_eq_false (not_not.mpr none)
      match stack with
      | [] =>
          refine ⟨kept_closing kept shape.2.1 connected, ?_⟩
          exact {
            changing := (clear_changing drvData).trans shape.1
            inProgress := rfl
            connected := ⟨fun wrong => absurd (clear_id drvData) wrong,
              fun impossible => by cases impossible⟩
            reopened := by
              intro _ last
              have requested := kept.requested
              have same : lastRequest log = some true := last
              rw [same, unwanted] at requested
              cases requested }
      | other :: rest => exact shape.elim
  | closed =>
      rename_i drvData stack log
      match stack with
      | [] => exact ⟨kept_ended kept .closeSync, shape.changing, rfl, fun impossible => impossible⟩
      | other :: rest => exact shape.elim
  | closeFailed =>
      rename_i drvData stack log
      match stack with
      | [] =>
          exact ⟨kept_failed kept .closeSync, shape.changing, rfl, settled_closeFailed kept shape⟩
      | other :: rest => exact shape.elim
  | leave =>
      rename_i drvData stack log
      match stack with
      | [] => exact ⟨kept_changing kept false, rfl, shape.2.1, shape.2.2.follows, shape.2.2.dropped⟩
      | other :: rest => exact shape.elim

end Steps

/-! ### Whole runs -/

theorem good_start : Good .start := by
  constructor
  · exact {
      handlers := rfl
      requested := rfl
      turn := fun _ => ⟨fun wrong => absurd rfl wrong, fun wrong => by cases wrong⟩
      serial := trivial
      alternate := trivial }
  · exact ⟨rfl, rfl, Or.inl rfl, fun impossible => impossible.elim⟩

def Reached : World → Prop := Relation.ReflTransGen Step .start

theorem good_reached {world : World} (reached : Reached world) : Good world := by
  induction reached with
  | refl => exact good_start
  | tail _ step ih => exact good_step ih step

theorem orderly_of_good {world : World} (good : Good world) : Orderly world where
  serial := good.kept.serial
  alternate := good.kept.alternate
  oneHandler := by
    rw [good.kept.handlers]
    split
    · exact Nat.zero_le 1
    · exact Nat.le_refl 1
  idle := by
    intro idle
    have shape := good.shape
    rw [idle] at shape
    exact shape.1

theorem dropped_last {log : List Event} (dropped : Dropped log) : lastRequest log = some true := by
  match log with
  | [] => exact dropped.elim
  | .ended .closeSync false :: rest => exact dropped
  | .ended .closeSync true :: rest => exact dropped.elim
  | .ended .openSync success :: rest => exact dropped.elim
  | .started call :: rest => exact dropped.elim
  | .request state :: rest => exact dropped.elim

/-- The outermost call converged unless the last close dropped a request. -/
theorem converged_iff {world : World} (good : Good world) (idle : world.stack = []) :
    Converged world ↔ ¬Dropped world.log := by
  obtain ⟨kept, shape⟩ := good
  rw [idle] at shape
  obtain ⟨_, _, follows, lost⟩ := shape
  have connected : world.drvData.handlers ≠ [] ↔ world.drvData.measurementId ≠ 0 := by
    rw [kept.handlers]
    split
    · rename_i none
      exact ⟨fun wrong => absurd rfl wrong, fun wrong => absurd none wrong⟩
    · rename_i some
      exact ⟨fun _ => some, fun _ => List.cons_ne_nil _ _⟩
  constructor
  · intro converged dropped
    obtain ⟨none, fine⟩ := lost dropped
    exact connected.mp ((converged true (dropped_last dropped) fine).mpr rfl) none
  · intro kept' state last fine
    have requested := kept.requested
    rw [last] at requested
    rcases follows with same | failed | dropped
    · rw [connected]
      rw [requested] at same
      constructor
      · intro some
        exact same.symm.trans (decide_eq_true some)
      · intro wanted
        rw [wanted] at same
        exact of_decide_eq_true same
    · rw [failed] at fine
      cases fine
    · exact absurd dropped kept'

/-- The step is a close that fails while polling is requested. -/
def Drops (world next : World) : Prop :=
  next.log = .ended .closeSync false :: world.log ∧ world.drvData.pollingRequested = true

def CalmStep (world next : World) : Prop := Step world next ∧ ¬Drops world next

def CalmlyReached : World → Prop := Relation.ReflTransGen CalmStep .start

theorem reached_of_calmly {world : World} (reached : CalmlyReached world) : Reached world := by
  induction reached with
  | refl => exact .refl
  | tail _ calm ih => exact .tail ih calm.1

theorem undropped_step {world next : World} (kept : Kept world.drvData world.log)
    (fine : ¬Dropped world.log) (calm : CalmStep world next) : ¬Dropped next.log := by
  obtain ⟨step, calm⟩ := calm
  cases step with
  | call => exact fine
  | coalesced => exact fine
  | change => exact fine
  | settle => exact fine
  | leave => exact fine
  | request => exact fun impossible => impossible
  | opening => exact fun impossible => impossible
  | opened => exact fun impossible => impossible
  | openFailed => exact fun impossible => impossible
  | closing => exact fun impossible => impossible
  | closed => exact fun impossible => impossible
  | closeFailed =>
      intro last
      apply calm
      constructor
      · rfl
      · have wanted : lastRequest _ = some true := last
        have requested := kept.requested
        simp only [wanted, Option.getD_some] at requested
        exact requested

theorem undropped {world : World} (reached : CalmlyReached world) : ¬Dropped world.log := by
  induction reached with
  | refl => exact fun impossible => impossible
  | tail before calm ih =>
      exact undropped_step (good_reached (reached_of_calmly before)).kept ih calm

/-- However the calls nest, the driver stays in order; and what an outermost call leaves is
what was requested last, exactly when no failing close dropped that request. -/
theorem polling_converges (world : World) :
    (Reached world → Orderly world ∧
      (world.stack = [] → (Converged world ↔ ¬Dropped world.log))) ∧
    (CalmlyReached world → world.stack = [] → Converged world) := by
  constructor
  · intro reached
    have good := good_reached reached
    exact ⟨orderly_of_good good, converged_iff good⟩
  · intro reached idle
    exact (converged_iff (good_reached (reached_of_calmly reached)) idle).mpr (undropped reached)

/-! ### A request that is dropped -/

/-- Polling was requested while the sensor was being closed, and the close failed. -/
def droppedWorld : World where
  drvData := { DrvData.start with pollingRequested := true }
  stack := []
  log := [.ended .closeSync false, .request true, .started .closeSync, .request false,
    .ended .openSync true, .started .openSync, .request true]

theorem droppedWorld_reached : Reached droppedWorld := by
  apply Relation.ReflTransGen.head (.call true trivial)
  apply Relation.ReflTransGen.head .request
  apply Relation.ReflTransGen.head (.change rfl)
  apply Relation.ReflTransGen.head (.opening (by decide) rfl Nat.one_ne_zero)
  apply Relation.ReflTransGen.head .opened
  apply Relation.ReflTransGen.head (.settle rfl)
  apply Relation.ReflTransGen.head .leave
  apply Relation.ReflTransGen.head (.call false trivial)
  apply Relation.ReflTransGen.head .request
  apply Relation.ReflTransGen.head (.change rfl)
  apply Relation.ReflTransGen.head (.closing (by decide) rfl)
  apply Relation.ReflTransGen.head (.call true trivial)
  apply Relation.ReflTransGen.head .request
  apply Relation.ReflTransGen.head (.coalesced rfl)
  apply Relation.ReflTransGen.head .closeFailed
  apply Relation.ReflTransGen.head .leave
  exact .refl

theorem droppedWorld_lost : Reached droppedWorld ∧ droppedWorld.stack = [] ∧
    ¬Converged droppedWorld := by
  refine ⟨droppedWorld_reached, rfl, ?_⟩
  intro converged
  exact (converged true rfl rfl).mpr rfl rfl

end Liuqin.Sensors.Polling
