/-
The power-key policy (device/power-key/liuqin-power-keyd.c).

A script is the sequence of events the daemon handles, with their times in
milliseconds.  What the key is known to be doing is read off the events alone,
and every action is traced back to the press that caused it.
-/

import Mathlib.Data.List.Basic

namespace Liuqin.Power.Key

/-! ### The machine -/

def longPressMs : Int := 1500

def shortPressMinMs : Int := 40

def reconnectMs : Int := 1000

inductive FsmEvent where
  | press
  | repeated
  | release
  | syncDropped
  | disconnect
  | reconnectUp
  | reconnectDown
  | stop
  deriving DecidableEq, Repr

structure PowerFsm where
  pressed : Bool
  longFired : Bool
  ignoreUntilRelease : Bool
  pressedAtMs : Int
  deriving DecidableEq, Repr

inductive Action where
  | short
  | long
  deriving DecidableEq, Repr

/-- The zeroed machine. -/
def PowerFsm.start : PowerFsm where
  pressed := false
  longFired := false
  ignoreUntilRelease := false
  pressedAtMs := 0

def fsmReset (ignoreUntilRelease : Bool) : PowerFsm where
  pressed := false
  longFired := false
  ignoreUntilRelease := ignoreUntilRelease
  pressedAtMs := 0

/-- The actions run on the way come second. -/
def fsmAdvance (fsm : PowerFsm) (now : Int) : PowerFsm × List Action :=
  if ¬fsm.pressed ∨ fsm.longFired ∨ fsm.ignoreUntilRelease then (fsm, [])
  else if now - fsm.pressedAtMs < longPressMs then (fsm, [])
  else ({ fsm with longFired := true }, [.long])

def fsmPress (fsm : PowerFsm) (now : Int) : PowerFsm :=
  if fsm.ignoreUntilRelease ∨ fsm.pressed then fsm
  else { fsm with pressed := true, longFired := false, pressedAtMs := now }

def fsmRelease (fsm : PowerFsm) (now : Int) : PowerFsm × List Action :=
  if fsm.ignoreUntilRelease then (fsmReset false, [])
  else if ¬fsm.pressed then (fsm, [])
  else if fsm.longFired then (fsmReset false, [])
  else if now - fsm.pressedAtMs < shortPressMinMs then (fsmReset false, [])
  else (fsmReset false, [.short])

/-- The switch behind the advance; `none` ends the loop. -/
def fsmSwitch (fsm : PowerFsm) (event : FsmEvent) (now : Int) : Option PowerFsm × List Action :=
  match event with
  | .press => (some (fsmPress fsm now), [])
  | .repeated => (some fsm, [])
  | .release => (some (fsmRelease fsm now).1, (fsmRelease fsm now).2)
  | .syncDropped => (some (fsmReset true), [])
  | .reconnectDown => (some (fsmReset true), [])
  | .disconnect => (some (fsmReset false), [])
  | .reconnectUp => (some (fsmReset false), [])
  | .stop => (none, [])

def fsmHandle (fsm : PowerFsm) (event : FsmEvent) (now : Int) : Option PowerFsm × List Action :=
  if event = .stop then fsmSwitch fsm event now
  else
    let advanced := fsmAdvance fsm now
    let switched := fsmSwitch advanced.1 event now
    (switched.1, advanced.2 ++ switched.2)

def pollTimeoutMs (fsm : PowerFsm) (now : Int) : Int :=
  if ¬fsm.pressed ∨ fsm.longFired ∨ fsm.ignoreUntilRelease then reconnectMs
  else
    let remaining := fsm.pressedAtMs + longPressMs - now
    if remaining ≤ 0 then 0 else if remaining > reconnectMs then reconnectMs else remaining

/-! ### Scripts -/

/-- An event, or the timer of a poll that timed out. -/
inductive Event where
  | fsm (event : FsmEvent)
  | tick
  deriving DecidableEq, Repr

structure Timed where
  event : Event
  now : Int
  deriving DecidableEq, Repr

/-- Nothing is handled behind a stop. -/
def step : Option PowerFsm → Timed → Option PowerFsm × List Action
  | none, _ => (none, [])
  | some fsm, timed =>
      match timed.event with
      | .tick => (some (fsmAdvance fsm timed.now).1, (fsmAdvance fsm timed.now).2)
      | .fsm event => fsmHandle fsm event timed.now

def run : Option PowerFsm → List Timed → List Action
  | _, [] => []
  | state, timed :: rest => (step state timed).2 ++ run (step state timed).1 rest

/-- The state before the event of this index. -/
def stateAt (script : List Timed) : Nat → Option PowerFsm
  | 0 => some .start
  | index + 1 =>
      match script[index]? with
      | none => stateAt script index
      | some timed => (step (stateAt script index) timed).1

/-- The actions run at the event of this index. -/
def actionsAt (script : List Timed) (index : Nat) : List Action :=
  match script[index]? with
  | none => []
  | some timed => (step (stateAt script index) timed).2

def eventAt (script : List Timed) (index : Nat) : Option Event := script[index]?.map Timed.event

def timeAt (script : List Timed) (index : Nat) : Int := (script[index]?.map Timed.now).getD 0

/-! ### The test script -/

def parseAction (action : String) : Option Event :=
  if action = "press" then some (.fsm .press)
  else if action = "repeat" then some (.fsm .repeated)
  else if action = "release" then some (.fsm .release)
  else if action = "syn-dropped" then some (.fsm .syncDropped)
  else if action = "disconnect" then some (.fsm .disconnect)
  else if action = "reconnect-up" then some (.fsm .reconnectUp)
  else if action = "reconnect-down" then some (.fsm .reconnectDown)
  else if action = "signal" then some (.fsm .stop)
  else if action = "tick" then some .tick
  else none

/-- The exit status and the actions, of the lines as they were scanned. -/
def runTestScript (fsm : PowerFsm) (previous : Int) : List (Int × String) → Nat × List Action
  | [] => (0, [])
  | (offset, action) :: rest =>
      if offset < previous ∨ offset < 0 then (64, [])
      else
        match parseAction action with
        | none => (64, [])
        | some event =>
            let stepped := step (some fsm) { event := event, now := offset }
            match stepped.1 with
            | none => (0, stepped.2)
            | some next =>
                let behind := runTestScript next offset rest
                (behind.1, stepped.2 ++ behind.2)

/-- The events of the lines before the first that is refused. -/
def scanned (previous : Int) : List (Int × String) → List Timed
  | [] => []
  | (offset, action) :: rest =>
      if offset < previous ∨ offset < 0 then []
      else
        match parseAction action with
        | none => []
        | some event => { event := event, now := offset } :: scanned offset rest

theorem run_stopped (script : List Timed) : run none script = [] := by
  induction script with
  | nil => rfl
  | cons timed rest ih => exact ih

/-- A test script runs the events it holds. -/
theorem runTestScript_run (fsm : PowerFsm) (previous : Int) (lines : List (Int × String)) :
    (runTestScript fsm previous lines).2 = run (some fsm) (scanned previous lines) := by
  induction lines generalizing fsm previous with
  | nil => rfl
  | cons line rest ih =>
      obtain ⟨offset, action⟩ := line
      rw [runTestScript, scanned]
      by_cases refused : offset < previous ∨ offset < 0
      · rw [if_pos refused, if_pos refused]
        rfl
      · rw [if_neg refused, if_neg refused]
        cases parseAction action with
        | none => rfl
        | some event =>
            show _ = (step (some fsm) ⟨event, offset⟩).2 ++
              run (step (some fsm) ⟨event, offset⟩).1 (scanned offset rest)
            cases stepped : (step (some fsm) ⟨event, offset⟩).1 with
            | none =>
                simp only [stepped, run_stopped, List.append_nil]
            | some next =>
                simp only [stepped, ih]

/-! ### The key -/

/-- What the events say of the key, with the index of the press that holds it
down. -/
inductive Known where
  | up
  | down (press : Nat)
  | unknown
  | stopped
  deriving DecidableEq, Repr

def Known.next (known : Known) (index : Nat) (event : Event) : Known :=
  match known, event with
  | .stopped, _ => .stopped
  | .up, .fsm .press => .down index
  | known, .fsm .press => known
  | known, .fsm .repeated => known
  | known, .tick => known
  | _, .fsm .release => .up
  | _, .fsm .disconnect => .up
  | _, .fsm .reconnectUp => .up
  | _, .fsm .syncDropped => .unknown
  | _, .fsm .reconnectDown => .unknown
  | _, .fsm .stop => .stopped

def knownAt (script : List Timed) : Nat → Known
  | 0 => .up
  | index + 1 =>
      match eventAt script index with
      | none => knownAt script index
      | some event => (knownAt script index).next index event

/-- A press while the key is known to be up. -/
def Accepted (script : List Timed) (press : Nat) : Prop :=
  eventAt script press = some (.fsm .press) ∧ knownAt script press = .up

/-- Events that do not interrupt a press. -/
def Holding (event : Event) : Prop :=
  event = .fsm .press ∨ event = .fsm .repeated ∨ event = .tick

instance (event : Event) : Decidable (Holding event) :=
  inferInstanceAs (Decidable (_ ∨ _ ∨ _))

/-- Events behind which the key is known to be up. -/
def Raises (event : Event) : Prop :=
  event = .fsm .release ∨ event = .fsm .disconnect ∨ event = .fsm .reconnectUp

/-- Events behind which the key's state is not known. -/
def Obscures (event : Event) : Prop := event = .fsm .syncDropped ∨ event = .fsm .reconnectDown

/-- An accepted press that is held without interruption up to an event. -/
structure Held (script : List Timed) (press index : Nat) : Prop where
  accepted : Accepted script press
  before : press < index
  holding : ∀ between event, press < between → between < index →
    eventAt script between = some event → Holding event

def heldMs (script : List Timed) (press index : Nat) : Int :=
  timeAt script index - timeAt script press

/-- The press was held for the long threshold at an earlier event. -/
def LongBefore (script : List Timed) (press index : Nat) : Prop :=
  ∃ between, press < between ∧ between < index ∧ longPressMs ≤ heldMs script press between

/-- An accepted press and an action run at an event up to which it is held. -/
def Causes (script : List Timed) (press index : Nat) : Prop :=
  Held script press index ∧ actionsAt script index ≠ []

section Key

variable {script : List Timed} {index press : Nat}

theorem next_down {known : Known} {event : Event} (down : known.next index event = .down press) :
    (known = .up ∧ event = .fsm .press ∧ press = index) ∨
      (known = .down press ∧ Holding event) := by
  cases known with
  | up =>
      cases event with
      | tick => cases down
      | fsm event =>
          cases event with
          | press =>
              cases down
              exact Or.inl ⟨rfl, rfl, rfl⟩
          | _ => cases down
  | down other =>
      cases event with
      | tick =>
          cases down
          exact Or.inr ⟨rfl, Or.inr (Or.inr rfl)⟩
      | fsm event =>
          cases event with
          | press =>
              cases down
              exact Or.inr ⟨rfl, Or.inl rfl⟩
          | repeated =>
              cases down
              exact Or.inr ⟨rfl, Or.inr (Or.inl rfl)⟩
          | _ => cases down
  | unknown =>
      cases event with
      | tick => cases down
      | fsm event => cases event <;> cases down
  | stopped => cases down

theorem Held.later (held : Held script press index)
    (holding : ∀ event, eventAt script index = some event → Holding event) :
    Held script press (index + 1) := by
  refine ⟨held.accepted, Nat.lt_succ_of_lt held.before, fun between event late early found => ?_⟩
  rcases Nat.lt_succ_iff_lt_or_eq.mp early with earlier | same
  · exact held.holding between event late earlier found
  · subst same
    exact holding event found

/-- The key is down by a press that is held. -/
theorem held_of_down (down : knownAt script index = .down press) : Held script press index := by
  induction index with
  | zero => cases down
  | succ index ih =>
      rw [knownAt] at down
      cases found : eventAt script index with
      | none =>
          rw [found] at down
          apply (ih down).later
          intro event same
          rw [found] at same
          cases same
      | some event =>
          rw [found] at down
          rcases next_down down with ⟨up, pressed, rfl⟩ | ⟨still, holding⟩
          · refine ⟨⟨by rw [found, pressed], up⟩, Nat.lt_succ_self press, ?_⟩
            intro between event late early
            omega
          · apply (ih still).later
            intro other same
            rw [found] at same
            cases same
            exact holding

theorem longBefore_succ (before : press < index) :
    LongBefore script press (index + 1) ↔
      LongBefore script press index ∨ longPressMs ≤ heldMs script press index := by
  constructor
  · rintro ⟨between, late, early, long⟩
    rcases Nat.lt_succ_iff_lt_or_eq.mp early with earlier | same
    · exact Or.inl ⟨between, late, earlier, long⟩
    · subst same
      exact Or.inr long
  · rintro (⟨between, late, early, long⟩ | long)
    · exact ⟨between, late, Nat.lt_succ_of_lt early, long⟩
    · exact ⟨index, before, Nat.lt_succ_self index, long⟩

/-! ### The machine follows the key -/

def Tracks (script : List Timed) (index : Nat) : Known → Option PowerFsm → Prop
  | .up, some fsm => fsm.pressed = false ∧ fsm.ignoreUntilRelease = false
  | .unknown, some fsm => fsm.pressed = false ∧ fsm.ignoreUntilRelease = true
  | .down press, some fsm => fsm.pressed = true ∧ fsm.ignoreUntilRelease = false ∧
      fsm.pressedAtMs = timeAt script press ∧
      (fsm.longFired = true ↔ LongBefore script press index)
  | .stopped, none => True
  | _, _ => False

/-- What may be run at an event. -/
inductive Ran (script : List Timed) (index : Nat) : Known → Event → List Action → Prop where
  | nothing {known : Known} {event : Event} : Ran script index known event []
  | long {press : Nat} {event : Event} (going : event ≠ .fsm .stop)
      (first : ¬LongBefore script press index)
      (reached : longPressMs ≤ heldMs script press index) :
      Ran script index (.down press) event [.long]
  | short {press : Nat} (first : ¬LongBefore script press index)
      (least : shortPressMinMs ≤ heldMs script press index)
      (most : heldMs script press index < longPressMs) :
      Ran script index (.down press) (.fsm .release) [.short]

/-- The timer while the key is not known to be down. -/
theorem fsmAdvance_idle {fsm : PowerFsm} {now : Int} (idle : fsm.pressed = false) :
    fsmAdvance fsm now = (fsm, []) := by
  rw [fsmAdvance, if_pos]
  rw [idle]
  exact Or.inl Bool.false_ne_true

/-- The timer while the key is down. -/
theorem fsmAdvance_down {fsm : PowerFsm} {now : Int} (before : press < index)
    (tracks : Tracks script index (.down press) (some fsm)) (timed : now = timeAt script index) :
    Tracks script (index + 1) (.down press) (some (fsmAdvance fsm now).1) ∧
    ((fsmAdvance fsm now).2 = [] ∧ (LongBefore script press index ∨
        heldMs script press index < longPressMs) ∨
      (fsmAdvance fsm now).2 = [.long] ∧ ¬LongBefore script press index ∧
        longPressMs ≤ heldMs script press index) := by
  obtain ⟨pressed, known, pressedAt, fired⟩ := tracks
  have elapsed : now - fsm.pressedAtMs = heldMs script press index := by
    rw [timed, pressedAt]
    rfl
  have later : LongBefore script press (index + 1) ↔ LongBefore script press index ∨
      longPressMs ≤ heldMs script press index := longBefore_succ before
  by_cases already : fsm.longFired = true
  · have same : fsmAdvance fsm now = (fsm, []) := if_pos (Or.inr (Or.inl already))
    rw [same]
    refine ⟨⟨pressed, known, pressedAt, ?_⟩, Or.inl ⟨rfl, Or.inl (fired.mp already)⟩⟩
    rw [later]
    exact ⟨fun _ => Or.inl (fired.mp already), fun _ => already⟩
  · have first : ¬LongBefore script press index := fun long => already (fired.mpr long)
    have armed : ¬(¬fsm.pressed = true ∨ fsm.longFired = true ∨ fsm.ignoreUntilRelease = true) := by
      rw [pressed, known]
      simp only [not_true_eq_false, Bool.false_eq_true, or_false, false_or]
      exact already
    by_cases short : now - fsm.pressedAtMs < longPressMs
    · have same : fsmAdvance fsm now = (fsm, []) := by
        rw [fsmAdvance, if_neg armed, if_pos short]
      rw [elapsed] at short
      rw [same]
      refine ⟨⟨pressed, known, pressedAt, ?_⟩, Or.inl ⟨rfl, Or.inr short⟩⟩
      rw [later]
      constructor
      · exact fun wrong => absurd wrong already
      · rintro (long | long)
        · exact absurd long first
        · omega
    · have same : fsmAdvance fsm now = ({ fsm with longFired := true }, [.long]) := by
        rw [fsmAdvance, if_neg armed, if_neg short]
      rw [elapsed, Int.not_lt] at short
      rw [same]
      refine ⟨⟨pressed, known, pressedAt, ?_⟩, Or.inr ⟨rfl, first, short⟩⟩
      rw [later]
      exact ⟨fun _ => Or.inr short, fun _ => rfl⟩

/-- The release of a press. -/
theorem fsmRelease_down {fsm : PowerFsm} {now : Int}
    (tracks : Tracks script (index + 1) (.down press) (some fsm))
    (timed : now = timeAt script index) :
    (fsmRelease fsm now).1 = fsmReset false ∧
    ((fsmRelease fsm now).2 = [] ∨
      (fsmRelease fsm now).2 = [.short] ∧ ¬LongBefore script press (index + 1) ∧
        shortPressMinMs ≤ heldMs script press index) := by
  obtain ⟨pressed, known, pressedAt, fired⟩ := tracks
  have elapsed : now - fsm.pressedAtMs = heldMs script press index := by
    rw [timed, pressedAt]
    rfl
  unfold fsmRelease
  rw [pressed, known, elapsed, if_neg Bool.false_ne_true, if_neg (not_not.mpr rfl)]
  split
  · exact ⟨rfl, Or.inl rfl⟩
  · rename_i first
    split
    · exact ⟨rfl, Or.inl rfl⟩
    · rename_i least
      exact ⟨rfl, Or.inr ⟨rfl, fun long => first (fired.mpr long), Int.not_lt.mp least⟩⟩

/-- What one event does to the machine and runs, case by case of what is known
of the key. -/
theorem step_tracks {known : Known} {state : Option PowerFsm} {timed : Timed}
    (tracks : Tracks script index known state) (found : script[index]? = some timed)
    (before : ∀ press, known = .down press → press < index) :
    Tracks script (index + 1) (known.next index timed.event) (step state timed).1 ∧
    Ran script index known timed.event (step state timed).2 := by
  have now : timed.now = timeAt script index := by
    rw [timeAt, found]
    rfl
  rcases timed with ⟨event, time⟩
  cases known with
  | stopped =>
      cases state with
      | none => exact ⟨trivial, .nothing⟩
      | some fsm => exact tracks.elim
  | up =>
      cases state with
      | none => exact tracks.elim
      | some fsm =>
          obtain ⟨pressed, known⟩ := tracks
          have idle : fsmAdvance fsm time = (fsm, []) := fsmAdvance_idle pressed
          cases event with
          | tick =>
              simp only [step, idle]
              exact ⟨⟨pressed, known⟩, .nothing⟩
          | fsm event =>
              cases event with
              | press =>
                  have down : fsmPress fsm time =
                      { fsm with pressed := true, longFired := false, pressedAtMs := time } := by
                    rw [fsmPress, if_neg]
                    rw [pressed, known]
                    simp only [Bool.false_eq_true, or_self, not_false_eq_true]
                  have none : ¬LongBefore script index (index + 1) := by
                    rintro ⟨between, late, early, _⟩
                    omega
                  simp only [step, fsmHandle, fsmSwitch, idle, down, reduceCtorEq, if_false,
                    List.append_nil]
                  refine ⟨⟨rfl, known, now, ?_⟩, .nothing⟩
                  exact ⟨fun wrong => absurd wrong Bool.false_ne_true, fun long => absurd long none⟩
              | release =>
                  have still : fsmRelease fsm time = (fsm, []) := by
                    rw [fsmRelease, known, pressed]
                    rfl
                  simp only [step, fsmHandle, fsmSwitch, idle, still, reduceCtorEq, if_false,
                    List.append_nil]
                  exact ⟨⟨pressed, known⟩, .nothing⟩
              | repeated =>
                  simp only [step, fsmHandle, fsmSwitch, idle, reduceCtorEq, if_false,
                    List.append_nil]
                  exact ⟨⟨pressed, known⟩, .nothing⟩
              | stop => exact ⟨trivial, .nothing⟩
              | _ =>
                  simp only [step, fsmHandle, fsmSwitch, idle, reduceCtorEq, if_false,
                    List.append_nil]
                  exact ⟨⟨rfl, rfl⟩, .nothing⟩
  | unknown =>
      cases state with
      | none => exact tracks.elim
      | some fsm =>
          obtain ⟨pressed, ignored⟩ := tracks
          have idle : fsmAdvance fsm time = (fsm, []) := fsmAdvance_idle pressed
          cases event with
          | tick =>
              simp only [step, idle]
              exact ⟨⟨pressed, ignored⟩, .nothing⟩
          | fsm event =>
              cases event with
              | press =>
                  have same : fsmPress fsm time = fsm := by
                    rw [fsmPress, if_pos (Or.inl ignored)]
                  simp only [step, fsmHandle, fsmSwitch, idle, same, reduceCtorEq, if_false,
                    List.append_nil]
                  exact ⟨⟨pressed, ignored⟩, .nothing⟩
              | release =>
                  have reset : fsmRelease fsm time = (fsmReset false, []) := by
                    rw [fsmRelease, if_pos ignored]
                  simp only [step, fsmHandle, fsmSwitch, idle, reset, reduceCtorEq, if_false,
                    List.append_nil]
                  exact ⟨⟨rfl, rfl⟩, .nothing⟩
              | repeated =>
                  simp only [step, fsmHandle, fsmSwitch, idle, reduceCtorEq, if_false,
                    List.append_nil]
                  exact ⟨⟨pressed, ignored⟩, .nothing⟩
              | stop => exact ⟨trivial, .nothing⟩
              | _ =>
                  simp only [step, fsmHandle, fsmSwitch, idle, reduceCtorEq, if_false,
                    List.append_nil]
                  exact ⟨⟨rfl, rfl⟩, .nothing⟩
  | down press =>
      cases state with
      | none => exact tracks.elim
      | some fsm =>
          have early := before press rfl
          obtain ⟨still, ran⟩ := fsmAdvance_down early tracks now
          -- what the timer runs, whatever the event but a stop
          have timer : event ≠ .fsm .stop →
              Ran script index (.down press) event (fsmAdvance fsm time).2 := by
            intro going
            rcases ran with ⟨none, _⟩ | ⟨long, first, reached⟩
            · rw [none]
              exact .nothing
            · rw [long]
              exact .long going first reached
          cases event with
          | tick => exact ⟨still, timer (by decide)⟩
          | fsm event =>
              cases event with
              | press =>
                  have same : fsmPress (fsmAdvance fsm time).1 time = (fsmAdvance fsm time).1 := by
                    rw [fsmPress, if_pos (Or.inr still.1)]
                  simp only [step, fsmHandle, fsmSwitch, same, reduceCtorEq, if_false,
                    List.append_nil]
                  exact ⟨still, timer (by decide)⟩
              | repeated =>
                  simp only [step, fsmHandle, fsmSwitch, reduceCtorEq, if_false, List.append_nil]
                  exact ⟨still, timer (by decide)⟩
              | release =>
                  obtain ⟨reset, released⟩ := fsmRelease_down still now
                  simp only [step, fsmHandle, fsmSwitch, reset, reduceCtorEq, if_false]
                  refine ⟨⟨rfl, rfl⟩, ?_⟩
                  rcases released with none | ⟨short, first, least⟩
                  · rw [none, List.append_nil]
                    exact timer (by decide)
                  · rw [longBefore_succ early, not_or, Int.not_le] at first
                    rcases ran with ⟨none, _⟩ | ⟨_, _, reached⟩
                    · rw [none, short]
                      exact .short first.1 least first.2
                    · omega
              | stop => exact ⟨trivial, .nothing⟩
              | _ =>
                  simp only [step, fsmHandle, fsmSwitch, reduceCtorEq, if_false, List.append_nil]
                  exact ⟨⟨rfl, rfl⟩, timer (by decide)⟩

/-- By induction on the events. -/
theorem tracked (within : index ≤ script.length) :
    Tracks script index (knownAt script index) (stateAt script index) := by
  induction index with
  | zero => exact ⟨rfl, rfl⟩
  | succ index ih =>
      have found : script[index]? = some script[index] := List.getElem?_eq_getElem within
      have event : eventAt script index = some script[index].event := by
        rw [eventAt, found]
        rfl
      rw [knownAt, stateAt, event, found]
      apply (step_tracks (ih (Nat.le_of_lt within)) found _).1
      exact fun press down => (held_of_down down).before

theorem ran {event : Event} (happens : eventAt script index = some event) :
    Ran script index (knownAt script index) event (actionsAt script index) := by
  cases found : script[index]? with
  | none =>
      rw [eventAt, found] at happens
      cases happens
  | some timed =>
      rw [eventAt, found] at happens
      cases happens
      have within : index ≤ script.length := by
        apply Nat.le_of_lt
        exact (List.getElem?_eq_some_iff.mp found).1
      rw [actionsAt, found]
      apply (step_tracks (tracked within) found _).2
      exact fun press down => (held_of_down down).before

theorem happens_of_action (acts : actionsAt script index ≠ []) :
    ∃ event, eventAt script index = some event := by
  cases found : script[index]? with
  | none =>
      rw [actionsAt, found] at acts
      exact absurd rfl acts
  | some timed =>
      refine ⟨timed.event, ?_⟩
      rw [eventAt, found]
      rfl

/-! ### The policy -/

/-- The actions of a run are those at its events. -/
theorem run_actionsAt (script : List Timed) :
    run (some .start) script = (List.range script.length).flatMap (actionsAt script) := by
  have behind : ∀ (rest front : List Timed), script = front ++ rest →
      run (stateAt script front.length) rest =
        (List.range' front.length rest.length).flatMap (actionsAt script) := by
    intro rest
    induction rest with
    | nil => exact fun _ _ => rfl
    | cons timed rest ih =>
        intro front whole
        have found : script[front.length]? = some timed := by
          rw [whole, List.getElem?_append_right (Nat.le_refl _), Nat.sub_self]
          rfl
        have longer : script = (front ++ [timed]) ++ rest := by
          rw [whole, List.append_assoc]
          rfl
        have next := ih (front ++ [timed]) longer
        rw [List.length_append, List.length_singleton, stateAt, found] at next
        rw [List.length_cons, List.range'_succ, List.flatMap_cons, actionsAt, found, run, next]
  rw [List.range_eq_range']
  exact behind script [] rfl

/-- The key is down by the press that is held. -/
theorem down_of_held (held : Held script press index) (within : index ≤ script.length) :
    knownAt script index = .down press := by
  induction index with
  | zero =>
      have before := held.before
      omega
  | succ index ih =>
      have found : eventAt script index = some script[index].event := by
        rw [eventAt, List.getElem?_eq_getElem within]
        rfl
      rw [knownAt, found]
      rcases Nat.lt_succ_iff_lt_or_eq.mp held.before with earlier | same
      · have shorter : Held script press index :=
          ⟨held.accepted, earlier, fun between event late early =>
            held.holding between event late (Nat.lt_succ_of_lt early)⟩
        rw [ih shorter (Nat.le_of_lt within)]
        rcases held.holding index _ earlier (Nat.lt_succ_self index) found with same | same | same
        · rw [same]
          rfl
        · rw [same]
          rfl
        · rw [same]
          rfl
      · subst same
        obtain ⟨pressed, up⟩ := held.accepted
        rw [pressed] at found
        rw [up, ← Option.some.inj found]
        rfl

/-- Why an action was run. -/
theorem acted (acts : actionsAt script index ≠ []) :
    ∃ press, Held script press index ∧ ¬LongBefore script press index ∧
      (actionsAt script index = [.long] ∧ eventAt script index ≠ some (.fsm .stop) ∧
          longPressMs ≤ heldMs script press index ∨
        actionsAt script index = [.short] ∧ eventAt script index = some (.fsm .release) ∧
          shortPressMinMs ≤ heldMs script press index ∧
          heldMs script press index < longPressMs) := by
  obtain ⟨event, happens⟩ := happens_of_action acts
  have came := ran happens
  generalize known : knownAt script index = state at came
  generalize actions : actionsAt script index = list at came acts
  cases came with
  | nothing => exact absurd rfl acts
  | long going first reached =>
      refine ⟨_, held_of_down known, first, Or.inl ⟨rfl, ?_, reached⟩⟩
      rw [happens]
      exact fun same => going (Option.some.inj same)
  | short first least most =>
      exact ⟨_, held_of_down known, first, Or.inr ⟨rfl, happens, least, most⟩⟩

theorem within_of_action (acts : actionsAt script index ≠ []) : index ≤ script.length := by
  obtain ⟨event, happens⟩ := happens_of_action acts
  rw [eventAt, Option.map_eq_some_iff] at happens
  obtain ⟨timed, found, _⟩ := happens
  exact Nat.le_of_lt (List.getElem?_eq_some_iff.mp found).1

/-- The press that holds the key down is unique. -/
theorem Held.unique {other : Nat} (held : Held script press index) (too : Held script other index)
    (within : index ≤ script.length) : press = other := by
  have one := down_of_held held within
  have two := down_of_held too within
  rw [one] at two
  exact Known.down.inj two

/-- The earlier of two actions of one press ends it. -/
theorem caused_before {first second : Nat} (one : Causes script press first)
    (two : Causes script press second) : ¬first < second := by
  intro earlier
  obtain ⟨other, held, _, ran⟩ := acted one.2
  have same := one.1.unique held (within_of_action one.2)
  subst same
  obtain ⟨event, happens⟩ := happens_of_action one.2
  rcases ran with ⟨_, _, reached⟩ | ⟨_, released, _⟩
  · obtain ⟨again, heldAgain, unfired, _⟩ := acted two.2
    have same := two.1.unique heldAgain (within_of_action two.2)
    subst same
    exact unfired ⟨first, held.before, earlier, reached⟩
  · rw [released] at happens
    rcases two.1.holding first _ held.before earlier released with same | same | same
    · cases same
    · cases same
    · cases same

theorem obscured_until {lost : Nat} {event : Event} (happens : eventAt script lost = some event)
    (obscures : Obscures event) (behind : lost < index) :
    knownAt script index = .unknown ∨ knownAt script index = .stopped ∨
      ∃ raised event, lost < raised ∧ raised < index ∧ eventAt script raised = some event ∧
        Raises event := by
  induction index with
  | zero => omega
  | succ index ih =>
      rcases Nat.lt_succ_iff_lt_or_eq.mp behind with earlier | same
      · rcases ih earlier with unknown | stopped | ⟨raised, event, late, early, found, raises⟩
        · rw [knownAt]
          cases found : eventAt script index with
          | none => exact Or.inl unknown
          | some now =>
              by_cases raises : Raises now
              · exact Or.inr (Or.inr ⟨index, now, earlier, Nat.lt_succ_self index, found, raises⟩)
              · show Known.next (knownAt script index) index now = _ ∨
                  Known.next (knownAt script index) index now = _ ∨ _
                rw [unknown]
                cases now with
                | tick => exact Or.inl rfl
                | fsm now =>
                    cases now with
                    | release => exact absurd (Or.inl rfl) raises
                    | disconnect => exact absurd (Or.inr (Or.inl rfl)) raises
                    | reconnectUp => exact absurd (Or.inr (Or.inr rfl)) raises
                    | stop => exact Or.inr (Or.inl rfl)
                    | _ => exact Or.inl rfl
        · rw [knownAt, stopped]
          cases eventAt script index with
          | none => exact Or.inr (Or.inl rfl)
          | some now => exact Or.inr (Or.inl rfl)
        · exact Or.inr (Or.inr ⟨raised, event, late, Nat.lt_succ_of_lt early, found, raises⟩)
      · subst same
        rw [knownAt, happens]
        show Known.next (knownAt script lost) lost event = _ ∨
          Known.next (knownAt script lost) lost event = _ ∨ _
        rcases obscures with rfl | rfl
        · cases knownAt script lost with
          | stopped => exact Or.inr (Or.inl rfl)
          | _ => exact Or.inl rfl
        · cases knownAt script lost with
          | stopped => exact Or.inr (Or.inl rfl)
          | _ => exact Or.inl rfl

theorem stopped_after {stop : Nat} (happens : eventAt script stop = some (.fsm .stop))
    (behind : stop < index) : knownAt script index = .stopped := by
  induction index with
  | zero => omega
  | succ index ih =>
      rw [knownAt]
      rcases Nat.lt_succ_iff_lt_or_eq.mp behind with earlier | same
      · rw [ih earlier]
        cases eventAt script index with
        | none => rfl
        | some event => rfl
      · subst same
        rw [happens]
        cases knownAt script stop <;> rfl

end Key

structure Policy (script : List Timed) : Prop where
  single : ∀ index, (actionsAt script index).length ≤ 1
  caused : ∀ index, actionsAt script index ≠ [] → ∃ press, Causes script press index
  once : ∀ press first second, Causes script press first → Causes script press second →
    first = second
  short : ∀ index, .short ∈ actionsAt script index → ∃ press, Held script press index ∧
    eventAt script index = some (.fsm .release) ∧
    shortPressMinMs ≤ heldMs script press index ∧ heldMs script press index < longPressMs
  long : ∀ index, .long ∈ actionsAt script index → ∃ press, Held script press index ∧
    longPressMs ≤ heldMs script press index ∧
    ∀ other, Causes script press other → .short ∉ actionsAt script other
  obscured : ∀ lost index event, eventAt script lost = some event → Obscures event →
    lost < index → actionsAt script index ≠ [] →
    ∃ raised press event, lost < raised ∧ raised < press ∧ press < index ∧
      eventAt script raised = some event ∧ Raises event ∧ Accepted script press
  stopped : ∀ stop index, eventAt script stop = some (.fsm .stop) → stop ≤ index →
    actionsAt script index = []
  timeout : ∀ index fsm press now, index ≤ script.length → stateAt script index = some fsm →
    knownAt script index = .down press → ¬LongBefore script press index →
    0 ≤ pollTimeoutMs fsm now ∧
      pollTimeoutMs fsm now ≤ max 0 (timeAt script press + longPressMs - now)

/-- For every script, whatever its times. -/
theorem power_key_policy (script : List Timed) : Policy script := by
  constructor
  · intro index
    by_cases acts : actionsAt script index = []
    · rw [acts]
      exact Nat.zero_le 1
    · obtain ⟨press, _, _, ⟨long, _⟩ | ⟨short, _⟩⟩ := acted acts
      · rw [long]
        exact Nat.le_refl 1
      · rw [short]
        exact Nat.le_refl 1
  · intro index acts
    obtain ⟨press, held, _⟩ := acted acts
    exact ⟨press, held, acts⟩
  · intro press first second one two
    have front := caused_before one two
    have back := caused_before two one
    omega
  · intro index member
    have acts : actionsAt script index ≠ [] := List.ne_nil_of_mem member
    obtain ⟨press, held, _, ⟨long, _⟩ | ⟨_, released, bounds⟩⟩ := acted acts
    · rw [long, List.mem_singleton] at member
      cases member
    · exact ⟨press, held, released, bounds⟩
  · intro index member
    have acts : actionsAt script index ≠ [] := List.ne_nil_of_mem member
    obtain ⟨press, held, _, ⟨long, _, reached⟩ | ⟨short, _⟩⟩ := acted acts
    · refine ⟨press, held, reached, fun other causes again => ?_⟩
      have front := caused_before ⟨held, acts⟩ causes
      have back := caused_before causes ⟨held, acts⟩
      have same : other = index := by omega
      rw [same, long, List.mem_singleton] at again
      cases again
    · rw [short, List.mem_singleton] at member
      cases member
  · intro lost index event happens obscures behind acts
    obtain ⟨press, held, _⟩ := acted acts
    have notHolding : ¬Holding event := by
      rcases obscures with rfl | rfl
      · decide
      · decide
    have earlier : lost < press := by
      rcases Nat.lt_trichotomy lost press with before | same | after
      · exact before
      · subst same
        rw [held.accepted.1] at happens
        cases happens
        exact absurd (Or.inl rfl) notHolding
      · exact absurd (held.holding lost event after behind happens) notHolding
    rcases obscured_until happens obscures earlier with unknown | stopped | raised
    · rw [held.accepted.2] at unknown
      cases unknown
    · rw [held.accepted.2] at stopped
      cases stopped
    · obtain ⟨raised, other, late, early, found, raises⟩ := raised
      exact ⟨raised, press, other, late, early, held.before, found, raises, held.accepted⟩
  · intro stop index happens behind
    by_contra acts
    obtain ⟨press, held, _, ran⟩ := acted acts
    rcases Nat.lt_or_eq_of_le behind with before | same
    · have down := down_of_held held (within_of_action acts)
      rw [stopped_after happens before] at down
      cases down
    · subst same
      rcases ran with ⟨_, going, _⟩ | ⟨_, released, _⟩
      · exact going happens
      · rw [happens] at released
        cases released
  · intro index fsm press now within state down unfired
    have tracks := tracked within
    rw [state, down] at tracks
    obtain ⟨pressed, ignored, pressedAt, fired⟩ := tracks
    have armed : ¬(¬fsm.pressed = true ∨ fsm.longFired = true ∨ fsm.ignoreUntilRelease = true) := by
      rintro (wrong | wrong | wrong)
      · exact wrong pressed
      · exact unfired (fired.mp wrong)
      · rw [ignored] at wrong
        cases wrong
    have left : (0 : Int) < reconnectMs := by decide
    rw [pollTimeoutMs, if_neg armed, pressedAt]
    by_cases elapsed : timeAt script press + longPressMs - now ≤ 0
    · simp only [if_pos elapsed]
      omega
    · by_cases far : timeAt script press + longPressMs - now > reconnectMs
      · simp only [if_neg elapsed, if_pos far]
        omega
      · simp only [if_neg elapsed, if_neg far]
        omega

end Liuqin.Power.Key
