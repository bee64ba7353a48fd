/-
The power key in charger mode (device/charger-mode/liuqin-charger-mode-power-key.c).

Every event is classified when it is read.  A result is traced back to the press
that is held and to what armed the key before it.
-/

import Mathlib.Data.List.Basic

namespace Liuqin.Power.Charger

/-! ### One event -/

def evKey : Nat := 1

def keyPower : Nat := 116

def normalMinMs : Int := 50

def normalMaxMs : Int := 1999

def bootloaderMinMs : Int := 2000

def bootloaderMaxMs : Int := 7000

structure InputEvent where
  type : Nat
  code : Nat
  value : Int
  deriving DecidableEq, Repr

structure State where
  armed : Bool
  pressed : Bool
  pressedAt : Int
  deriving DecidableEq, Repr

def State.start : State where
  armed := false
  pressed := false
  pressedAt := 0

/-- The delay may elapse while an event is handled. -/
def arm (state : State) (now started armAfter : Int) : State :=
  if ¬state.armed ∧ now - started ≥ armAfter then { state with armed := true } else state

/-- The state behind the event, and the result: -1 goes on. -/
def classifyEvent (state : State) (now started armAfter : Int) (event : InputEvent) :
    State × Int :=
  let state := arm state now started armAfter
  if event.type ≠ evKey ∨ event.code ≠ keyPower then (state, -1)
  else if event.value = 1 ∧ state.armed then
    ({ state with pressed := true, pressedAt := now }, -1)
  else if event.value ≠ 0 then (state, -1)
  else if ¬state.armed ∨ ¬state.pressed then
    ({ state with armed := true, pressed := false }, -1)
  else
    let held := now - state.pressedAt
    let state := { state with pressed := false }
    if held ≥ normalMinMs ∧ held ≤ normalMaxMs then (state, 0)
    else if held ≥ bootloaderMinMs ∧ held ≤ bootloaderMaxMs then (state, 10)
    else (state, -1)

/-! ### Scripts -/

structure Timed where
  now : Int
  event : InputEvent
  deriving DecidableEq, Repr

/-- The events in the order in which they are read. -/
structure Script where
  started : Int
  armAfter : Int
  events : List Timed
  ordered : events.Pairwise (fun earlier later => earlier.now ≤ later.now)

/-- The state before the event of this index. -/
def Script.stateAt (script : Script) : Nat → State
  | 0 => .start
  | index + 1 =>
      match script.events[index]? with
      | none => script.stateAt index
      | some timed =>
          (classifyEvent (script.stateAt index) timed.now script.started script.armAfter
            timed.event).1

/-- The result at the event of this index. -/
def Script.resultAt (script : Script) (index : Nat) : Int :=
  match script.events[index]? with
  | none => -1
  | some timed =>
      (classifyEvent (script.stateAt index) timed.now script.started script.armAfter
        timed.event).2

/-- The exit status of `run_test_script`, from the lines as they were scanned. -/
def runTestScript (armAfter timeout : Int) (state : State) (lastOffset : Int) :
    List (String × Int) → Int
  | [] => 2
  | (action, offset) :: rest =>
      if offset < lastOffset ∨ offset > timeout ∨ (action ≠ "press" ∧ action ≠ "release") then 64
      else
        let event := { type := evKey, code := keyPower, value := if action = "press" then 1 else 0 }
        let classified := classifyEvent state (1000 + offset) 1000 armAfter event
        if classified.2 ≥ 0 then classified.2
        else runTestScript armAfter timeout classified.1 offset rest

/-! ### What the events say -/

section Events

variable (script : Script)

def Script.timeAt (index : Nat) : Int := (script.events[index]?.map Timed.now).getD 0

/-- The power key was reported with this value. -/
def Script.Reports (value : Int) (index : Nat) : Prop :=
  ∃ timed, script.events[index]? = some timed ∧
    timed.event = { type := evKey, code := keyPower, value := value }

def Script.Press (index : Nat) : Prop := script.Reports 1 index

def Script.Release (index : Nat) : Prop := script.Reports 0 index

/-- The delay has elapsed by then, or an earlier release was seen. -/
def Script.Armed (index : Nat) : Prop :=
  script.armAfter ≤ script.timeAt index - script.started ∨ ∃ earlier < index, script.Release earlier

/-- The latest press before the event; the key was not released since. -/
structure Script.Holds (press index : Nat) : Prop where
  before : press < index
  pressed : script.Press press
  latest : ∀ between, press < between → between < index → ¬script.Press between
  unreleased : ∀ between, press < between → between < index → ¬script.Release between

/-- How long the key was held at the event. -/
def Script.heldMs (press index : Nat) : Int := script.timeAt index - script.timeAt press

end Events

section Tracking

variable {script : Script} {index press : Nat} {timed : Timed}

theorem timeAt_found (found : script.events[index]? = some timed) :
    script.timeAt index = timed.now := by
  rw [Script.timeAt, found]
  rfl

theorem reports_found (found : script.events[index]? = some timed) (value : Int) :
    script.Reports value index ↔
      timed.event = { type := evKey, code := keyPower, value := value } := by
  constructor
  · rintro ⟨other, same, event⟩
    rw [found] at same
    injection same with same
    rw [same]
    exact event
  · intro event
    exact ⟨timed, found, event⟩

theorem timeAt_mono {earlier later : Nat} (before : earlier ≤ later)
    (within : later < script.events.length) : script.timeAt earlier ≤ script.timeAt later := by
  have earlierWithin : earlier < script.events.length := by omega
  rw [timeAt_found (List.getElem?_eq_getElem earlierWithin),
    timeAt_found (List.getElem?_eq_getElem within)]
  rcases Nat.lt_or_eq_of_le before with less | same
  · exact List.pairwise_iff_getElem.mp script.ordered earlier later earlierWithin within less
  · subst same
    exact Int.le_refl _

theorem holds_unique {other : Nat} (one : script.Holds press index)
    (two : script.Holds other index) : press = other := by
  rcases Nat.lt_trichotomy press other with less | same | more
  · exact absurd two.pressed (one.latest other less two.before)
  · exact same
  · exact absurd one.pressed (two.latest press more one.before)

theorem holds_now (pressed : script.Press index) : script.Holds index (index + 1) where
  before := Nat.lt_succ_self index
  pressed := pressed
  latest := by
    intro between late early
    omega
  unreleased := by
    intro between late early
    omega

theorem holds_later (holds : script.Holds press index) (notPress : ¬script.Press index)
    (notRelease : ¬script.Release index) : script.Holds press (index + 1) where
  before := Nat.lt_succ_of_lt holds.before
  pressed := holds.pressed
  latest := by
    intro between late early
    rcases Nat.lt_succ_iff_lt_or_eq.mp early with earlier | same
    · exact holds.latest between late earlier
    · rw [same]
      exact notPress
  unreleased := by
    intro between late early
    rcases Nat.lt_succ_iff_lt_or_eq.mp early with earlier | same
    · exact holds.unreleased between late earlier
    · rw [same]
      exact notRelease

/-- Unless it is the press itself, the event neither presses nor releases. -/
theorem holds_succ (holds : script.Holds press (index + 1)) :
    (press = index ∧ script.Press index) ∨
      (script.Holds press index ∧ ¬script.Press index ∧ ¬script.Release index) := by
  rcases Nat.lt_succ_iff_lt_or_eq.mp holds.before with earlier | same
  · right
    constructor
    · exact {
        before := earlier
        pressed := holds.pressed
        latest := fun between late early => holds.latest between late (Nat.lt_succ_of_lt early)
        unreleased := fun between late early =>
          holds.unreleased between late (Nat.lt_succ_of_lt early) }
    · exact ⟨holds.latest index earlier (Nat.lt_succ_self index),
        holds.unreleased index earlier (Nat.lt_succ_self index)⟩
  · left
    have pressed := holds.pressed
    rw [same] at pressed
    exact ⟨same, pressed⟩

/-! ### The state follows the events -/

/-- Armed before the event, by the time of an earlier one or by a release. -/
def Script.ArmedBefore (script : Script) (index : Nat) : Prop :=
  ∃ earlier < index, script.armAfter ≤ script.timeAt earlier - script.started ∨
    script.Release earlier

structure Follows (script : Script) (index : Nat) (state : State) : Prop where
  armed : state.armed = true ↔ script.ArmedBefore index
  pressed : state.pressed = true ↔ ∃ press, script.Holds press index ∧ script.Armed press
  pressedAt : ∀ press, script.Holds press index → script.Armed press →
    state.pressedAt = script.timeAt press

theorem armedBefore_succ : script.ArmedBefore (index + 1) ↔
    script.ArmedBefore index ∨ script.armAfter ≤ script.timeAt index - script.started ∨
      script.Release index := by
  constructor
  · rintro ⟨earlier, before, cause⟩
    rcases Nat.lt_succ_iff_lt_or_eq.mp before with less | same
    · exact Or.inl ⟨earlier, less, cause⟩
    · rw [same] at cause
      exact Or.inr cause
  · rintro (⟨earlier, before, cause⟩ | cause)
    · exact ⟨earlier, Nat.lt_succ_of_lt before, cause⟩
    · exact ⟨index, Nat.lt_succ_self index, cause⟩

/-- Time does not run backwards, so what armed the key once arms it now. -/
theorem armed_iff (within : index < script.events.length) :
    script.Armed index ↔ script.ArmedBefore index ∨
      script.armAfter ≤ script.timeAt index - script.started := by
  constructor
  · rintro (elapsed | ⟨earlier, before, released⟩)
    · exact Or.inr elapsed
    · exact Or.inl ⟨earlier, before, Or.inr released⟩
  · rintro (⟨earlier, before, elapsed | released⟩ | elapsed)
    · left
      have mono := timeAt_mono (Nat.le_of_lt before) within
      omega
    · exact Or.inr ⟨earlier, before, released⟩
    · exact Or.inl elapsed

theorem armed_later {later : Nat} (armed : script.Armed press) (before : press ≤ later)
    (within : later < script.events.length) : script.Armed later := by
  rcases armed with elapsed | ⟨earlier, early, released⟩
  · left
    have mono := timeAt_mono before within
    omega
  · exact Or.inr ⟨earlier, by omega, released⟩

/-! ### One step -/

theorem arm_pressed (state : State) (now started armAfter : Int) :
    (arm state now started armAfter).pressed = state.pressed ∧
      (arm state now started armAfter).pressedAt = state.pressedAt := by
  unfold arm
  split
  · exact ⟨rfl, rfl⟩
  · exact ⟨rfl, rfl⟩

theorem arm_armed (state : State) (now started armAfter : Int) :
    (arm state now started armAfter).armed = true ↔
      state.armed = true ∨ armAfter ≤ now - started := by
  unfold arm
  split
  · rename_i elapsed
    constructor
    · intro _
      exact Or.inr elapsed.2
    · intro _
      rfl
  · rename_i not
    constructor
    · exact Or.inl
    · rintro (armed | elapsed)
      · exact armed
      · apply Classical.byContradiction
        intro unarmed
        exact not ⟨unarmed, elapsed⟩

theorem classify_other {state : State} {now started armAfter : Int} {event : InputEvent}
    (notPress : event ≠ { type := evKey, code := keyPower, value := 1 })
    (notRelease : event ≠ { type := evKey, code := keyPower, value := 0 }) :
    classifyEvent state now started armAfter event = (arm state now started armAfter, -1) := by
  unfold classifyEvent
  by_cases other : event.type ≠ evKey ∨ event.code ≠ keyPower
  · rw [if_pos other]
  · rw [if_neg other]
    rw [not_or, not_not, not_not] at other
    obtain ⟨type, code⟩ := other
    have valued : ∀ value, event.value = value →
        event = { type := evKey, code := keyPower, value := value } := by
      intro value same
      rw [← type, ← code, ← same]
    have notOne : event.value ≠ 1 := fun one => notPress (valued 1 one)
    have notZero : event.value ≠ 0 := fun zero => notRelease (valued 0 zero)
    simp only
    rw [if_neg (fun both => notOne both.1), if_pos notZero]

theorem classify_press (state : State) (now started armAfter : Int) :
    classifyEvent state now started armAfter { type := evKey, code := keyPower, value := 1 } =
      (if (arm state now started armAfter).armed then
        { arm state now started armAfter with pressed := true, pressedAt := now }
      else arm state now started armAfter, -1) := by
  unfold classifyEvent
  rw [if_neg (by decide)]
  cases armed : (arm state now started armAfter).armed with
  | true => simp [armed]
  | false => simp [armed]

/-- What a hold of this length means. -/
def resultOf (held : Int) : Int :=
  if held ≥ normalMinMs ∧ held ≤ normalMaxMs then 0
  else if held ≥ bootloaderMinMs ∧ held ≤ bootloaderMaxMs then 10
  else -1

theorem classify_release (state : State) (now started armAfter : Int) :
    classifyEvent state now started armAfter { type := evKey, code := keyPower, value := 0 } =
      ({ arm state now started armAfter with armed := true, pressed := false },
        if (arm state now started armAfter).armed ∧ state.pressed then
          resultOf (now - state.pressedAt) else -1) := by
  obtain ⟨pressed, pressedAt⟩ := arm_pressed state now started armAfter
  unfold classifyEvent
  rw [if_neg (by decide)]
  cases armed : (arm state now started armAfter).armed with
  | false => simp [armed]
  | true =>
      cases held : state.pressed with
      | false => simp [armed, pressed, held]
      | true =>
          simp only [armed, pressed, pressedAt, held]
          unfold resultOf
          generalize now - state.pressedAt = length
          by_cases normal : length ≥ normalMinMs ∧ length ≤ normalMaxMs
          · simp [normal]
          · by_cases bootloader : length ≥ bootloaderMinMs ∧ length ≤ bootloaderMaxMs
            · simp [normal, bootloader]
            · simp [normal, bootloader]

/-- One event, by what it reports of the key. -/
theorem follows_step {state : State} (follows : Follows script index state)
    (found : script.events[index]? = some timed) :
    Follows script (index + 1)
      (classifyEvent state timed.now script.started script.armAfter timed.event).1 := by
  have within : index < script.events.length := (List.getElem?_eq_some_iff.mp found).1
  have now := timeAt_found found
  obtain ⟨kept, keptAt⟩ := arm_pressed state timed.now script.started script.armAfter
  have armedNow : (arm state timed.now script.started script.armAfter).armed = true ↔
      script.Armed index := by
    rw [arm_armed, follows.armed, armed_iff within, now]
  by_cases press : script.Press index
  · have notRelease : ¬script.Release index := by
      intro release
      have one := (reports_found found 1).mp press
      have zero := (reports_found found 0).mp release
      rw [one] at zero
      exact absurd zero (by decide)
    have armedLater : script.ArmedBefore (index + 1) ↔ script.Armed index := by
      rw [armedBefore_succ, armed_iff within]
      constructor
      · rintro (before | elapsed | release)
        · exact Or.inl before
        · exact Or.inr elapsed
        · exact absurd release notRelease
      · rintro (before | elapsed)
        · exact Or.inl before
        · exact Or.inr (Or.inl elapsed)
    have only : ∀ other, script.Holds other (index + 1) → other = index :=
      fun other holds => holds_unique holds (holds_now press)
    rw [(reports_found found 1).mp press, classify_press]
    by_cases armed : (arm state timed.now script.started script.armAfter).armed = true
    · rw [if_pos armed]
      constructor
      · rw [armedLater, ← armedNow]
      · constructor
        · intro _
          exact ⟨index, holds_now press, armedNow.mp armed⟩
        · intro _
          rfl
      · intro other holds _
        rw [only other holds, now]
    · rw [if_neg armed]
      constructor
      · rw [armedLater, armedNow]
      · rw [kept, follows.pressed]
        constructor
        · rintro ⟨other, holds, earlier⟩
          exact absurd (armed_later earlier (Nat.le_of_lt holds.before) within)
            (fun now => armed (armedNow.mpr now))
        · rintro ⟨other, holds, armedThen⟩
          rw [only other holds] at armedThen
          exact absurd (armedNow.mpr armedThen) armed
      · intro other holds armedThen
        rw [only other holds] at armedThen
        exact absurd (armedNow.mpr armedThen) armed
  · by_cases release : script.Release index
    · have none : ∀ other, ¬script.Holds other (index + 1) := by
        intro other holds
        rcases holds_succ holds with ⟨_, pressed⟩ | ⟨_, _, notRelease⟩
        · exact press pressed
        · exact notRelease release
      rw [(reports_found found 0).mp release, classify_release]
      constructor
      · rw [armedBefore_succ]
        constructor
        · intro _
          exact Or.inr (Or.inr release)
        · intro _
          rfl
      · constructor
        · intro impossible
          cases impossible
        · rintro ⟨other, holds, _⟩
          exact absurd holds (none other)
      · intro other holds
        exact absurd holds (none other)
    · have notOne : timed.event ≠ { type := evKey, code := keyPower, value := 1 } :=
        fun same => press ((reports_found found 1).mpr same)
      have notZero : timed.event ≠ { type := evKey, code := keyPower, value := 0 } :=
        fun same => release ((reports_found found 0).mpr same)
      have same : ∀ other, script.Holds other (index + 1) ↔ script.Holds other index := by
        intro other
        constructor
        · intro holds
          rcases holds_succ holds with ⟨_, pressed⟩ | ⟨earlier, _⟩
          · exact absurd pressed press
          · exact earlier
        · intro holds
          exact holds_later holds press release
      rw [classify_other notOne notZero]
      constructor
      · rw [armedNow, armedBefore_succ, armed_iff within]
        constructor
        · rintro (before | elapsed)
          · exact Or.inl before
          · exact Or.inr (Or.inl elapsed)
        · rintro (before | elapsed | released)
          · exact Or.inl before
          · exact Or.inr elapsed
          · exact absurd released release
      · rw [kept, follows.pressed]
        constructor
        · rintro ⟨other, holds, armed⟩
          exact ⟨other, (same other).mpr holds, armed⟩
        · rintro ⟨other, holds, armed⟩
          exact ⟨other, (same other).mp holds, armed⟩
      · intro other holds armed
        rw [keptAt]
        exact follows.pressedAt other ((same other).mp holds) armed

theorem follows_start : Follows script 0 .start := by
  constructor
  · constructor
    · intro impossible
      cases impossible
    · rintro ⟨earlier, before, _⟩
      omega
  · constructor
    · intro impossible
      cases impossible
    · rintro ⟨press, holds, _⟩
      have before := holds.before
      omega
  · intro press holds
    have before := holds.before
    omega

/-- By induction on the events. -/
theorem followed (script : Script) (index : Nat) (within : index ≤ script.events.length) :
    Follows script index (script.stateAt index) := by
  induction index with
  | zero => exact follows_start
  | succ index ih =>
      have found : script.events[index]? = some script.events[index] :=
        List.getElem?_eq_getElem within
      rw [Script.stateAt, found]
      exact follows_step (ih (Nat.le_of_lt within)) found

end Tracking

/-! ### The results -/

/-- The release of an armed press that was held this long. -/
structure Script.Ends (script : Script) (index : Nat) (least most : Int) : Prop where
  release : script.Release index
  held : ∃ press, script.Holds press index ∧ script.Armed press ∧
    least ≤ script.heldMs press index ∧ script.heldMs press index ≤ most

/-- What the results of a script say of its events. -/
structure Classified (script : Script) : Prop where
  normal : ∀ index, script.resultAt index = 0 ↔ script.Ends index 50 1999
  bootloader : ∀ index, script.resultAt index = 10 ↔ script.Ends index 2000 7000
  otherwise : ∀ index, script.resultAt index = 0 ∨ script.resultAt index = 10 ∨
    script.resultAt index = -1

section Results

variable {script : Script} {index press : Nat} {timed : Timed}

theorem resultOf_cases (held : Int) :
    (resultOf held = 0 ↔ 50 ≤ held ∧ held ≤ 1999) ∧
      (resultOf held = 10 ↔ 2000 ≤ held ∧ held ≤ 7000) ∧
      (resultOf held = 0 ∨ resultOf held = 10 ∨ resultOf held = -1) := by
  unfold resultOf normalMinMs normalMaxMs bootloaderMinMs bootloaderMaxMs
  split
  · omega
  · split
    · omega
    · omega

theorem resultAt_found (found : script.events[index]? = some timed) :
    script.resultAt index = (classifyEvent (script.stateAt index) timed.now script.started
      script.armAfter timed.event).2 := by
  rw [Script.resultAt, found]

/-- Without a release there is no result. -/
theorem resultAt_other (notRelease : ¬script.Release index) : script.resultAt index = -1 := by
  cases found : script.events[index]? with
  | none => rw [Script.resultAt, found]
  | some timed =>
      have notZero : timed.event ≠ { type := evKey, code := keyPower, value := 0 } :=
        fun same => notRelease ((reports_found found 0).mpr same)
      rw [resultAt_found found]
      by_cases press : script.Press index
      · rw [(reports_found found 1).mp press, classify_press]
      · have notOne : timed.event ≠ { type := evKey, code := keyPower, value := 1 } :=
          fun same => press ((reports_found found 1).mpr same)
        rw [classify_other notOne notZero]

/-- A release decides by the press that holds the key, if that one was armed. -/
theorem resultAt_held (release : script.Release index) (holds : script.Holds press index)
    (armed : script.Armed press) : script.resultAt index = resultOf (script.heldMs press index) := by
  obtain ⟨timed, found, event⟩ := release
  have within : index < script.events.length := (List.getElem?_eq_some_iff.mp found).1
  have follows := followed script index (Nat.le_of_lt within)
  have pressed := follows.pressed.mpr ⟨press, holds, armed⟩
  have now : (arm (script.stateAt index) timed.now script.started script.armAfter).armed =
      true := by
    rw [arm_armed, follows.armed, ← timeAt_found found, ← armed_iff within]
    exact armed_later armed (Nat.le_of_lt holds.before) within
  rw [resultAt_found found, event, classify_release, if_pos ⟨now, pressed⟩,
    follows.pressedAt press holds armed, Script.heldMs, timeAt_found found]

theorem resultAt_idle (idle : ¬∃ press, script.Holds press index ∧ script.Armed press) :
    script.resultAt index = -1 := by
  by_cases release : script.Release index
  · obtain ⟨timed, found, event⟩ := release
    have within : index < script.events.length := (List.getElem?_eq_some_iff.mp found).1
    have follows := followed script index (Nat.le_of_lt within)
    have unpressed : ¬(script.stateAt index).pressed = true :=
      fun pressed => idle (follows.pressed.mp pressed)
    rw [resultAt_found found, event, classify_release, if_neg (fun both => unpressed both.2)]
  · exact resultAt_other release

theorem resultAt_ends (result least most : Int) (positive : 0 ≤ result)
    (window : ∀ held, resultOf held = result ↔ least ≤ held ∧ held ≤ most) :
    script.resultAt index = result ↔ script.Ends index least most := by
  constructor
  · intro same
    constructor
    · apply Classical.byContradiction
      intro notRelease
      rw [resultAt_other notRelease] at same
      omega
    · apply Classical.byContradiction
      intro not
      by_cases idle : ∃ press, script.Holds press index ∧ script.Armed press
      · obtain ⟨press, holds, armed⟩ := idle
        by_cases release : script.Release index
        · rw [resultAt_held release holds armed] at same
          exact not ⟨press, holds, armed, (window _).mp same⟩
        · rw [resultAt_other release] at same
          omega
      · rw [resultAt_idle idle] at same
        omega
  · rintro ⟨release, press, holds, armed, within⟩
    rw [resultAt_held release holds armed]
    exact (window _).mpr within

end Results

/-- A result comes from a release of the power key whose press was armed, by its length. -/
theorem charger_classified (script : Script) : Classified script := by
  constructor
  · intro index
    exact resultAt_ends 0 50 1999 (by decide) (fun held => (resultOf_cases held).1)
  · intro index
    exact resultAt_ends 10 2000 7000 (by decide) (fun held => (resultOf_cases held).2.1)
  · intro index
    by_cases release : script.Release index
    · by_cases held : ∃ press, script.Holds press index ∧ script.Armed press
      · obtain ⟨press, holds, armed⟩ := held
        rw [resultAt_held release holds armed]
        exact (resultOf_cases _).2.2
      · rw [resultAt_idle held]
        exact Or.inr (Or.inr rfl)
    · rw [resultAt_other release]
      exact Or.inr (Or.inr rfl)

/-! ### The test script -/

def lineEvent (action : String) : InputEvent :=
  { type := evKey, code := keyPower, value := if action = "press" then 1 else 0 }

/-- The events of the lines before the first that is refused. -/
def scanned (timeout lastOffset : Int) : List (String × Int) → List Timed
  | [] => []
  | (action, offset) :: rest =>
      if offset < lastOffset ∨ offset > timeout ∨ (action ≠ "press" ∧ action ≠ "release") then []
      else { now := 1000 + offset, event := lineEvent action } :: scanned timeout offset rest

theorem scanned_ordered (timeout lastOffset : Int) (lines : List (String × Int)) :
    (∀ timed ∈ scanned timeout lastOffset lines, 1000 + lastOffset ≤ timed.now) ∧
      (scanned timeout lastOffset lines).Pairwise
        (fun earlier later => earlier.now ≤ later.now) := by
  induction lines generalizing lastOffset with
  | nil =>
      constructor
      · intro timed member
        cases member
      · exact List.Pairwise.nil
  | cons line rest ih =>
      obtain ⟨action, offset⟩ := line
      rw [scanned]
      split
      · constructor
        · intro timed member
          cases member
        · exact List.Pairwise.nil
      · rename_i accepted
        rw [not_or] at accepted
        obtain ⟨later, ordered⟩ := ih offset
        constructor
        · intro timed member
          rcases List.mem_cons.mp member with same | member
          · rw [same]
            show 1000 + lastOffset ≤ 1000 + offset
            omega
          · have behind := later timed member
            omega
        · exact List.pairwise_cons.mpr ⟨later, ordered⟩

def testScript (armAfter timeout : Int) (lines : List (String × Int)) : Script where
  started := 1000
  armAfter := armAfter
  events := scanned timeout (-1) lines
  ordered := (scanned_ordered timeout (-1) lines).2

theorem runTestScript_result {script : Script} (started : script.started = 1000) {timeout : Int}
    {front : List Timed} {lastOffset result : Int} {lines : List (String × Int)}
    (form : script.events = front ++ scanned timeout lastOffset lines)
    (ended : runTestScript script.armAfter timeout (script.stateAt front.length) lastOffset lines =
      result) (judged : result = 0 ∨ result = 10) :
    ∃ index, script.resultAt index = result := by
  induction lines generalizing front lastOffset with
  | nil =>
      rw [runTestScript] at ended
      omega
  | cons line rest ih =>
      obtain ⟨action, offset⟩ := line
      rw [runTestScript] at ended
      rw [scanned] at form
      by_cases refused : offset < lastOffset ∨ offset > timeout ∨
          (action ≠ "press" ∧ action ≠ "release")
      · rw [if_pos refused] at ended
        omega
      · rw [if_neg refused] at ended form
        have found : script.events[front.length]? =
            some { now := 1000 + offset, event := lineEvent action } := by
          rw [form, List.getElem?_append_right (Nat.le_refl _), Nat.sub_self]
          rfl
        have here := resultAt_found found
        rw [started] at here
        by_cases done : script.resultAt front.length ≥ 0
        · rw [here] at done
          refine ⟨front.length, ?_⟩
          rw [here, ← ended]
          exact (if_pos done).symm
        · rw [here] at done
          have next : runTestScript script.armAfter timeout
              (script.stateAt (front.length + 1)) offset rest = result := by
            rw [Script.stateAt, found, started, ← ended]
            exact (if_neg done).symm
          have longer : script.events =
              (front ++ [{ now := 1000 + offset, event := lineEvent action }]) ++
                scanned timeout offset rest := by
            rw [form, List.append_assoc]
            rfl
          apply ih longer
          rw [List.length_append]
          exact next

/-- A test script ends as the events of its lines are classified. -/
theorem testScript_ends {armAfter timeout result : Int} {lines : List (String × Int)}
    (ended : runTestScript armAfter timeout .start (-1) lines = result) :
    (result = 0 → ∃ index, (testScript armAfter timeout lines).Ends index 50 1999) ∧
      (result = 10 → ∃ index, (testScript armAfter timeout lines).Ends index 2000 7000) := by
  have classified := charger_classified (testScript armAfter timeout lines)
  have found : result = 0 ∨ result = 10 →
      ∃ index, (testScript armAfter timeout lines).resultAt index = result :=
    @runTestScript_result (testScript armAfter timeout lines) rfl timeout [] (-1) result lines rfl
      ended
  constructor
  · intro zero
    obtain ⟨index, same⟩ := found (Or.inl zero)
    exact ⟨index, (classified.normal index).mp (same.trans zero)⟩
  · intro ten
    obtain ⟨index, same⟩ := found (Or.inr ten)
    exact ⟨index, (classified.bootloader index).mp (same.trans ten)⟩

end Liuqin.Power.Charger
