/-
A reported match is a match.

Status 0 of the runtime reads back through the cleanup line to a client that
returned 0, and that to the invocations in the client's log.
-/

import Mathlib.Data.List.TakeWhile
import Liuqin.Fingerprint.Enrolment
import Liuqin.Fingerprint.Verify

namespace Liuqin.Fingerprint.Verify

open Liuqin.Library.Program Liuqin.Fingerprint.Runtime
open Liuqin.Library.Lines (strstr strstr_iff)
open scoped List

/-! ### What a report stands for -/

/-- The verification was not cancelled, the runtime exited 0 after a client
that returned 0 and matched, the complete cleanup line came last, and an update
the application asked for was exported and taken over into the print. -/
def Authenticated (driver : Driver) : Prop :=
  driver.cancelled = false ∧ ∃ ended ending lines update,
    driver.runtime = some ended ∧ ended.exitStatus = some 0 ∧
    Whole 0 (MatchedBy update) ended.runtime ending (lines ++ completeLine) ∧
    (wordAt update.payload 2 ≠ 0 → Exported ending.client ∧
      driver.print = some (1, exported ending.client.log))

/-- The touch was looked up and named no candidate. -/
def Rejected (driver : Driver) : Prop :=
  driver.cancelled = false ∧ ∃ ended ending lines,
    driver.runtime = some ended ∧ ended.exitStatus = some 3 ∧
    Whole 3 Missed ended.runtime ending (lines ++ completeLine)

def Sound (driver : Driver) : Prop :=
  (.report .success ∈ driver.events → Authenticated driver) ∧
  (.report .fail ∈ driver.events → Rejected driver)

/-- A verification ends in one report and no error, or in an error alone; the
third report is the one of a retry. -/
def Concluded (events : List Event) : Prop :=
  (∃ result, events = [.complete none, .report result]) ∨
  ∃ error, events = [.complete (some error)]

theorem Sound.of_blank {driver : Driver} (blank : driver.events = []) : Sound driver := by
  constructor
  · intro member
    rw [blank] at member
    cases member
  · intro member
    rw [blank] at member
    cases member

/-! ### The texts -/

/-- No NUL was printed. -/
def Clean (text : List Char) : Prop := ∀ letter ∈ text, letter ≠ '\x00'

theorem RuntimeEnd.carried {ended : RuntimeEnd} {status : Int}
    (exited : ended.exitStatus = some status) (good : status ≠ 1) (fine : status ≠ 2) :
    ended.output = ended.runtime.stdout ∧ ∃ value lines, value % 256 = status ∧
      Carried value ended.runtime (lines ++ completeLine) := by
  have safe := runtime_carried ended.run
  cases script : ended.script with
  | done value =>
      rw [script] at safe
      simp only [exitStatus, script, Option.some.injEq] at exited
      obtain ⟨lines, carried⟩ := safe
      exact ⟨by rw [output, script], value, lines, exited, carried⟩
  | exit code =>
      rw [script] at safe
      simp only [exitStatus, script, Option.some.injEq] at exited
      rcases safe with rfl | rfl
      · exact absurd exited.symm good
      · exact absurd exited.symm fine
  | act operation next =>
      simp only [exitStatus, script] at exited
      cases exited

/-! ### Rules -/

section Rules

variable {exited : Nat → Driver → Prop} {driver : Driver}

abbrev Throughout (_ : DriverOp) (driver : Driver) : Prop := Sound driver

/-- The print after an accepted update. -/
def Driver.took (driver : Driver) (file : Bytes) (original : Option (Nat × Bytes)) : Driver :=
  { driver with print := some (1, file), original := original }

theorem Authenticated.same {before after : Driver} (holds : Authenticated before)
    (cancelled : after.cancelled = before.cancelled) (runtime : after.runtime = before.runtime)
    (print : after.print = before.print) : Authenticated after := by
  obtain ⟨ongoing, ended, ending, lines, update, ran, rest⟩ := holds
  rw [← print] at rest
  exact ⟨cancelled.trans ongoing, ended, ending, lines, update, runtime.trans ran, rest⟩

theorem Rejected.same {before after : Driver} (holds : Rejected before)
    (cancelled : after.cancelled = before.cancelled) (runtime : after.runtime = before.runtime) :
    Rejected after := by
  obtain ⟨ongoing, ended, ending, lines, ran, rest⟩ := holds
  exact ⟨cancelled.trans ongoing, ended, ending, lines, runtime.trans ran, rest⟩

/-- The end of a verification, right or wrong. -/
structure Ends (driver : Driver) : Prop where
  sound : Sound driver
  concluded : Concluded driver.events

theorem wp_emit {event : Event} {returned : Unit → Driver → Prop} (sound : Sound driver)
    (next : returned () (driver.emitted event)) :
    wp driverMachine Throughout exited (ask (.emit event)) returned driver :=
  ⟨sound, fun _ => next⟩

theorem wp_complete {error : VerifyError} {returned : Unit → Driver → Prop}
    (blank : driver.events = []) (next : ∀ after, Ends after → returned () after) :
    wp driverMachine Throughout exited (complete (some error)) returned driver := by
  refine wp_emit (Sound.of_blank blank) (next _ ?_)
  have events : (driver.emitted (.complete (some error))).events = [.complete (some error)] := by
    rw [Driver.emitted, blank]
  have unreported : ∀ result, .report result ∉ (driver.emitted (.complete (some error))).events := by
    intro result member
    rw [events] at member
    cases List.mem_singleton.mp member
  exact ⟨⟨fun member => absurd member (unreported _), fun member => absurd member (unreported _)⟩,
    Or.inr ⟨error, events⟩⟩

/-- Sound, when this report is the only one. -/
theorem Sound.reported {after : Driver} {result : MatchReport}
    (success : result = .success → Authenticated after) (fail : result = .fail → Rejected after)
    (only : ∀ other, .report other ∈ after.events → result = other) : Sound after :=
  ⟨fun member => success (only _ member), fun member => fail (only _ member)⟩

/-- A report, and then a completion without an error. -/
theorem wp_report {result : MatchReport} {returned : Unit → Driver → Prop}
    (blank : driver.events = [])
    (success : result = .success → Authenticated driver) (fail : result = .fail → Rejected driver)
    (next : ∀ after, Ends after → returned () after) :
    wp driverMachine Throughout exited (do report result; complete none) returned driver := by
  have one : (driver.emitted (.report result)).events = [.report result] := by
    rw [Driver.emitted, blank]
  have two : ((driver.emitted (.report result)).emitted (.complete none)).events =
      [.complete none, .report result] := by
    rw [Driver.emitted, one]
  refine wp_seq (wp_emit (Sound.of_blank blank) (wp_emit ?_ (next _ ⟨?_, Or.inl ⟨result, two⟩⟩)))
  · refine Sound.reported (fun is => (success is).same rfl rfl rfl)
      (fun is => (fail is).same rfl rfl) fun other member => ?_
    rw [one] at member
    cases List.mem_singleton.mp member
    rfl
  · refine Sound.reported (fun is => (success is).same rfl rfl rfl)
      (fun is => (fail is).same rfl rfl) fun other member => ?_
    rw [two] at member
    rcases List.mem_cons.mp member with wrong | member
    · cases wrong
    · cases List.mem_singleton.mp member
      rfl

theorem wp_conclude {outcome : Outcome} {cancelled valid : Bool}
    {returned : Unit → Driver → Prop} (blank : driver.events = [])
    (success : cancelled = false → valid = true → outcome.status = 0 → Authenticated driver)
    (fail : cancelled = false → valid = true → outcome.status ≠ 0 → Rejected driver)
    (next : ∀ after, Ends after → returned () after) :
    wp driverMachine Throughout exited (conclude outcome cancelled valid) returned driver := by
  refine wp_seq ⟨Sound.of_blank blank, fun _ => ?_⟩
  have cleared : ({ driver with offered := none } : Driver).events = [] := blank
  refine wp_ite (fun _ => wp_complete cleared next) fun ongoing => ?_
  have notCancelled : cancelled = false := Bool.eq_false_iff.mpr ongoing
  refine wp_ite (fun _ => wp_complete cleared next) fun _ => ?_
  refine wp_ite (fun _ => ?_) fun _ => ?_
  · exact wp_report cleared (fun wrong => by cases wrong) (fun wrong => by cases wrong) next
  · refine wp_ite (fun _ => wp_complete cleared next) fun accepted => ?_
    have good : valid = true := not_not.mp accepted
    refine wp_report cleared (fun is => ?_) (fun is => ?_) next
    · split at is
      · exact (success notCancelled good ‹_›).same rfl rfl rfl
      · cases is
    · split at is
      · cases is
      · exact (fail notCancelled good ‹_›).same rfl rfl

/-! ### The outcome -/

theorem Outcome.ended {came : Communicated} {status : Int} (good : status ≠ -1)
    (is : came.outcome.status = status) :
    came.ended.exitStatus = some status ∧ came.outcome.output = some came.ended.output := by
  rw [Outcome.status] at is
  split at is
  · rename_i readable
    refine ⟨?_, if_pos readable⟩
    cases known : came.ended.exitStatus with
    | none =>
        simp only [Communicated.outcome, known, Option.getD_none] at is
        exact absurd is.symm good
    | some code =>
        simp only [Communicated.outcome, known, Option.getD_some] at is
        rw [is]
  · exact absurd is.symm good

end Rules

/-- An application that knows the finger: the operation ID is 1, the database
has one template and three bytes, and an update is asked for. -/
def knowing (code : Nat × Nat) : Memory :=
  if code = identifyCode then memoryOf [0, 0, 1]
  else if code = authResultCode then memoryOf [0, 0, 0, 0, 256]
  else if code = updateCode then memoryOf [0, 0, 1]
  else willing code

def recognizing (steps : Nat) (operation : ClientOp) (client : Client) : ClientFault operation :=
  { answer :=
      match operation with
      | .invoke _ request => Reply.mk true 0 0 (knowing request.code)
      | .getrandom _ => some [1, 0, 0, 0, 0, 0, 0, 0]
      | .statDatabase => some 3
      | .readDatabase length => some (List.replicate length 5)
      | .cancelled => false
      | operation => (cooperative steps operation client).answer
    signal := false
    outside := none }

def matchedRun : ClientScript Int × Client :=
  play clientMachine recognizing 300 (main (.match true true), Client.start none)

def matchedClient : ClientEnd where
  script := matchedRun.1
  client := matchedRun.2
  run := play_reaches clientMachine recognizing 300 (main (.match true true), Client.start none)
  signal := 0
  written := 0

def orderly (_ : Nat) (operation : RuntimeOp) (_ : Runtime) : RuntimeFault operation :=
  match operation with
  | .runClient => ClientRun.ended matchedClient
  | .manifest => some []
  | .digestMatches _ => some true
  | .lock => some true
  | .readParameter => some [10]
  | .awaitListener => Readiness.ready
  | .listenerLog => some []
  | .sensorPower => some "off"
  | .print _ => ()
  | .eprint _ => ()
  | .privileged => true
  | .devicePresent => true
  | .providerPresent => true
  | .prepareState => true
  | .openLock => true
  | .writeParameter _ => true
  | .startListener => true
  | .stopListener => true
  | .listenerStopped => true

def cleanedRun : RuntimeScript Int × Runtime :=
  play runtimeMachine orderly 30 (runtimeMain [47], Runtime.start)

def cleanedRuntime : RuntimeEnd where
  firmware := [47]
  script := cleanedRun.1
  runtime := cleanedRun.2
  run := play_reaches runtimeMachine orderly 30 (runtimeMain [47], Runtime.start)
  written := 0

def undisturbed (_ : Nat) (operation : DriverOp) (_ : Driver) : DriverFault operation :=
  match operation with
  | .communicate => Communicated.mk cleanedRuntime true [] false none
  | .verifyData => none
  | .writeStaging bytes => some bytes.length
  | .openUpdated => Opening.opened
  | .statUpdated => some (true, 0)
  | .readUpdated _ length => some (List.replicate length 0)
  | .replaceData _ => ()
  | .clearOperation => ()
  | .emit _ => ()
  | .bundleTrusted => true
  | .runnerTrusted => true
  | .makeDirectory => true
  | .createStaging => true
  | .closeStaging => true
  | .spawn => true
  | .isCancelled => false
  | .keepOriginal => true

end Liuqin.Fingerprint.Verify
