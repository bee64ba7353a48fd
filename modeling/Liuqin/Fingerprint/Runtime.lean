/-
One match attempt under the runtime
(device/fingerprint/oem/src/fingerprint/oem/oem_runtime.py,
`--match-single DATABASE UPDATED_DATABASE`).

The runtime starts the client in a directory made for this attempt.  How the
client's run went is part of what the runtime meets: any run from its first
command to the point where its process ended.
-/

import Liuqin.Fingerprint.Match

namespace Liuqin.Fingerprint.Runtime

open Liuqin.Library.Program
open scoped List

/-! ### The client's end -/

/-- A run of the client to the end of its process.  A process killed before
the end of its script has written a part of what it printed. -/
structure ClientEnd where
  script : ClientScript Int
  client : Client
  run : Reaches clientMachine (main (.match true true), Client.start none) (script, client)
  signal : Fin 64
  written : Nat

/-- Popen.wait: the exit status, or the negative of the signal. -/
def ClientEnd.returncode (ending : ClientEnd) : Int :=
  match ending.script with
  | .done value => value % 256
  | .exit status => status % 256
  | .act _ _ => -(ending.signal.val + 1)

def ClientEnd.output (ending : ClientEnd) : List Char :=
  match ending.script with
  | .act _ _ => ending.client.stdout.take ending.written
  | _ => ending.client.stdout

/-! ### Commands -/

inductive Readiness where
  | ready
  | cancelled
  | gone
  | late
  | failed
  deriving DecidableEq, Repr

/-- What became of the client: not started, waited for, or stopped because of
a cancellation or the deadline. -/
inductive Waited where
  | failed
  | ended (returncode : Int)
  | stopped (cancelled : Bool)
  deriving DecidableEq, Repr

inductive RuntimeOp where
  | privileged
  | devicePresent
  | providerPresent
  | manifest
  | digestMatches (name : String)
  | prepareState
  | openLock
  | lock
  | readParameter
  | writeParameter (value : Bytes)
  | startListener
  | awaitListener
  | runClient
  | stopListener
  | listenerStopped
  | listenerLog
  | sensorPower
  | print (text : List Char)
  | eprint (text : String)

/-- `none` and `false` stand for an exception where the call can raise one. -/
def RuntimeAnswer : RuntimeOp → Type
  | .manifest => Option (List String)
  | .digestMatches _ => Option Bool
  | .lock => Option Bool
  | .readParameter => Option Bytes
  | .awaitListener => Readiness
  | .runClient => Waited
  | .listenerLog => Option (List (List Char))
  | .sensorPower => Option String
  | .print _ => Unit
  | .eprint _ => Unit
  | _ => Bool

inductive ClientRun where
  | notStarted
  | ended (ending : ClientEnd)
  | stopped (ending : ClientEnd) (cancelled : Bool)

/-! ### The machine -/

structure Runtime where
  stdout : List Char
  listening : Bool
  ending : Option ClientEnd

def Runtime.start : Runtime where
  stdout := []
  listening := false
  ending := none

def RuntimeFault : RuntimeOp → Type
  | .runClient => ClientRun
  | operation => RuntimeAnswer operation

def Runtime.ran (runtime : Runtime) (ending : ClientEnd) : Runtime :=
  { runtime with stdout := runtime.stdout ++ ending.output, ending := some ending }

def runtimeReact : (operation : RuntimeOp) → RuntimeFault operation → Runtime →
    RuntimeAnswer operation × Runtime
  | .runClient, .notStarted, runtime => (.failed, runtime)
  | .runClient, .ended ending, runtime => (.ended ending.returncode, runtime.ran ending)
  | .runClient, .stopped ending cancelled, runtime => (.stopped cancelled, runtime.ran ending)
  | .startListener, (started : Bool), runtime =>
      (started, { runtime with listening := started })
  | .stopListener, (stopped : Bool), runtime =>
      (stopped, { runtime with listening := runtime.listening && !stopped })
  | .listenerStopped, _, runtime => (!runtime.listening, runtime)
  | .print text, _, runtime => ((), { runtime with stdout := runtime.stdout ++ text })
  | .privileged, answer, runtime => (answer, runtime)
  | .devicePresent, answer, runtime => (answer, runtime)
  | .providerPresent, answer, runtime => (answer, runtime)
  | .manifest, answer, runtime => (answer, runtime)
  | .digestMatches _, answer, runtime => (answer, runtime)
  | .prepareState, answer, runtime => (answer, runtime)
  | .openLock, answer, runtime => (answer, runtime)
  | .lock, answer, runtime => (answer, runtime)
  | .readParameter, answer, runtime => (answer, runtime)
  | .writeParameter _, answer, runtime => (answer, runtime)
  | .awaitListener, answer, runtime => (answer, runtime)
  | .listenerLog, answer, runtime => (answer, runtime)
  | .sensorPower, answer, runtime => (answer, runtime)
  | .eprint _, answer, runtime => (answer, runtime)

def runtimeMachine : Machine RuntimeAnswer Runtime where
  Fault := RuntimeFault
  perform := runtimeReact

abbrev RuntimeScript := Prog RuntimeAnswer

/-! ### The script -/

def ask (operation : RuntimeOp) : RuntimeScript (RuntimeAnswer operation) := Prog.perform operation

def privileged : RuntimeScript Bool := ask .privileged
def devicePresent : RuntimeScript Bool := ask .devicePresent
def providerPresent : RuntimeScript Bool := ask .providerPresent
def manifest : RuntimeScript (Option (List String)) := ask .manifest
def digestMatches (name : String) : RuntimeScript (Option Bool) := ask (.digestMatches name)
def prepareState : RuntimeScript Bool := ask .prepareState
def openLock : RuntimeScript Bool := ask .openLock
def lock : RuntimeScript (Option Bool) := ask .lock
def readParameter : RuntimeScript (Option Bytes) := ask .readParameter
def writeParameter (value : Bytes) : RuntimeScript Bool := ask (.writeParameter value)
def startListener : RuntimeScript Bool := ask .startListener
def awaitListener : RuntimeScript Readiness := ask .awaitListener
def runClient : RuntimeScript Waited := ask .runClient
def stopListener : RuntimeScript Bool := ask .stopListener
def listenerStopped : RuntimeScript Bool := ask .listenerStopped
def listenerLog : RuntimeScript (Option (List (List Char))) := ask .listenerLog
def sensorPower : RuntimeScript (Option String) := ask .sensorPower
def print (text : List Char) : RuntimeScript Unit := ask (.print text)
def eprint (text : String) : RuntimeScript Unit := ask (.eprint text)

/-- An exception leaves with status 1. -/
def orRaise {α : Type} : Option α → RuntimeScript α
  | some value => pure value
  | none => .exit 1

def raiseUnless (works : Bool) : RuntimeScript Unit := if works then pure () else .exit 1

/-- A message and `return 2`. -/
def refuseUnless (holds : Bool) (text : String) : RuntimeScript Unit :=
  if holds then pure ()
  else do
    eprint text
    .exit 2

def checkFirmware : List String → RuntimeScript Unit
  | [] => pure ()
  | name :: rest => do
      let agrees ← orRaise (← digestMatches name)
      refuseUnless agrees "bundled OEM firmware hash mismatch\n"
      checkFirmware rest

/-- Before the operation lock. -/
def prepare : RuntimeScript Unit := do
  refuseUnless (← privileged) "usage (root): oem_runtime.py\n"
  refuseUnless (← devicePresent) "load the matching stable-base FPC module after desktop/SSH startup\n"
  refuseUnless (← providerPresent) "the UFS RPMB provider is missing from this runtime bundle\n"
  let expected ← orRaise (← manifest)
  checkFirmware expected
  raiseUnless (← prepareState)

/-- `return 1` after a message. -/
def giveUp {α : Type} (text : String) : RuntimeScript α := do
  eprint text
  .exit 1

/-- The parameter as it was, under the operation lock. -/
def acquire : RuntimeScript Bytes := do
  raiseUnless (← openLock)
  let locked ← orRaise (← lock)
  if ¬locked then giveUp "oem_runtime=BUSY\n"
  else
    let parameter ← orRaise (← readParameter)
    raiseUnless (← startListener)
    return parameter.dropLast

/-- The body of the try statement. -/
def attempt (firmware : Bytes) : RuntimeScript Int := do
  match ← awaitListener with
  | .cancelled => giveUp "oem_runtime_cancelled=1\n"
  | .gone => giveUp "OEM listener could not start\n"
  | .late => giveUp "OEM listener readiness was not observed\n"
  | .failed => .exit 1
  | .ready =>
      raiseUnless (← writeParameter (firmware ++ [0]))
      match ← runClient with
      | .failed => .exit 1
      | .ended returncode => return returncode
      | .stopped cancelled =>
          eprint (if cancelled then "oem_runtime_cancelled=1\n" else "oem_runtime_timed_out=1\n")
          return 1

def reported (line : List Char) : Bool :=
  "event=listener_request ".toList.isPrefixOf line || "event=rpmb_".toList.isPrefixOf line

def printLines : List (List Char) → RuntimeScript Unit
  | [] => pure ()
  | line :: rest => do
      print (line ++ ['\n'])
      printLines rest

def flag (holds : Bool) : String := if holds then "1" else "0"

def cleanupLine (restored powerOff stopped : Bool) : String :=
  "oem_runtime_cleanup firmware_path_restored=" ++ flag restored ++ " sensor_power_off=" ++
    flag powerOff ++ " listener_stopped=" ++ flag stopped ++ "\n"

/-- The finally clause. -/
def cleanup (oldValue : Bytes) (result : Int) : RuntimeScript Int := do
  raiseUnless (← writeParameter (oldValue ++ [0]))
  raiseUnless (← stopListener)
  let lines ← orRaise (← listenerLog)
  printLines (lines.filter reported)
  let parameter ← orRaise (← readParameter)
  let power ← orRaise (← sensorPower)
  let restored := decide (parameter = oldValue ++ [10])
  let powerOff := decide (power = "off")
  let stopped ← listenerStopped
  print (cleanupLine restored powerOff stopped).toList
  return if ¬restored ∨ ¬powerOff then 1 else result

/-- An exception out of the try statement passes on after the finally clause. -/
def runtimeMain (firmware : Bytes) : RuntimeScript Int := do
  prepare
  let oldValue ← acquire
  let result ← (attempt firmware).onExit fun _ => .done 1
  cleanup oldValue result

/-! ### What a status stands for -/

/-- The client returned `value` with this outcome, its output came first and
the whole cleanup line last. -/
structure Whole (value : Int) (outcome : Client → Prop) (runtime : Runtime) (ending : ClientEnd)
    (lines : List Char) : Prop where
  ran : runtime.ending = some ending
  returned : ending.script = .done value
  outcome : outcome ending.client
  output : runtime.stdout = ending.client.stdout ++ lines

/-- A result that reads as 0 or 3 came from the client. -/
structure Carried (result : Int) (runtime : Runtime) (lines : List Char) : Prop where
  matched : result % 256 = 0 → ∃ ending, Whole 0 Matched runtime ending lines
  missed : result % 256 = 3 → ∃ ending, Whole 3 Missed runtime ending lines

theorem Carried.one (runtime : Runtime) (lines : List Char) : Carried 1 runtime lines :=
  ⟨(fun wrong => by cases wrong), fun wrong => by cases wrong⟩

theorem Carried.printed {result : Int} {runtime : Runtime} {lines : List Char}
    (carried : Carried result runtime lines) (text : List Char) :
    Carried result { runtime with stdout := runtime.stdout ++ text } (lines ++ text) := by
  have more : ∀ {value outcome ending}, Whole value outcome runtime ending lines →
      Whole value outcome { runtime with stdout := runtime.stdout ++ text } ending (lines ++ text) :=
    fun whole => ⟨whole.ran, whole.returned, whole.outcome, by
      rw [← List.append_assoc, ← whole.output]⟩
  constructor
  · intro zero
    obtain ⟨ending, whole⟩ := carried.matched zero
    exact ⟨ending, more whole⟩
  · intro three
    obtain ⟨ending, whole⟩ := carried.missed three
    exact ⟨ending, more whole⟩

theorem Carried.same {result : Int} {before after : Runtime} {lines : List Char}
    (carried : Carried result before lines) (stdout : after.stdout = before.stdout)
    (ending : after.ending = before.ending) : Carried result after lines := by
  have still : ∀ {value outcome found}, Whole value outcome before found lines →
      Whole value outcome after found lines := fun whole =>
    ⟨ending.trans whole.ran, whole.returned, whole.outcome, stdout.trans whole.output⟩
  constructor
  · intro zero
    obtain ⟨found, whole⟩ := carried.matched zero
    exact ⟨found, still whole⟩
  · intro three
    obtain ⟨found, whole⟩ := carried.missed three
    exact ⟨found, still whole⟩

/-- A killed client never reads as 0 or 3: there are 64 signals. -/
theorem ClientEnd.carried (ending : ClientEnd) (runtime : Runtime) (fresh : runtime.stdout = []) :
    Carried ending.returncode (runtime.ran ending) [] := by
  have judged := match_judged none ending.run
  have shown : (runtime.ran ending).stdout = ending.output := by
    rw [Runtime.ran, fresh, List.nil_append]
  cases script : ending.script with
  | done value =>
      rw [script] at judged
      have output : (runtime.ran ending).stdout = ending.client.stdout ++ [] := by
        rw [shown, ClientEnd.output, script, List.append_nil]
      have code : ending.returncode = value % 256 := by rw [ClientEnd.returncode, script]
      rw [code]
      rcases judged with rfl | ⟨rfl, matched⟩ | ⟨rfl, missed⟩
      · exact Carried.one _ _
      · exact ⟨fun _ => ⟨ending, rfl, script, matched, output⟩, fun wrong => by cases wrong⟩
      · exact ⟨(fun wrong => by cases wrong), fun _ => ⟨ending, rfl, script, missed, output⟩⟩
  | exit status =>
      rw [script] at judged
      have code : ending.returncode = status % 256 := by rw [ClientEnd.returncode, script]
      rw [code]
      rcases judged with rfl | rfl
      · exact Carried.one _ _
      · exact ⟨(fun wrong => by cases wrong), fun wrong => by cases wrong⟩
  | act operation next =>
      have code : ending.returncode = -(ending.signal.val + 1) := by
        rw [ClientEnd.returncode, script]
      have bound := ending.signal.isLt
      constructor
      · intro zero
        omega
      · intro three
        omega

/-! ### Rules -/

section Rules

variable {exited : Nat → Runtime → Prop} {runtime : Runtime}

abbrev Whatever (_ : RuntimeOp) (_ : Runtime) : Prop := True

/-- A command that prints nothing and runs no client. -/
def RuntimeOp.Quiet : RuntimeOp → Prop
  | .runClient => False
  | .print _ => False
  | _ => True

theorem runtimeReact_quiet {operation : RuntimeOp} (quiet : operation.Quiet)
    (fault : RuntimeFault operation) (runtime : Runtime) :
    (runtimeReact operation fault runtime).2.stdout = runtime.stdout ∧
    (runtimeReact operation fault runtime).2.ending = runtime.ending := by
  cases operation with
  | runClient => exact quiet.elim
  | print text => exact quiet.elim
  | _ => exact ⟨rfl, rfl⟩

theorem wp_quiet {operation : RuntimeOp} {result : Int} {lines : List Char}
    {returned : RuntimeAnswer operation → Runtime → Prop} (quiet : operation.Quiet)
    (carried : Carried result runtime lines)
    (next : ∀ answer after, Carried result after lines → returned answer after) :
    wp runtimeMachine Whatever exited (ask operation) returned runtime := by
  refine ⟨trivial, fun fault => next _ _ ?_⟩
  obtain ⟨stdout, ending⟩ := runtimeReact_quiet quiet fault runtime
  exact carried.same stdout ending

theorem wp_orRaise {α : Type} {answer : Option α} {returned : α → Runtime → Prop}
    (leaving : exited 1 runtime) (next : ∀ value, returned value runtime) :
    wp runtimeMachine Whatever exited (orRaise answer) returned runtime := by
  cases answer with
  | some value => exact next value
  | none => exact leaving

theorem wp_raiseUnless {works : Bool} {returned : Unit → Runtime → Prop}
    (leaving : exited 1 runtime) (next : works = true → returned () runtime) :
    wp runtimeMachine Whatever exited (raiseUnless works) returned runtime :=
  wp_ite next fun _ => leaving

theorem wp_print {result : Int} {lines text : List Char} {returned : Unit → Runtime → Prop}
    (carried : Carried result runtime lines)
    (next : ∀ after, Carried result after (lines ++ text) → after.listening = runtime.listening →
      returned () after) :
    wp runtimeMachine Whatever exited (print text) returned runtime :=
  ⟨trivial, fun _ => next _ (carried.printed text) rfl⟩

theorem only_refuseUnless (holds : Bool) (text : String) :
    (refuseUnless holds text).Only RuntimeOp.Quiet Early :=
  Prog.only_ite trivial ⟨trivial, fun _ => Or.inr rfl⟩

theorem only_raiseUnless (works : Bool) : (raiseUnless works).Only RuntimeOp.Quiet Early :=
  Prog.only_ite trivial (Or.inl rfl)

theorem only_orRaise {α : Type} (answer : Option α) :
    (orRaise answer).Only RuntimeOp.Quiet Early := by
  cases answer with
  | some value => trivial
  | none => exact Or.inl rfl

theorem only_ask {operation : RuntimeOp} (quiet : operation.Quiet) :
    (ask operation).Only RuntimeOp.Quiet Early := ⟨quiet, fun _ => trivial⟩

theorem only_checkFirmware (names : List String) :
    (checkFirmware names).Only RuntimeOp.Quiet Early := by
  induction names with
  | nil => trivial
  | cons name rest ih =>
      refine Prog.only_bind (only_ask trivial) fun answer => ?_
      refine Prog.only_bind (only_orRaise answer) fun agrees => ?_
      exact Prog.only_bind (only_refuseUnless _ _) fun _ => ih

theorem only_prepare : prepare.Only RuntimeOp.Quiet Early := by
  refine Prog.only_bind (only_ask trivial) fun _ => ?_
  refine Prog.only_bind (only_refuseUnless _ _) fun _ => ?_
  refine Prog.only_bind (only_ask trivial) fun _ => ?_
  refine Prog.only_bind (only_refuseUnless _ _) fun _ => ?_
  refine Prog.only_bind (only_ask trivial) fun _ => ?_
  refine Prog.only_bind (only_refuseUnless _ _) fun _ => ?_
  refine Prog.only_bind (only_ask trivial) fun _ => ?_
  refine Prog.only_bind (only_orRaise _) fun _ => ?_
  refine Prog.only_bind (only_checkFirmware _) fun _ => ?_
  exact Prog.only_bind (only_ask trivial) fun _ => only_raiseUnless _

theorem only_acquire : acquire.Only RuntimeOp.Quiet Early := by
  refine Prog.only_bind (only_ask trivial) fun _ => ?_
  refine Prog.only_bind (only_raiseUnless _) fun _ => ?_
  refine Prog.only_bind (only_ask trivial) fun _ => ?_
  refine Prog.only_bind (only_orRaise _) fun _ => ?_
  refine Prog.only_ite (Prog.only_bind (only_ask trivial) fun _ => Or.inl rfl) ?_
  refine Prog.only_bind (only_ask trivial) fun _ => ?_
  refine Prog.only_bind (only_orRaise _) fun _ => ?_
  refine Prog.only_bind (only_ask trivial) fun _ => ?_
  exact Prog.only_bind (only_raiseUnless _) fun _ => trivial

/-- Nothing was printed before the client runs. -/
theorem wp_setup {α : Type} {script : RuntimeScript α} {returned : α → Runtime → Prop}
    (only : script.Only RuntimeOp.Quiet Early) (fresh : runtime.stdout = [])
    (leaving : ∀ status, Early status → ∀ after, exited status after)
    (next : ∀ value after, after.stdout = [] → returned value after) :
    wp runtimeMachine Whatever exited script returned runtime := by
  have kept : ∀ operation, RuntimeOp.Quiet operation → ∀ fault before, before.stdout = [] →
      (runtimeMachine.perform operation fault before).2.stdout = [] :=
    fun _ quiet fault before empty => (runtimeReact_quiet quiet fault before).1.trans empty
  exact wp_of_only only kept (fun _ _ _ _ => trivial)
    (fun status early after _ => leaving status early after) next fresh

theorem wp_attempt {firmware : Bytes} {returned : Int → Runtime → Prop}
    (fresh : runtime.stdout = [])
    (next : ∀ result lines after, Carried result after lines → returned result after) :
    wp runtimeMachine Whatever exited ((attempt firmware).onExit fun _ => .done 1) returned
      runtime := by
  have failed : ∀ after, returned 1 after := fun after => next 1 [] after (Carried.one after [])
  have lost : ∀ {text : String} {after : Runtime}, wp runtimeMachine Whatever
      (fun _ => wp runtimeMachine Whatever exited (.done 1) returned) (giveUp text) returned after :=
    ⟨trivial, fun _ => failed _⟩
  rw [wp_onExit]
  refine wp_seq ⟨trivial, fun readiness => ?_⟩
  cases (readiness : Readiness) with
  | ready =>
      refine wp_seq ⟨trivial, fun works => ?_⟩
      refine wp_seq (wp_raiseUnless (failed _) fun _ => ?_)
      refine wp_seq ⟨trivial, fun client => ?_⟩
      cases (client : ClientRun) with
      | notStarted => exact failed _
      | ended ending => exact next _ [] _ (ending.carried _ fresh)
      | stopped ending cancelled => exact wp_seq ⟨trivial, fun _ => failed _⟩
  | cancelled => exact lost
  | gone => exact lost
  | late => exact lost
  | failed => exact failed _

theorem wp_printLines {result : Int} {lines : List Char} {more : List (List Char)}
    {returned : Unit → Runtime → Prop} (carried : Carried result runtime lines)
    (down : runtime.listening = false)
    (next : ∀ lines after, Carried result after lines → after.listening = false →
      returned () after) :
    wp runtimeMachine Whatever exited (printLines more) returned runtime := by
  induction more generalizing runtime lines with
  | nil => exact next lines runtime carried down
  | cons line rest ih =>
      refine wp_seq (wp_print carried fun after longer listening => ?_)
      exact ih longer (listening.trans down)

def completeLine : List Char := (cleanupLine true true true).toList

/-- Result 0 or 3 is left only with the complete line printed last. -/
theorem wp_cleanup {oldValue : Bytes} {result : Int} {lines : List Char}
    {returned : Int → Runtime → Prop} (carried : Carried result runtime lines)
    (leaving : ∀ after, exited 1 after)
    (next : ∀ value lines after, Carried value after (lines ++ completeLine) →
      returned value after) :
    wp runtimeMachine Whatever exited (cleanup oldValue result) returned runtime := by
  refine wp_seq (wp_quiet trivial carried fun written first one => ?_)
  refine wp_seq (wp_raiseUnless (leaving first) fun _ => ?_)
  refine wp_seq ⟨trivial, fun stopped => ?_⟩
  have two : Carried result { first with listening := first.listening && !stopped } lines :=
    one.same rfl rfl
  refine wp_seq (wp_raiseUnless (leaving _) fun works => ?_)
  refine wp_seq ⟨trivial, fun log => ?_⟩
  refine wp_seq (wp_orRaise (leaving _) fun found => ?_)
  have down : (first.listening && !stopped) = false := by
    rw [show stopped = true from works, Bool.not_true, Bool.and_false]
  refine wp_seq (wp_printLines two down fun lines second three quiet => ?_)
  refine wp_seq ⟨trivial, fun parameter => ?_⟩
  refine wp_seq (wp_orRaise (leaving _) fun value => ?_)
  refine wp_seq ⟨trivial, fun power => ?_⟩
  refine wp_seq (wp_orRaise (leaving _) fun level => ?_)
  refine wp_seq ⟨trivial, fun _ => ?_⟩
  refine wp_seq (wp_print three fun last four _ => ?_)
  refine next _ lines last ?_
  split
  · exact Carried.one _ _
  · rename_i clean
    simp only [not_or, Bool.not_eq_true, Bool.not_eq_false] at clean
    have stop : (!second.listening) = true := by rw [quiet, Bool.not_false]
    have line : (cleanupLine (decide (value = oldValue ++ [10])) (decide (level = "off"))
        (!second.listening)).toList = completeLine := by
      rw [clean.1, clean.2, stop]
      rfl
    rw [← line]
    exact four

/-- Every way the runtime ends by itself. -/
theorem wp_runtimeMain {firmware : Bytes} {returned : Int → Runtime → Prop}
    (fresh : runtime.stdout = []) (leaving : ∀ status, Early status → ∀ after, exited status after)
    (next : ∀ value lines after, Carried value after (lines ++ completeLine) →
      returned value after) :
    wp runtimeMachine Whatever exited (runtimeMain firmware) returned runtime := by
  refine wp_seq (wp_setup only_prepare fresh leaving fun _ first empty => ?_)
  refine wp_seq (wp_setup only_acquire empty leaving fun oldValue second still => ?_)
  refine wp_seq (wp_attempt still fun result lines third carried => ?_)
  exact wp_cleanup carried (leaving 1 (Or.inl rfl)) next

end Rules

theorem runtime_carried {firmware : Bytes} {after : RuntimeScript Int × Runtime}
    (run : Reaches runtimeMachine (runtimeMain firmware, Runtime.start) after) :
    Safe Whatever (fun status _ => Early status)
      (fun value runtime => ∃ lines, Carried value runtime (lines ++ completeLine)) after :=
  wp_sound (wp_runtimeMain rfl (fun _ early _ => early) fun _ lines _ carried => ⟨lines, carried⟩) run

end Liuqin.Fingerprint.Runtime
