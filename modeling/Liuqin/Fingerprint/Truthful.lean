/-
What the enrolment provider reports and leaves behind.

Until the output is created everything the provider does keeps the same facts.
The inner try statement takes the output back, and nothing behind it does: a
signal or a failure there leaves a database with a status that is not 0.
-/

import Liuqin.Fingerprint.NativeEnrol

namespace Liuqin.Fingerprint.NativeEnrol

open Liuqin.Library Liuqin.Library.Program

/-! ### The statement -/

def lastCleanup (lines : List String) : Option String :=
  (lines.filter (fun line => startsWith line cleanupStart)).getLast?

/-- The last cleanup line of a child is the complete one. -/
def Clean (lines : List String) : Prop := lastCleanup lines = some cleanupLine

instance (lines : List String) : Decidable (Clean lines) :=
  inferInstanceAs (Decidable (lastCleanup lines = some cleanupLine))

/-- The whole database is at the output path, on the disk for good. -/
def Complete (world : World) : Prop := world.output = some ⟨world.database, true, true⟩

/-- What an exit tells; a process ended by a signal has no status 0. -/
structure Truthful (status : Nat) (world : World) : Prop where
  cleanup : cleanupOk ∈ world.printed → ∀ lines ∈ world.started, Clean lines
  success : enrolOk ∈ world.printed → status = 0 ∧ world.dead = false ∧ Complete world
  failure : status ≠ 0 ∨ world.dead = true → world.output = none

/-! ### The condition -/

def worked : (operation : Op) → Answer operation → Bool
  | .call _, works => works
  | .print _, works => works
  | .fsyncParent, works => works
  | .unlinkOutput, works => works
  | _, _ => true

/-- A child that is gone has no unread lines that take back its cleanup. -/
def Drained (world : World) : (operation : Op) → Answer operation → Prop
  | .poll, running => running = false → ∀ child, world.child = some child →
      Clean child.read → Clean (child.read ++ child.unread)
  | _, _ => True

/-- The calls of the try statement that takes the output back. -/
def Op.copies : Op → World → Bool
  | .call .openSource, _ => true
  | .call .openTarget, _ => true
  | .copy, _ => true
  | .flush, _ => true
  | .fsyncOutput, _ => true
  | .unlinkOutput, _ => true
  | .cancelled, world => world.handled .term
  | _, _ => false

/-- The output can be removed, and once it is there no signal comes and no call
fails but in the try statement that removes it. -/
structure Orderly (operation : Op) (fault : Fault operation) (world : World) : Prop where
  drained : Drained world operation fault.answer
  removed : operation = .unlinkOutput → worked operation fault.answer = true
  published : world.output.isSome = true → operation.copies world = false →
    fault.signal = none ∧ worked operation fault.answer = true

theorem orderly_total (operation : Op) (world : World) :
    ∃ fault : Fault operation, Orderly operation fault world := by
  have quiet : ∃ answer : Answer operation,
      worked operation answer = true ∧ Drained world operation answer := by
    cases operation with
    | poll => exact ⟨true, rfl, fun gone => by cases gone⟩
    | credential => exact ⟨none, rfl, trivial⟩
    | spawn => exact ⟨none, rfl, trivial⟩
    | openDatabase => exact ⟨none, rfl, trivial⟩
    | wait => exact ⟨(0 : Nat), rfl, trivial⟩
    | setCleaned value => exact ⟨(), rfl, trivial⟩
    | setCreating value => exact ⟨(), rfl, trivial⟩
    | dropChild => exact ⟨(), rfl, trivial⟩
    | cancel => exact ⟨(), rfl, trivial⟩
    | install signal => exact ⟨(), rfl, trivial⟩
    | restore signal => exact ⟨(), rfl, trivial⟩
    | leave => exact ⟨(), rfl, trivial⟩
    | _ => exact ⟨true, rfl, trivial⟩
  obtain ⟨answer, works, drained⟩ := quiet
  exact ⟨⟨answer, none, 0⟩, drained, fun _ => works, fun _ _ => ⟨rfl, works⟩⟩

/-! ### Cleanup lines -/

theorem judged_iff (lines : List String) : lines.foldl judge false = true ↔ Clean lines := by
  induction lines using List.reverseRecOn with
  | nil =>
      constructor
      · intro done
        cases done
      · intro clean
        cases clean
  | append_singleton front line ih =>
      rw [List.foldl_append]
      show judge (front.foldl judge false) line = true ↔ lastCleanup (front ++ [line]) = _
      rw [lastCleanup, List.filter_append]
      cases starts : startsWith line cleanupStart with
      | true =>
          have keep : [line].filter (fun line => startsWith line cleanupStart) = [line] := by
            simp only [List.filter_cons, starts, if_true, List.filter_nil]
          rw [keep, List.getLast?_concat, judge, if_pos starts, decide_eq_true_eq, Option.some_inj]
      | false =>
          have skip : [line].filter (fun line => startsWith line cleanupStart) = [] := by
            simp only [List.filter_cons, starts, Bool.false_eq_true, if_false, List.filter_nil]
          rw [skip, List.append_nil, judge, starts, if_neg Bool.false_ne_true, ih]
          rfl

theorem forwarded_other {line : String} (forward : forwards line = true) :
    line ≠ cleanupOk ∧ line ≠ enrolOk := by
  constructor
  · intro same
    rw [same] at forward
    revert forward
    decide +kernel
  · intro same
    rw [same] at forward
    revert forward
    decide +kernel

/-! ### Invariants -/

/-- What the runtime says of its children, and the line that was not printed. -/
structure Told (world : World) : Prop where
  honest : world.cleaned = true → ∀ lines ∈ world.started, Clean lines
  reported : cleanupOk ∈ world.printed → ∀ lines ∈ world.started, Clean lines
  unclaimed : enrolOk ∉ world.printed

/-- No output is there, whether the process still runs or not. -/
structure Fruitless (world : World) : Prop extends Told world where
  output : world.output = none

/-- The provider runs with its handlers in place. -/
structure Attended (world : World) : Prop where
  alive : world.dead = false
  handled : ∀ signal, world.handled signal = true

/-- Before the output is created. -/
structure Bare (world : World) : Prop extends Fruitless world, Attended world where
  quiet : cleanupOk ∉ world.printed

/-- While a child of which these lines were read is there. -/
structure Running (earlier : List (List String)) (read unread : List String) (world : World) :
    Prop extends Bare world where
  cleaned : world.cleaned = false
  started : world.started = earlier ++ [read ++ unread]
  child : world.child = some ⟨read, unread⟩

/-- In the inner try statement. -/
structure Writing (output : Output) (world : World) : Prop extends Told world, Attended world where
  quiet : cleanupOk ∉ world.printed
  output : world.output = some output

/-- From the last check of the inner try statement on. -/
structure Published (entry : Bool) (world : World) : Prop extends Told world where
  alive : world.dead = false
  running : world.cancelled = false
  output : world.output = some ⟨world.database, true, entry⟩

/-- What most calls leave alone. -/
structure Frame (before after : World) : Prop where
  cleaned : after.cleaned = before.cleaned
  child : after.child = before.child
  exited : after.exited = before.exited
  started : after.started = before.started
  handled : after.handled = before.handled
  printed : after.printed = before.printed
  database : after.database = before.database
  output : after.output = before.output

theorem Frame.refl (world : World) : Frame world world := ⟨rfl, rfl, rfl, rfl, rfl, rfl, rfl, rfl⟩

theorem Frame.trans {first second third : World} (front : Frame first second)
    (back : Frame second third) : Frame first third where
  cleaned := back.cleaned.trans front.cleaned
  child := back.child.trans front.child
  exited := back.exited.trans front.exited
  started := back.started.trans front.started
  handled := back.handled.trans front.handled
  printed := back.printed.trans front.printed
  database := back.database.trans front.database
  output := back.output.trans front.output

section Frames

variable {before after : World}

theorem Told.frame (told : Told before) (frame : Frame before after) : Told after where
  honest := by
    rw [frame.cleaned, frame.started]
    exact told.honest
  reported := by
    rw [frame.printed, frame.started]
    exact told.reported
  unclaimed := by
    rw [frame.printed]
    exact told.unclaimed

theorem Fruitless.frame (fruitless : Fruitless before) (frame : Frame before after) :
    Fruitless after where
  toTold := fruitless.toTold.frame frame
  output := frame.output.trans fruitless.output

theorem Attended.frame (attended : Attended before) (frame : Frame before after)
    (alive : after.dead = false) : Attended after where
  alive := alive
  handled := by
    rw [frame.handled]
    exact attended.handled

theorem Bare.frame (bare : Bare before) (frame : Frame before after)
    (alive : after.dead = false) : Bare after where
  toFruitless := bare.toFruitless.frame frame
  toAttended := bare.toAttended.frame frame alive
  quiet := by
    rw [frame.printed]
    exact bare.quiet

theorem Running.frame {earlier : List (List String)} {read unread : List String}
    (running : Running earlier read unread before) (frame : Frame before after)
    (alive : after.dead = false) : Running earlier read unread after where
  toBare := running.toBare.frame frame alive
  cleaned := frame.cleaned.trans running.cleaned
  started := frame.started.trans running.started
  child := frame.child.trans running.child

theorem Writing.frame {output : Output} (writing : Writing output before)
    (frame : Frame before after) (alive : after.dead = false) : Writing output after where
  toTold := writing.toTold.frame frame
  toAttended := writing.toAttended.frame frame alive
  quiet := by
    rw [frame.printed]
    exact writing.quiet
  output := frame.output.trans writing.output

end Frames

/-- A line that is neither of the last two. -/
theorem Fruitless.say {world : World} (fruitless : Fruitless world) {line : String}
    (ours : line ≠ cleanupOk) (success : line ≠ enrolOk) :
    Fruitless { world with printed := world.printed ++ [line] } where
  honest := fruitless.honest
  reported := by
    intro member
    rcases List.mem_append.mp member with before | last
    · exact fruitless.reported before
    · exact absurd (List.mem_singleton.mp last).symm ours
  unclaimed := by
    intro member
    rcases List.mem_append.mp member with before | last
    · exact fruitless.unclaimed before
    · exact success (List.mem_singleton.mp last).symm
  output := fruitless.output

theorem Bare.say {world : World} (bare : Bare world) {line : String} (ours : line ≠ cleanupOk)
    (success : line ≠ enrolOk) : Bare { world with printed := world.printed ++ [line] } where
  toFruitless := bare.toFruitless.say ours success
  toAttended := ⟨bare.alive, bare.handled⟩
  quiet := by
    intro member
    rcases List.mem_append.mp member with before | last
    · exact bare.quiet before
    · exact ours (List.mem_singleton.mp last).symm

/-! ### Signals -/

section Signals

variable {world : World}

theorem frame_cancel (world : World) : Frame world world.cancel :=
  ⟨rfl, rfl, rfl, rfl, rfl, rfl, rfl, rfl⟩

theorem frame_arrive (world : World) (signal : Option Signal) :
    Frame world (world.arrive signal) := by
  cases signal with
  | none => exact Frame.refl world
  | some signal =>
      show Frame world (if world.handled signal then world.cancel else _)
      split
      · exact frame_cancel world
      · exact ⟨rfl, rfl, rfl, rfl, rfl, rfl, rfl, rfl⟩

theorem alive_arrive (attended : Attended world) (signal : Option Signal) :
    (world.arrive signal).dead = false := by
  cases signal with
  | none => exact attended.alive
  | some signal =>
      show (if world.handled signal then world.cancel else _).dead = false
      rw [if_pos (attended.handled signal)]
      exact attended.alive

theorem dead_arrive (dead : world.dead = true) (signal : Option Signal) :
    (world.arrive signal).dead = true := by
  cases signal with
  | none => exact dead
  | some signal =>
      show (if world.handled signal then world.cancel else _).dead = true
      split
      · exact dead
      · rfl

/-- A process that goes on performs the operation. -/
theorem perform_alive {operation : Op} (fault : Fault operation)
    (alive : (world.arrive fault.signal).dead = false) :
    perform operation fault world =
      react fault.part operation fault.answer (world.arrive fault.signal) := by
  show (if (world.arrive fault.signal).dead = true then _ else _) = _
  rw [if_neg]
  rw [alive]
  exact Bool.false_ne_true

theorem perform_dead {operation : Op} (fault : Fault operation)
    (dead : (world.arrive fault.signal).dead = true) :
    perform operation fault world = (fault.answer, world.arrive fault.signal) := by
  show (if (world.arrive fault.signal).dead = true then _ else _) = _
  rw [if_pos dead]

/-- Operations that change nothing the invariants speak of. -/
def Op.idles : Op → Bool
  | .call _ | .templates | .credential | .memfd | .secretOpen | .cancelled | .cleaned | .idle
  | .setCreating _ | .cancel | .leave => true
  | _ => false

theorem react_idle {operation : Op} (idles : operation.idles = true) (part : Nat)
    (answer : Answer operation) (world : World) :
    Frame world (react part operation answer world).2 ∧
      (react part operation answer world).2.dead = world.dead := by
  cases operation <;> first
    | exact absurd idles Bool.false_ne_true
    | exact ⟨⟨rfl, rfl, rfl, rfl, rfl, rfl, rfl, rfl⟩, rfl⟩

theorem perform_idle {operation : Op} (idles : operation.idles = true) (fault : Fault operation)
    (world : World) : Frame world (perform operation fault world).2 := by
  have arrived := frame_arrive world fault.signal
  cases dead : (world.arrive fault.signal).dead with
  | true =>
      rw [perform_dead fault dead]
      exact arrived
  | false =>
      rw [perform_alive fault dead]
      exact arrived.trans (react_idle idles fault.part fault.answer _).1

theorem idle_alive {operation : Op} (idles : operation.idles = true) (attended : Attended world)
    (fault : Fault operation) : (perform operation fault world).2.dead = false := by
  have alive := alive_arrive attended fault.signal
  rw [perform_alive fault alive, (react_idle idles fault.part fault.answer _).2]
  exact alive

end Signals

/-! ### Single calls -/

section Calls

variable {exited : Nat → World → Prop} {world : World}

/-- Every orderly run of a script from a world. -/
abbrev Goes {α : Type} (exited : Nat → World → Prop) (script : Script α)
    (returned : α → World → Prop) (world : World) : Prop :=
  wp (machine.within Orderly) (fun _ _ => True) exited script returned world

theorem goes_act {operation : Op} {returned : Answer operation → World → Prop}
    (next : ∀ fault : Fault operation, Orderly operation fault world →
      returned (perform operation fault world).1 (perform operation fault world).2) :
    Goes exited (act operation) returned world := by
  constructor
  · trivial
  · intro choice
    exact next _ (choice.2 world)

/-- Exceptions are no more than the script allows. -/
def Raises (exited : Nat → World → Prop) (invariant : World → Prop) : Prop :=
  ∀ status world, invariant world → exited status world

theorem goes_must {call : Script Bool} {returned : Unit → World → Prop}
    (goes : Goes exited call
      (fun works after => (works = true → returned () after) ∧ (works = false → exited 1 after))
      world) :
    Goes exited (must call) returned world := by
  unfold must
  apply wp_seq
  apply wp_returned goes
  rintro works after ⟨fine, broken⟩
  cases works with
  | true => exact fine rfl
  | false => exact broken rfl

theorem goes_framed {operation : Op} (idles : operation.idles = true) (bare : Bare world)
    {returned : Answer operation → World → Prop}
    (next : ∀ answer after, Frame world after → Bare after → returned answer after) :
    Goes exited (act operation) returned world := by
  apply goes_act
  intro fault _
  have frame := perform_idle idles fault world
  exact next _ _ frame (bare.frame frame (idle_alive idles bare.toAttended fault))

theorem goes_bare {operation : Op} (idles : operation.idles = true) (bare : Bare world)
    {returned : Answer operation → World → Prop}
    (next : ∀ answer after, Bare after → returned answer after) :
    Goes exited (act operation) returned world :=
  goes_framed idles bare (fun answer after _ still => next answer after still)

theorem goes_cleaned (bare : Bare world) {returned : Bool → World → Prop}
    (next : ∀ after, Bare after → after.cleaned = world.cleaned →
      after.started = world.started → returned world.cleaned after) :
    Goes exited (act .cleaned) returned world := by
  apply goes_act
  intro fault _
  have frame : Frame world (perform .cleaned fault world).2 := perform_idle rfl fault world
  have alive := alive_arrive bare.toAttended fault.signal
  have asked : (perform .cleaned fault world).1 = world.cleaned := by
    rw [perform_alive fault alive]
    exact (frame_arrive world fault.signal).cleaned
  rw [asked]
  apply next
  · exact bare.frame frame (idle_alive rfl bare.toAttended fault)
  · exact frame.cleaned
  · exact frame.started

theorem goes_attempt {name : Call} (raises : Raises exited Bare) (bare : Bare world)
    {returned : Unit → World → Prop} (next : ∀ after, Bare after → returned () after) :
    Goes exited (attempt name) returned world := by
  apply goes_must
  apply goes_bare rfl bare
  intro works after still
  exact ⟨fun _ => next after still, fun _ => raises 1 after still⟩

theorem goes_running {operation : Op} (idles : operation.idles = true)
    {earlier : List (List String)} {read unread : List String}
    (running : Running earlier read unread world) {returned : Answer operation → World → Prop}
    (next : ∀ answer after, after.exited = world.exited → Running earlier read unread after →
      returned answer after) :
    Goes exited (act operation) returned world := by
  apply goes_act
  intro fault _
  have frame := perform_idle idles fault world
  exact next _ _ frame.exited
    (running.frame frame (idle_alive idles running.toAttended fault))

/-- Both ways out of a try statement lead through its finally clause. -/
theorem goes_finallyDo {α : Type} {body : Script α} {ending : Script Unit}
    {returned : α → World → Prop}
    (goes : Goes (fun status after => Goes exited ending (fun _ => exited status) after) body
      (fun value after => Goes exited ending (fun _ => returned value) after) world) :
    Goes exited (finallyDo body ending) returned world := by
  unfold finallyDo
  rw [Goes, wp_bind, wp_onExit]
  apply wp_mono goes
  · intro _ _ _
    trivial
  · intro status after leaving
    rw [wp_bind]
    exact leaving
  · intro value after leaving
    rw [wp_bind]
    exact leaving

end Calls

/-! ### One child -/

section Child

variable {exited : Nat → World → Prop} {world : World} {earlier : List (List String)}
  {read unread : List String}

/-- A line that was read is one of those read. -/
theorem goes_read (running : Running earlier read unread world)
    {returned : Bool → World → Prop}
    (broken : ∀ after, after.exited = world.exited → Running earlier read unread after →
      returned false after)
    (ended : unread = [] → ∀ after, after.exited = world.exited → Running earlier read [] after →
      returned true after)
    (line : ∀ first rest, unread = first :: rest → ∀ after, after.exited = world.exited →
      Running earlier (read ++ [first]) rest after → returned true after) :
    Goes exited (act .read) returned world := by
  apply goes_act
  rintro ⟨works, signal, part⟩ _
  have frame := frame_arrive world signal
  have alive := alive_arrive running.toAttended signal
  have still := running.frame frame alive
  rw [perform_alive ⟨works, signal, part⟩ alive]
  cases works with
  | false => exact broken _ frame.exited still
  | true =>
      have child : ((world.arrive signal).child.map Child.next) =
          some (Child.next ⟨read, unread⟩) := by
        rw [still.child]
        rfl
      cases unread with
      | nil =>
          apply ended rfl
          · exact frame.exited
          · exact ⟨⟨⟨⟨still.honest, still.reported, still.unclaimed⟩, still.output⟩,
              ⟨still.alive, still.handled⟩, still.quiet⟩, still.cleaned, still.started, child⟩
      | cons first rest =>
          apply line first rest rfl
          · exact frame.exited
          · have started : (world.arrive signal).started =
                earlier ++ [(read ++ [first]) ++ rest] := by
              rw [still.started, List.append_assoc]
              rfl
            exact ⟨⟨⟨⟨still.honest, still.reported, still.unclaimed⟩, still.output⟩,
              ⟨still.alive, still.handled⟩, still.quiet⟩, still.cleaned, started, child⟩

/-- A forwarded line is neither of those that the provider prints itself. -/
theorem goes_print (running : Running earlier read unread world) {line : String}
    (forward : forwards line = true) {returned : Bool → World → Prop}
    (next : ∀ works after, after.exited = world.exited → Running earlier read unread after →
      returned works after) :
    Goes exited (act (.print line)) returned world := by
  obtain ⟨ours, success⟩ := forwarded_other forward
  apply goes_act
  rintro ⟨works, signal, part⟩ _
  have frame := frame_arrive world signal
  have alive := alive_arrive running.toAttended signal
  have still := running.frame frame alive
  rw [perform_alive ⟨works, signal, part⟩ alive]
  cases works with
  | false => exact next _ _ frame.exited still
  | true =>
      apply next
      · exact frame.exited
      · exact ⟨still.toBare.say ours success, still.cleaned, still.started, still.child⟩

/-- The loop has judged what it read; it read everything unless it raised. -/
structure Followed (earlier : List (List String)) (output : List String) (reading : Reading)
    (world : World) : Prop where
  child : ∃ read, output = read ++ reading.rest ∧ Running earlier read reading.rest world ∧
    (reading.cleanup = true ↔ Clean read)
  whole : reading.raised = false → reading.rest = []
  exited : world.exited = false

theorem judged_snoc {cleanup : Bool} (judged : cleanup = true ↔ Clean read) (line : String) :
    judge cleanup line = true ↔ Clean (read ++ [line]) := by
  have same : cleanup = read.foldl judge false := Bool.eq_iff_iff.mpr (judged.trans
    (judged_iff read).symm)
  rw [← judged_iff, List.foldl_append, same]
  rfl

/-- By induction on the lines that were not read. -/
theorem goes_readLines {cleanup : Bool} (running : Running earlier read unread world)
    (there : world.exited = false) (judged : cleanup = true ↔ Clean read) :
    Goes exited (readLines unread cleanup)
      (fun reading after => Followed earlier (read ++ unread) reading after) world := by
  induction unread generalizing read cleanup world with
  | nil =>
      unfold readLines
      apply wp_seq
      apply goes_read running
      · intro after same still
        exact ⟨⟨read, rfl, still, judged⟩, fun _ => rfl, same.trans there⟩
      · intro _ after same still
        exact ⟨⟨read, rfl, still, judged⟩, fun _ => rfl, same.trans there⟩
      · intro first rest impossible
        cases impossible
  | cons line rest ih =>
      unfold readLines
      apply wp_seq
      apply goes_read running
      · intro after same still
        exact ⟨⟨read, rfl, still, judged⟩, (fun fine => by cases fine), same.trans there⟩
      · intro impossible
        cases impossible
      · intro first others split after same next
        cases split
        have later := judged_snoc judged line
        have whole : read ++ line :: rest = (read ++ [line]) ++ rest := by
          rw [List.append_assoc]
          rfl
        rw [whole, if_pos rfl]
        apply wp_ite
        · intro forward
          apply wp_seq
          apply goes_print next forward
          intro printed last again still
          have gone := (again.trans same).trans there
          apply wp_ite
          · intro _
            exact ih still gone later
          · intro _
            exact ⟨⟨read ++ [line], rfl, still, later⟩, (fun fine => by cases fine), gone⟩
        · intro _
          exact ih next (same.trans there) later

/-- By induction on the lines that were not read, all of which are read now. -/
theorem goes_drain (raises : Raises exited Bare) {cleanup : Bool}
    (running : Running earlier read unread world) (judged : cleanup = true ↔ Clean read) :
    Goes exited (drain unread cleanup)
      (fun cleanup after => Running earlier (read ++ unread) [] after ∧
        (cleanup = true ↔ Clean (read ++ unread))) world := by
  induction unread generalizing read cleanup world with
  | nil =>
      unfold drain
      apply wp_seq
      apply goes_must
      apply goes_read running
      · intro after _ still
        exact ⟨(fun fine => by cases fine), fun _ => raises 1 after still.toBare⟩
      · intro _ after _ still
        rw [List.append_nil]
        exact ⟨fun _ => ⟨still, judged⟩, fun broken => by cases broken⟩
      · intro first rest impossible
        cases impossible
  | cons line rest ih =>
      unfold drain
      apply wp_seq
      apply goes_must
      apply goes_read running
      · intro after _ still
        exact ⟨(fun fine => by cases fine), fun _ => raises 1 after still.toBare⟩
      · intro impossible
        cases impossible
      · intro first others split after _ next
        cases split
        have whole : read ++ line :: rest = (read ++ [line]) ++ rest := by
          rw [List.append_assoc]
          rfl
        rw [whole]
        exact ⟨fun _ => ih next (judged_snoc judged line), fun broken => by cases broken⟩

theorem goes_wait (running : Running earlier read unread world)
    {returned : Nat → World → Prop}
    (next : ∀ status after, Running earlier read unread after → returned status after) :
    Goes exited (act .wait) returned world := by
  apply goes_act
  rintro ⟨status, signal, part⟩ _
  have alive := alive_arrive running.toAttended signal
  have still := running.frame (frame_arrive world signal) alive
  rw [perform_alive ⟨status, signal, part⟩ alive]
  apply next
  exact ⟨⟨⟨⟨still.honest, still.reported, still.unclaimed⟩, still.output⟩,
    ⟨still.alive, still.handled⟩, still.quiet⟩, still.cleaned, still.started, still.child⟩

/-- A child that is gone does not take back with its unread lines what it said. -/
theorem goes_poll (running : Running earlier read unread world)
    (there : unread = [] ∨ world.exited = false) {returned : Bool → World → Prop}
    (runs : ∀ after, Running earlier read unread after → returned true after)
    (gone : (Clean read → Clean (read ++ unread)) → ∀ after, Running earlier read unread after →
      returned false after) :
    Goes exited (act .poll) returned world := by
  apply goes_act
  rintro ⟨answer, signal, part⟩ orderly
  have frame := frame_arrive world signal
  have alive := alive_arrive running.toAttended signal
  have still := running.frame frame alive
  rw [perform_alive ⟨answer, signal, part⟩ alive]
  have next : Running earlier read unread
      (react part .poll answer (world.arrive signal)).2 :=
    ⟨⟨⟨⟨still.honest, still.reported, still.unclaimed⟩, still.output⟩,
      ⟨still.alive, still.handled⟩, still.quiet⟩, still.cleaned, still.started, still.child⟩
  show returned (answer && !(world.arrive signal).exited) _
  cases polled : answer && !(world.arrive signal).exited with
  | true => exact runs _ next
  | false =>
      apply gone
      · intro clean
        rcases there with nothing | present
        · rw [nothing, List.append_nil]
          exact clean
        · rw [frame.exited, present, Bool.not_false, Bool.and_true] at polled
          exact orderly.drained polled ⟨read, unread⟩ running.child clean
      · exact next

/-- The judgement holds of all lines of the child. -/
theorem goes_settleChild (raises : Raises exited Bare) {reading : Reading}
    (running : Running earlier read reading.rest world)
    (judged : reading.cleanup = true ↔ Clean read)
    (there : reading.rest = [] ∨ world.exited = false) :
    Goes exited (settleChild reading)
      (fun cleanup after => ∃ last unread, last ++ unread = read ++ reading.rest ∧
        Running earlier last unread after ∧ (cleanup = true → Clean (read ++ reading.rest)))
      world := by
  unfold settleChild
  apply wp_seq
  apply goes_poll running there
  · intro after still
    rw [if_pos rfl]
    apply wp_seq
    apply goes_running rfl still
    intro _ second _ again
    apply wp_seq
    apply wp_returned (goes_drain raises again judged)
    rintro cleanup third ⟨last, whole⟩
    apply wp_seq
    apply goes_wait last
    intro _ fourth ended
    exact ⟨_, _, List.append_nil _, ended, whole.mp⟩
  · intro keeps after still
    exact ⟨read, reading.rest, rfl, still, fun clean => keeps (judged.mp clean)⟩

theorem goes_dropChild (running : Running earlier read unread world)
    {returned : Unit → World → Prop}
    (next : ∀ after, Bare after → after.cleaned = false → after.started = world.started →
      returned () after) :
    Goes exited (act .dropChild) returned world := by
  apply goes_act
  rintro ⟨done, signal, part⟩ _
  have frame := frame_arrive world signal
  have alive := alive_arrive running.toAttended signal
  have still := running.frame frame alive
  rw [perform_alive ⟨done, signal, part⟩ alive]
  apply next
  · exact ⟨⟨⟨still.honest, still.reported, still.unclaimed⟩, still.output⟩,
      ⟨still.alive, still.handled⟩, still.quiet⟩
  · exact still.cleaned
  · exact frame.started

theorem goes_setCleaned (bare : Bare world) {value : Bool} {returned : Unit → World → Prop}
    (honest : value = true → ∀ lines ∈ world.started, Clean lines)
    (next : ∀ after, Bare after → after.cleaned = value → after.started = world.started →
      returned () after) :
    Goes exited (act (.setCleaned value)) returned world := by
  apply goes_act
  rintro ⟨done, signal, part⟩ _
  have frame := frame_arrive world signal
  have alive := alive_arrive bare.toAttended signal
  have still := bare.frame frame alive
  rw [perform_alive ⟨done, signal, part⟩ alive]
  apply next
  · refine ⟨⟨⟨?_, still.reported, still.unclaimed⟩, still.output⟩,
      ⟨still.alive, still.handled⟩, still.quiet⟩
    intro clean lines member
    rw [show (react part (.setCleaned value) done (world.arrive signal)).2.started =
      world.started from frame.started] at member
    exact honest clean lines member
  · rfl
  · exact frame.started

/-- A child that starts; its lines are those it will have printed. -/
theorem goes_spawn (bare : Bare world) (cleaned : world.cleaned = false)
    {returned : Option (List String) → World → Prop}
    (broken : ∀ after, Bare after → after.started = world.started → after.cleaned = false →
      returned none after)
    (next : ∀ lines after, after.exited = false → Running world.started [] lines after →
      returned (some lines) after) :
    Goes exited (act .spawn) returned world := by
  apply goes_act
  rintro ⟨lines, signal, part⟩ _
  have frame := frame_arrive world signal
  have alive := alive_arrive bare.toAttended signal
  have still := bare.frame frame alive
  have unclean := frame.cleaned.trans cleaned
  rw [perform_alive ⟨lines, signal, part⟩ alive]
  cases lines with
  | none => exact broken _ still frame.started unclean
  | some lines =>
      apply next
      · rfl
      · refine ⟨⟨⟨⟨?_, fun member => absurd member still.quiet, still.unclaimed⟩, still.output⟩,
          ⟨still.alive, still.handled⟩, still.quiet⟩, unclean, ?_, rfl⟩
        · intro clean
          rw [show (react part .spawn (some lines) (world.arrive signal)).2.cleaned = false from
            unclean] at clean
          cases clean
        · show (world.arrive signal).started ++ [lines] = world.started ++ [[] ++ lines]
          rw [frame.started]
          rfl

/-- However its child ends, the runtime knows no better of its children than
what they printed. -/
theorem goes_run (raises : Raises exited Bare) (bare : Bare world) (finishCreation : Bool) :
    Goes exited (run finishCreation) (fun _ after => Bare after) world := by
  unfold run
  apply wp_seq
  apply goes_bare rfl bare
  intro stopped first still
  apply wp_ite
  · intro _
    exact still
  · intro _
    apply wp_seq
    apply goes_cleaned still
    intro second known clean begun
    have honest : first.cleaned = true → ∀ lines ∈ second.started, Clean lines := by
      intro before
      exact known.honest (clean.trans before)
    apply wp_seq
    apply goes_setCleaned known (fun absurd => by cases absurd)
    intro third unset unclean same
    apply wp_seq
    apply goes_framed rfl unset
    intro _ fourth frame creating
    apply wp_seq
    apply goes_spawn creating (frame.cleaned.trans unclean)
    · intro fifth failed started uncleaned
      apply wp_seq
      apply goes_setCleaned failed
      · rw [started, frame.started, same]
        exact honest
      · intro sixth restored _ _
        apply wp_seq
        apply goes_bare rfl restored
        intro _ last ended
        exact raises 1 last ended
    · intro lines fifth there running
      have earlier : fourth.started = second.started := frame.started.trans same
      apply wp_seq
      apply goes_running rfl running
      intro early sixth present running
      apply wp_seq
      have told : Goes exited (tell early)
          (fun _ after => after.exited = false ∧ Running fourth.started [] lines after) sixth := by
        apply wp_ite
        · intro _
          apply goes_running rfl running
          intro _ after more still
          exact ⟨(more.trans present).trans there, still⟩
        · intro _
          exact ⟨present.trans there, running⟩
      apply wp_returned told
      rintro _ seventh ⟨there, running⟩
      apply wp_seq
      have unclean : false = true ↔ Clean [] := by decide
      apply wp_returned (goes_readLines running there unclean)
      intro reading eighth followed
      obtain ⟨read, all, running, judged⟩ := followed.child
      have waited : Goes exited (childStatus reading)
          (fun _ after => Running fourth.started read reading.rest after ∧
            (reading.rest = [] ∨ after.exited = false)) eighth := by
        apply wp_ite
        · intro _
          exact ⟨running, Or.inr followed.exited⟩
        · intro fine
          apply goes_wait running
          intro _ after still
          exact ⟨still, Or.inl (followed.whole (Bool.not_eq_true _ ▸ fine))⟩
      apply wp_seq
      apply wp_returned waited
      rintro status ninth ⟨running, gone⟩
      apply wp_seq
      apply wp_returned (goes_settleChild raises running judged gone)
      rintro cleanup tenth ⟨last, unread, whole, running, clean⟩
      apply wp_seq
      have closed : Goes exited (attempt .closeStdout)
          (fun _ after => Running fourth.started last unread after) tenth := by
        apply goes_must
        apply goes_running rfl running
        intro works after _ still
        exact ⟨fun _ => still, fun _ => raises 1 after still.toBare⟩
      apply wp_returned closed
      intro _ eleventh running
      apply wp_seq
      apply goes_dropChild running
      intro twelfth bare unclean started
      apply wp_seq
      apply goes_framed rfl bare
      intro _ thirteenth frame bare
      apply wp_seq
      apply goes_setCleaned bare
      · intro both lines member
        obtain ⟨previous, fine⟩ := Bool.and_eq_true_iff.mp both
        rw [frame.started, started, running.started, whole, earlier] at member
        rcases List.mem_append.mp member with before | now
        · exact honest previous lines before
        · rw [List.mem_singleton.mp now]
          exact clean fine
      · intro last ended _ _
        apply wp_ite
        · intro _
          exact raises 1 last ended
        · intro _
          apply wp_seq
          apply goes_bare rfl ended
          intro late final done
          exact done

end Child

/-! ### The output -/

section Publication

variable {exited : Nat → World → Prop} {world : World} {output : Output} {entry : Bool}

theorem goes_createOutput (bare : Bare world) {returned : Bool → World → Prop}
    (broken : ∀ after, Bare after → returned false after)
    (next : ∀ after, Writing ⟨[], false, false⟩ after → returned true after) :
    Goes exited (act .createOutput) returned world := by
  apply goes_act
  rintro ⟨works, signal, part⟩ _
  have alive := alive_arrive bare.toAttended signal
  have still := bare.frame (frame_arrive world signal) alive
  rw [perform_alive ⟨works, signal, part⟩ alive]
  cases works with
  | false => exact broken _ still
  | true =>
      apply next
      exact ⟨⟨still.honest, still.reported, still.unclaimed⟩, ⟨still.alive, still.handled⟩,
        still.quiet, rfl⟩

theorem Writing.filled (writing : Writing output world) (filled : Output) :
    Writing filled { world with output := some filled } :=
  ⟨⟨writing.honest, writing.reported, writing.unclaimed⟩, ⟨writing.alive, writing.handled⟩,
    writing.quiet, rfl⟩

theorem Writing.write (writing : Writing output world) (content : Library.Bytes) :
    Writing { output with content := content } (world.write content) := by
  unfold World.write
  rw [writing.output]
  exact writing.filled _

/-- A signal changes nothing in the output. -/
theorem Writing.arrive (writing : Writing output world) (signal : Option Signal) :
    Writing output (world.arrive signal) ∧ (world.arrive signal).database = world.database :=
  ⟨writing.frame (frame_arrive world signal) (alive_arrive writing.toAttended signal),
    (frame_arrive world signal).database⟩

/-- Exceptions of the inner try statement, which are caught there. -/
def Torn (exited : Nat → World → Prop) : Prop :=
  ∀ status output world, Writing output world → exited status world

theorem goes_open {name : Call} (torn : Torn exited) (writing : Writing output world)
    {returned : Unit → World → Prop}
    (next : ∀ after, Writing output after → returned () after) :
    Goes exited (attempt name) returned world := by
  apply goes_must
  apply goes_act
  rintro ⟨works, signal, part⟩ _
  obtain ⟨still, _⟩ := writing.arrive signal
  rw [perform_alive ⟨works, signal, part⟩ still.alive]
  exact ⟨fun _ => next _ still, fun _ => torn 1 output _ still⟩

theorem goes_copy (torn : Torn exited) (writing : Writing output world)
    {returned : Unit → World → Prop}
    (next : ∀ content after, Writing { output with content := content } after → returned () after) :
    Goes exited (must (act .copy)) returned world := by
  apply goes_must
  apply goes_act
  rintro ⟨works, signal, part⟩ _
  obtain ⟨still, _⟩ := writing.arrive signal
  rw [perform_alive ⟨works, signal, part⟩ still.alive]
  have filled := still.write ((world.arrive signal).database.take part)
  exact ⟨fun _ => next _ _ filled, fun _ => torn 1 _ _ filled⟩

/-- The flush that works has written the whole database. -/
theorem goes_flush (torn : Torn exited) (writing : Writing output world)
    {returned : Unit → World → Prop}
    (next : ∀ after, Writing { output with content := after.database } after →
      returned () after) :
    Goes exited (must (act .flush)) returned world := by
  apply goes_must
  apply goes_act
  rintro ⟨works, signal, part⟩ _
  obtain ⟨still, _⟩ := writing.arrive signal
  rw [perform_alive ⟨works, signal, part⟩ still.alive]
  cases works with
  | true => exact ⟨fun _ => next _ (still.write _), fun broken => by cases broken⟩
  | false =>
      have filled := still.write ((world.arrive signal).database.take part)
      exact ⟨(fun fine => by cases fine), fun _ => torn 1 _ _ filled⟩

theorem goes_fsyncOutput (torn : Torn exited) (writing : Writing output world)
    {returned : Unit → World → Prop}
    (next : ∀ after, after.database = world.database →
      Writing { output with synced := true } after → returned () after) :
    Goes exited (must (act .fsyncOutput)) returned world := by
  apply goes_must
  apply goes_act
  rintro ⟨works, signal, part⟩ _
  obtain ⟨still, same⟩ := writing.arrive signal
  rw [perform_alive ⟨works, signal, part⟩ still.alive]
  cases works with
  | false => exact ⟨(fun fine => by cases fine), fun _ => torn 1 _ _ still⟩
  | true =>
      refine ⟨fun _ => ?_, fun broken => by cases broken⟩
      have filled := still.filled { output with synced := true }
      have after : (react part .fsyncOutput true (world.arrive signal)).2 =
          { world.arrive signal with output := some { output with synced := true } } := by
        show { world.arrive signal with
          output := (world.arrive signal).output.map
            (fun file : Output => { file with synced := true }) } = _
        rw [still.output]
        rfl
      rw [after]
      exact next _ same filled

theorem goes_stopped (writing : Writing output world) {returned : Bool → World → Prop}
    (next : ∀ after, after.database = world.database → Writing output after →
      returned after.cancelled after) :
    Goes exited (act .cancelled) returned world := by
  apply goes_act
  rintro ⟨answer, signal, part⟩ _
  obtain ⟨still, same⟩ := writing.arrive signal
  rw [perform_alive ⟨answer, signal, part⟩ still.alive]
  exact next _ same still

/-- Without an exception the whole database is in the output and on the disk. -/
theorem goes_copyDatabase (torn : Torn exited) (writing : Writing ⟨[], false, false⟩ world) :
    Goes exited copyDatabase (fun _ after => Published false after) world := by
  unfold copyDatabase
  apply wp_seq
  apply goes_open torn writing
  intro first writing
  apply wp_seq
  apply goes_open torn writing
  intro second writing
  apply wp_seq
  apply goes_copy torn writing
  intro content third writing
  apply wp_seq
  apply goes_flush torn writing
  intro fourth writing
  apply wp_seq
  apply goes_fsyncOutput torn writing
  intro fifth same writing
  apply wp_seq
  apply goes_stopped writing
  intro sixth again writing
  apply wp_ite
  · intro _
    exact torn 1 _ sixth writing
  · intro running
    have output : sixth.output = some ⟨sixth.database, true, false⟩ := by
      rw [writing.output, again, same]
    exact ⟨writing.toTold, writing.alive, Bool.eq_false_of_not_eq_true running, output⟩

/-- The output is taken back. -/
theorem goes_unlinkOutput (raises : Raises exited Bare) (writing : Writing output world)
    (status : Nat) {returned : Unit → World → Prop} :
    Goes exited (unlinkOutput status) returned world := by
  unfold unlinkOutput
  apply wp_seq
  apply goes_must
  apply goes_act
  rintro ⟨works, signal, part⟩ orderly
  obtain ⟨still, _⟩ := writing.arrive signal
  rw [perform_alive ⟨works, signal, part⟩ still.alive]
  have removed : works = true := orderly.removed rfl
  rw [removed]
  refine ⟨fun _ => ?_, fun broken => by cases broken⟩
  apply raises
  exact ⟨⟨⟨still.honest, still.reported, still.unclaimed⟩, rfl⟩, ⟨still.alive, still.handled⟩,
    still.quiet⟩

/-! ### Behind the output -/

/-- Behind the inner try statement a call works, and no signal comes. -/
theorem goes_behind {operation : Op} (there : world.output.isSome = true)
    (running : world.dead = false) (outside : operation.copies world = false)
    {returned : Answer operation → World → Prop}
    (next : ∀ part answer, worked operation answer = true →
      returned (react part operation answer world).1 (react part operation answer world).2) :
    Goes exited (act operation) returned world := by
  apply goes_act
  intro fault orderly
  obtain ⟨signal, works⟩ := orderly.published there outside
  have still : world.arrive fault.signal = world := by
    rw [signal]
    rfl
  have alive : (world.arrive fault.signal).dead = false := by
    rw [still]
    exact running
  rw [perform_alive fault alive, still]
  exact next fault.part fault.answer works

theorem goes_published {operation : Op} (published : Published entry world)
    (outside : operation.copies world = false) {returned : Answer operation → World → Prop}
    (next : ∀ part answer, worked operation answer = true →
      returned (react part operation answer world).1 (react part operation answer world).2) :
    Goes exited (act operation) returned world := by
  apply goes_behind _ published.alive outside next
  rw [published.output]
  rfl

theorem goes_closing {name : Call} (published : Published entry world)
    (outside : (Op.call name).copies world = false) {returned : Unit → World → Prop}
    (next : returned () world) : Goes exited (attempt name) returned world := by
  apply goes_must
  apply goes_published published outside
  intro part works worked
  refine ⟨fun _ => next, fun broken => ?_⟩
  rw [show works = true from worked] at broken
  cases broken

theorem goes_publish (raises : Raises exited Bare) (bare : Bare world) (content : Library.Bytes) :
    Goes exited (publish content) (fun _ after => Published false after) world := by
  unfold publish
  apply wp_seq
  apply goes_bare rfl bare
  intro trusted first bare
  apply wp_ite
  · intro _
    apply wp_seq
    apply goes_must
    apply goes_createOutput bare
    · intro after still
      exact ⟨(fun fine => by cases fine), fun _ => raises 1 after still⟩
    · intro second writing
      refine ⟨fun _ => ?_, fun broken => by cases broken⟩
      apply goes_finallyDo
      have closing : Raises (fun status after =>
          Goes exited (attempt .closeOutput) (fun _ => exited status) after) Bare := by
        intro status after still
        apply goes_attempt raises still
        intro last ended
        exact raises status last ended
      rw [Goes, wp_onExit]
      apply wp_returned
      · apply goes_copyDatabase _ writing
        intro status output after broken
        exact goes_unlinkOutput closing broken status
      · intro _ after published
        exact goes_closing published rfl published
  · intro _
    exact raises 1 first bare

theorem goes_syncParent (published : Published entry world) :
    Goes exited syncParent (fun _ after => Published true after) world := by
  unfold syncParent
  apply wp_seq
  apply goes_closing published rfl
  apply goes_finallyDo
  apply goes_must
  apply goes_published published rfl
  intro part works worked
  have fine : works = true := worked
  rw [fine]
  refine ⟨fun _ => ?_, fun broken => by cases broken⟩
  have output : (react part .fsyncParent true world).2.output =
      some ⟨world.database, true, true⟩ := by
    show world.output.map _ = _
    rw [published.output]
    rfl
  have done : Published true (react part .fsyncParent true world).2 :=
    ⟨⟨published.honest, published.reported, published.unclaimed⟩, published.alive,
      published.running, output⟩
  exact goes_closing done rfl done

end Publication

/-! ### The enrolment -/

section Enrolment

variable {exited : Nat → World → Prop} {world : World}

/-- A result that is not 0 leaves no output, and 0 the whole database. -/
inductive Outcome (status : Nat) (world : World) : Prop where
  | fails (nonzero : status ≠ 0) (bare : Bare world)
  | enrols (zero : status = 0) (published : Published true world)

theorem raises_attempt (raises : Raises exited Bare) (name : Call) :
    Raises (fun status after => Goes exited (attempt name) (fun _ => exited status) after)
      Bare := by
  intro status after still
  apply goes_attempt raises still
  intro last ended
  exact raises status last ended

theorem goes_openDatabase (bare : Bare world) {returned : Option Library.Bytes → World → Prop}
    (next : ∀ content after, Bare after → returned content after) :
    Goes exited (act .openDatabase) returned world := by
  apply goes_act
  rintro ⟨content, signal, part⟩ _
  have alive := alive_arrive bare.toAttended signal
  have still := bare.frame (frame_arrive world signal) alive
  rw [perform_alive ⟨content, signal, part⟩ alive]
  cases content with
  | none => exact next none _ still
  | some content =>
      apply next
      exact ⟨⟨⟨still.honest, still.reported, still.unclaimed⟩, still.output⟩,
        ⟨still.alive, still.handled⟩, still.quiet⟩

theorem goes_acquire (raises : Raises exited Bare) (bare : Bare world) :
    Goes exited acquire Outcome world := by
  unfold acquire
  apply wp_seq
  apply goes_attempt raises bare
  intro first bare
  apply wp_seq
  apply wp_returned (goes_run raises bare false)
  intro status second bare
  apply wp_seq
  apply goes_bare rfl bare
  intro clean third bare
  apply wp_seq
  apply goes_bare rfl bare
  intro stopped fourth bare
  apply wp_ite
  · intro _
    apply wp_seq
    apply goes_attempt raises bare
    intro last ended
    exact Outcome.fails (by decide) ended
  · intro _
    apply wp_seq
    apply goes_openDatabase bare
    intro content fifth bare
    cases content with
    | none => exact raises 1 fifth bare
    | some content =>
        apply wp_seq
        apply goes_finallyDo
        apply wp_returned (goes_publish (raises_attempt raises .closeDatabase) bare content)
        intro _ sixth published
        apply goes_closing published rfl
        apply wp_seq
        apply wp_returned (goes_syncParent published)
        intro _ last done
        exact Outcome.enrols rfl done

theorem goes_createCredential (raises : Raises exited Bare) (bare : Bare world) :
    Goes exited createCredential (fun _ after => Bare after) world := by
  unfold createCredential
  apply wp_seq
  apply goes_attempt raises bare
  intro first bare
  apply wp_seq
  apply wp_returned (goes_run raises bare true)
  intro status second bare
  apply wp_seq
  apply goes_bare rfl bare
  intro clean third bare
  apply wp_ite
  · intro _
    apply wp_seq
    apply goes_attempt raises bare
    intro last ended
    exact ended
  · intro _
    apply wp_seq
    apply goes_attempt raises bare
    intro fourth bare
    apply wp_seq
    apply goes_attempt raises bare
    intro fifth bare
    apply wp_seq
    apply goes_attempt raises bare
    intro last ended
    exact ended

theorem goes_credential (raises : Raises exited Bare) (bare : Bare world) (there : Bool) :
    Goes exited (credential there) (fun _ after => Bare after) world := by
  apply wp_ite
  · intro _
    exact bare
  · intro _
    exact goes_createCredential raises bare

theorem goes_record (raises : Raises exited Bare) (bare : Bare world) (there : Bool) :
    Goes exited (record there) (fun _ after => Bare after) world := by
  apply wp_ite
  · intro _
    apply wp_seq
    apply goes_attempt raises bare
    intro first bare
    apply wp_seq
    apply goes_attempt raises bare
    intro last ended
    exact ended
  · intro _
    apply wp_seq
    apply goes_bare rfl bare
    intro stopped first bare
    apply wp_ite
    · intro _
      exact bare
    · intro _
      apply wp_seq
      apply goes_attempt raises bare
      intro second bare
      apply wp_seq
      apply goes_attempt raises bare
      intro third bare
      apply wp_seq
      apply goes_attempt raises bare
      intro last ended
      exact ended

theorem goes_operate (raises : Raises exited Bare) (bare : Bare world) :
    Goes exited operate Outcome world := by
  unfold operate
  apply wp_seq
  apply goes_attempt raises bare
  intro first bare
  apply wp_seq
  apply goes_attempt raises bare
  intro second bare
  apply wp_seq
  apply goes_bare rfl bare
  intro found third bare
  cases found with
  | none => exact raises 1 third bare
  | some there =>
      apply wp_seq
      apply wp_returned (goes_record raises bare there)
      intro recorded fourth bare
      apply wp_ite
      · intro _
        apply wp_seq
        apply goes_attempt raises bare
        intro fifth bare
        apply wp_seq
        apply goes_must
        apply goes_bare rfl bare
        intro made sixth bare
        refine ⟨fun _ => ?_, fun _ => raises 1 sixth bare⟩
        apply wp_seq
        apply goes_attempt raises bare
        intro seventh bare
        apply wp_seq
        apply goes_attempt raises bare
        intro eighth bare
        apply wp_seq
        apply goes_attempt raises bare
        intro ninth bare
        apply wp_seq
        apply wp_returned (goes_credential raises bare there)
        intro ready tenth bare
        apply wp_ite
        · intro _
          apply wp_seq
          apply goes_bare rfl bare
          intro stopped eleventh bare
          apply wp_ite
          · intro _
            exact Outcome.fails (by decide) bare
          · intro _
            apply wp_seq
            apply goes_attempt raises bare
            intro twelfth bare
            apply goes_finallyDo
            apply wp_returned (goes_acquire (raises_attempt raises .removeTemporary) bare)
            intro status last outcome
            cases outcome with
            | fails nonzero bare =>
                apply goes_attempt raises bare
                intro after ended
                exact Outcome.fails nonzero ended
            | enrols zero published =>
                exact goes_closing published rfl (Outcome.enrols zero published)
        · intro _
          exact Outcome.fails (by decide) bare
      · intro _
        exact Outcome.fails (by decide) bare

theorem goes_closeSecret (raises : Raises exited Bare) (bare : Bare world) (held : Bool) :
    Goes exited (closeSecret held) (fun _ after => Bare after) world := by
  apply wp_ite
  · intro _
    apply goes_attempt raises bare
    intro after ended
    exact ended
  · intro _
    exact bare

theorem goes_release (raises : Raises exited Bare) (bare : Bare world) :
    Goes exited release (fun _ after => Bare after) world := by
  unfold release
  apply wp_seq
  apply goes_bare rfl bare
  intro held first bare
  apply wp_seq
  apply wp_returned (goes_closeSecret raises bare held)
  intro _ second bare
  apply goes_attempt raises bare
  intro after ended
  exact ended

/-- Behind the output it leaves everything alone. -/
theorem published_release {entry : Bool} (published : Published entry world) :
    Goes exited release (fun _ after => Published entry after) world := by
  unfold release
  apply wp_seq
  apply goes_published published rfl
  intro part answer _
  apply wp_seq
  have closed : Goes exited (closeSecret world.secret) (fun _ after => Published entry after)
      world := by
    apply wp_ite
    · intro _
      exact goes_closing published rfl published
    · intro _
      exact published
  apply wp_returned closed
  intro _ after still
  exact goes_closing still rfl still

theorem goes_refused (raises : Raises exited Bare) (bare : Bare world)
    {returned : Unit → World → Prop} (next : ∀ after, Bare after → returned () after) :
    Goes exited (must (act (.print enrolRefused))) returned world := by
  apply goes_must
  apply goes_act
  rintro ⟨works, signal, part⟩ _
  have alive := alive_arrive bare.toAttended signal
  have still := bare.frame (frame_arrive world signal) alive
  rw [perform_alive ⟨works, signal, part⟩ alive]
  cases works with
  | false => exact ⟨(fun fine => by cases fine), fun _ => raises 1 _ still⟩
  | true =>
      refine ⟨fun _ => next _ (still.say ?_ ?_), fun broken => by cases broken⟩
      · decide +kernel
      · decide +kernel

theorem goes_enrol (raises : Raises exited Bare) (bare : Bare world) :
    Goes exited enrol Outcome world := by
  unfold enrol
  apply wp_seq
  apply goes_attempt raises bare
  intro first bare
  apply wp_seq
  apply goes_attempt raises bare
  intro second bare
  apply wp_seq
  apply goes_attempt raises bare
  intro third bare
  apply wp_seq
  apply goes_bare rfl bare
  intro found fourth bare
  apply wp_ite
  · intro _
    apply wp_seq
    apply goes_refused raises bare
    intro last ended
    exact Outcome.fails (by decide) ended
  · intro _
    apply wp_seq
    apply goes_attempt raises bare
    intro fifth bare
    apply wp_seq
    apply goes_attempt raises bare
    intro sixth bare
    apply wp_seq
    apply goes_attempt raises bare
    intro seventh bare
    apply wp_seq
    apply goes_attempt raises bare
    intro eighth bare
    apply wp_seq
    apply goes_attempt raises bare
    intro ninth bare
    apply goes_finallyDo
    have closing : Raises (fun status after =>
        Goes exited release (fun _ => exited status) after) Bare := by
      intro status after still
      apply wp_returned (goes_release raises still)
      intro _ last ended
      exact raises status last ended
    apply wp_returned (goes_operate closing bare)
    intro status last outcome
    cases outcome with
    | fails nonzero bare =>
        apply wp_returned (goes_release raises bare)
        intro _ after ended
        exact Outcome.fails nonzero ended
    | enrols zero published =>
        apply wp_returned (published_release published)
        intro _ after ended
        exact Outcome.enrols zero ended

end Enrolment

/-! ### The process -/

section Process

variable {exited : Nat → World → Prop} {world : World}

/-- Nothing is left of a run without success. -/
structure Spent (status : Nat) (world : World) : Prop extends Fruitless world where
  spent : status ≠ 0 ∨ world.dead = true

theorem Spent.truthful {status : Nat} (spent : Spent status world) : Truthful status world where
  cleanup := spent.reported
  success := fun member => absurd member spent.unclaimed
  failure := fun _ => spent.output

theorem Fruitless.truthful (fruitless : Fruitless world) (status : Nat) :
    Truthful status world where
  cleanup := fruitless.reported
  success := fun member => absurd member fruitless.unclaimed
  failure := fun _ => fruitless.output

/-- A process that was ended does nothing, whatever its script. -/
theorem goes_dead {α : Type} (script : Script α) {returned : α → World → Prop}
    (dead : world.dead = true) (fruitless : Fruitless world)
    (done : ∀ value after, after.dead = true → Fruitless after → returned value after)
    (left : ∀ status after, after.dead = true → Fruitless after → exited status after) :
    Goes exited script returned world := by
  induction script generalizing world with
  | done value => exact done value world dead fruitless
  | exit status => exact left status world dead fruitless
  | act operation next ih =>
      constructor
      · trivial
      · intro choice
        have gone := dead_arrive dead (choice.1 world).signal
        apply ih
        · show (perform operation (choice.1 world) world).2.dead = true
          rw [perform_dead _ gone]
          exact gone
        · show Fruitless (perform operation (choice.1 world) world).2
          rw [perform_dead _ gone]
          exact fruitless.frame (frame_arrive world _)

/-- The operations of the process that change no file and print nothing. -/
def Op.plain : Op → Bool
  | .install _ | .restore _ => true
  | operation => operation.idles

theorem react_plain {operation : Op} (plain : operation.plain = true) (part : Nat)
    (answer : Answer operation) (fruitless : Fruitless world) :
    Fruitless (react part operation answer world).2 := by
  cases operation <;> first
    | exact absurd plain Bool.false_ne_true
    | exact ⟨⟨fruitless.honest, fruitless.reported, fruitless.unclaimed⟩, fruitless.output⟩

theorem goes_plain {operation : Op} (plain : operation.plain = true) (fruitless : Fruitless world)
    {returned : Answer operation → World → Prop}
    (next : ∀ answer after, Fruitless after → (world.dead = true → after.dead = true) →
      returned answer after) :
    Goes exited (act operation) returned world := by
  apply goes_act
  intro fault _
  have arrived := fruitless.frame (frame_arrive world fault.signal)
  cases dead : (world.arrive fault.signal).dead with
  | true =>
      rw [perform_dead fault dead]
      exact next _ _ arrived (fun _ => dead)
  | false =>
      rw [perform_alive fault dead]
      apply next
      · exact react_plain plain fault.part fault.answer arrived
      · intro before
        rw [dead_arrive before fault.signal] at dead
        cases dead

/-- Exceptions of a process without success. -/
abbrev Leaves (exited : Nat → World → Prop) : Prop := Raises exited Fruitless

theorem goes_spent {status : Nat} {operation : Op} (plain : operation.plain = true)
    (spent : Spent status world) {returned : Answer operation → World → Prop}
    (next : ∀ answer after, Spent status after → returned answer after) :
    Goes exited (act operation) returned world := by
  apply goes_plain plain spent.toFruitless
  intro answer after fruitless dead
  exact next answer after ⟨fruitless, spent.spent.imp_right dead⟩

/-- The line on the cleanup, when it is true. -/
theorem Told.sayCleaned (told : Told world) (clean : ∀ lines ∈ world.started, Clean lines) :
    Told { world with printed := world.printed ++ [cleanupOk] } where
  honest := told.honest
  reported := fun _ => clean
  unclaimed := by
    intro member
    rcases List.mem_append.mp member with before | last
    · exact told.unclaimed before
    · exact absurd (List.mem_singleton.mp last) (by decide +kernel)

theorem goes_say {status : Nat} {line : String} (ours : line ≠ cleanupOk)
    (success : line ≠ enrolOk) (leaves : Leaves exited) (spent : Spent status world)
    {returned : Unit → World → Prop} (next : ∀ after, Spent status after → returned () after) :
    Goes exited (must (act (.print line))) returned world := by
  apply goes_must
  apply goes_act
  rintro ⟨works, signal, part⟩ _
  have arrived := spent.toFruitless.frame (frame_arrive world signal)
  have still : Spent status (world.arrive signal) :=
    ⟨arrived, spent.spent.imp_right (fun dead => dead_arrive dead signal)⟩
  cases dead : (world.arrive signal).dead with
  | true =>
      rw [perform_dead ⟨works, signal, part⟩ dead]
      exact ⟨fun _ => next _ still, fun _ => leaves 1 _ arrived⟩
  | false =>
      rw [perform_alive ⟨works, signal, part⟩ dead]
      cases works with
      | false => exact ⟨(fun fine => by cases fine), fun _ => leaves 1 _ arrived⟩
      | true =>
          refine ⟨fun _ => next _ ⟨arrived.say ours success, still.spent⟩, fun broken => ?_⟩
          cases broken

theorem goes_sayCleaned {status : Nat} {cleaned : Bool} (leaves : Leaves exited)
    (spent : Spent status world)
    (clean : cleaned = true → ∀ lines ∈ world.started, Clean lines) :
    Goes exited (sayCleaned cleaned) (fun _ after => Spent status after) world := by
  apply wp_ite
  · intro sure
    apply goes_must
    apply goes_act
    rintro ⟨works, signal, part⟩ _
    have frame := frame_arrive world signal
    have arrived := spent.toFruitless.frame frame
    have still : Spent status (world.arrive signal) :=
      ⟨arrived, spent.spent.imp_right (fun dead => dead_arrive dead signal)⟩
    have all : ∀ lines ∈ (world.arrive signal).started, Clean lines := by
      rw [frame.started]
      exact clean sure
    cases dead : (world.arrive signal).dead with
    | true =>
        rw [perform_dead ⟨works, signal, part⟩ dead]
        exact ⟨fun _ => still, fun _ => leaves 1 _ arrived⟩
    | false =>
        rw [perform_alive ⟨works, signal, part⟩ dead]
        cases works with
        | false => exact ⟨(fun fine => by cases fine), fun _ => leaves 1 _ arrived⟩
        | true =>
            refine ⟨fun _ => ?_, fun broken => by cases broken⟩
            exact ⟨⟨arrived.toTold.sayCleaned all, arrived.output⟩, still.spent⟩
  · intro _
    exact spent

theorem goes_report {status : Nat} (leaves : Leaves exited) (spent : Spent status world) :
    Goes exited report (fun _ after => Spent status after) world := by
  unfold report
  apply wp_seq
  apply goes_act
  intro fault _
  have frame := frame_arrive world fault.signal
  have arrived := spent.toFruitless.frame frame
  cases dead : (world.arrive fault.signal).dead with
  | true =>
      rw [perform_dead fault dead]
      apply goes_dead _ dead arrived
      · intro _ after gone fruitless
        exact ⟨fruitless, Or.inr gone⟩
      · intro status after _ fruitless
        exact leaves status after fruitless
  | false =>
      rw [perform_alive fault dead]
      have still : Spent status (world.arrive fault.signal) :=
        ⟨arrived, spent.spent.imp_right (fun before => dead_arrive before fault.signal)⟩
      show Goes exited _ _ (world.arrive fault.signal)
      generalize world.arrive fault.signal = first at still
      apply wp_seq
      apply goes_act
      intro later _
      have idle : Frame first (perform .idle later first).2 := perform_idle rfl later first
      have second : Spent status (perform .idle later first).2 := by
        refine ⟨still.toFruitless.frame idle, still.spent.imp_right (fun before => ?_)⟩
        rw [perform_dead later (dead_arrive before later.signal)]
        exact dead_arrive before later.signal
      apply wp_seq
      have clean : (first.cleaned && (perform .idle later first).1) = true →
          ∀ lines ∈ (perform .idle later first).2.started, Clean lines := by
        intro both
        rw [idle.started]
        exact still.honest (Bool.and_eq_true_iff.mp both).1
      apply wp_returned (goes_sayCleaned leaves second clean)
      intro _ third spent
      apply wp_seq
      apply goes_spent rfl spent
      intro _ fourth spent
      apply wp_seq
      apply goes_spent rfl spent
      intro _ fifth spent
      apply goes_spent rfl spent
      intro _ last spent
      exact spent

/-- With all three handlers in place, unless a signal has ended the process. -/
theorem goes_install {signal : Signal} {returned : Unit → World → Prop}
    (fruitless : Fruitless world) (quiet : cleanupOk ∉ world.printed)
    (ended : ∀ after, after.dead = true → Fruitless after → returned () after)
    (next : ∀ after, Fruitless after → cleanupOk ∉ after.printed → after.dead = false →
      after.handled = Function.update world.handled signal true → returned () after) :
    Goes exited (act (.install signal)) returned world := by
  apply goes_act
  intro fault _
  have frame := frame_arrive world fault.signal
  have arrived := fruitless.frame frame
  cases dead : (world.arrive fault.signal).dead with
  | true =>
      rw [perform_dead fault dead]
      exact ended _ dead arrived
  | false =>
      rw [perform_alive fault dead]
      apply next
      · exact react_plain rfl fault.part fault.answer arrived
      · show cleanupOk ∉ (world.arrive fault.signal).printed
        rw [frame.printed]
        exact quiet
      · exact dead
      · show Function.update (world.arrive fault.signal).handled signal true = _
        rw [frame.handled]

/-- How main's try statement ends. -/
inductive Ended (ending : Nat × Bool) (world : World) : Prop where
  | spent (spent : Spent ending.1 world)
  | enrols (zero : ending.1 = 0) (further : ending.2 = false) (published : Published true world)

theorem ended_dead {ending : Nat × Bool} (dead : world.dead = true) (fruitless : Fruitless world) :
    Ended ending world :=
  Ended.spent ⟨fruitless, Or.inr dead⟩

theorem goes_before {operation : Op} (idles : operation.idles = true) (fruitless : Fruitless world)
    (quiet : cleanupOk ∉ world.printed) {returned : Answer operation → World → Prop}
    (next : ∀ answer after, Fruitless after → cleanupOk ∉ after.printed →
      returned answer after) :
    Goes exited (act operation) returned world := by
  apply goes_act
  intro fault _
  have frame := perform_idle idles fault world
  apply next
  · exact fruitless.frame frame
  · rw [frame.printed]
    exact quiet

/-- The enrolment of a process that may have been ended while the handlers came. -/
theorem goes_begin (leaves : Leaves exited) (fruitless : Fruitless world)
    (quiet : cleanupOk ∉ world.printed) : Goes exited begin Ended world := by
  have ended {α : Type} (script : Script α) {returned : α → World → Prop} (after : World)
      (dead : after.dead = true) (fruitless : Fruitless after)
      (done : ∀ value last, last.dead = true → Fruitless last → returned value last) :
      Goes exited script returned after :=
    goes_dead script dead fruitless done (fun status last _ still => leaves status last still)
  unfold begin
  apply wp_seq
  apply goes_before rfl fruitless quiet
  intro usable first fruitless quiet
  apply wp_ite
  · intro _
    apply wp_seq
    apply goes_must
    apply goes_before rfl fruitless quiet
    intro works second fruitless quiet
    refine ⟨fun _ => ?_, fun _ => leaves 1 second fruitless⟩
    apply wp_seq
    apply goes_install fruitless quiet
    · intro after dead gone
      exact ended _ after dead gone (fun _ _ => ended_dead)
    · intro third fruitless quiet _ term
      apply wp_seq
      apply goes_install fruitless quiet
      · intro after dead gone
        exact ended _ after dead gone (fun _ _ => ended_dead)
      · intro fourth fruitless quiet _ int
        apply wp_seq
        apply goes_install fruitless quiet
        · intro after dead gone
          exact ended _ after dead gone (fun _ _ => ended_dead)
        · intro fifth fruitless quiet alive hup
          have handled : ∀ signal, fifth.handled signal = true := by
            intro signal
            rw [hup, int, term]
            cases signal <;> rfl
          have bare : Bare fifth := ⟨fruitless, ⟨alive, handled⟩, quiet⟩
          apply wp_seq
          apply wp_returned (goes_enrol (fun status after bare =>
            leaves status after bare.toFruitless) bare)
          intro status last outcome
          cases outcome with
          | fails nonzero bare => exact Ended.spent ⟨bare.toFruitless, Or.inl nonzero⟩
          | enrols zero published => exact Ended.enrols zero rfl published
  · intro _
    apply wp_seq
    apply goes_must
    apply goes_before rfl fruitless quiet
    intro works last fruitless _
    refine ⟨fun _ => ?_, fun _ => leaves 1 last fruitless⟩
    exact Ended.spent ⟨fruitless, Or.inl (by decide)⟩

theorem goes_failed (leaves : Leaves exited) (fruitless : Fruitless world) (status : Nat) :
    Goes exited (failed status) Ended world := by
  unfold failed
  apply wp_seq
  apply goes_must
  apply goes_plain rfl fruitless
  intro works after still _
  refine ⟨fun _ => ?_, fun _ => leaves 1 after still⟩
  exact Ended.spent ⟨still, Or.inl (by decide)⟩

theorem Published.say {entry : Bool} (published : Published entry world)
    (clean : ∀ lines ∈ world.started, Clean lines) :
    Published entry { world with printed := world.printed ++ [cleanupOk] } :=
  ⟨published.toTold.sayCleaned clean, published.alive, published.running, published.output⟩

/-- The line on the cleanup, and the handlers that were there before. -/
theorem published_report {entry : Bool} (published : Published entry world) :
    Goes exited report (fun _ after => Published entry after ∧ after.handled .term = false)
      world := by
  unfold report
  apply wp_seq
  apply goes_published published rfl
  intro _ _ _
  apply wp_seq
  apply goes_published published rfl
  intro _ _ _
  apply wp_seq
  have said : Goes exited (sayCleaned (world.cleaned && world.child.isNone))
      (fun _ after => Published entry after) world := by
    apply wp_ite
    · intro both
      apply goes_must
      apply goes_published published rfl
      intro part works worked
      have fine : works = true := worked
      rw [fine]
      refine ⟨fun _ => ?_, fun broken => by cases broken⟩
      exact published.say (published.honest (Bool.and_eq_true_iff.mp both).1)
    · intro _
      exact published
  apply wp_returned said
  intro _ first published
  have restored (world : World) (still : Published entry world) (signal : Signal) :
      Published entry { world with handled := Function.update world.handled signal false } :=
    ⟨⟨still.honest, still.reported, still.unclaimed⟩, still.alive, still.running, still.output⟩
  apply wp_seq
  apply goes_published published rfl
  intro _ _ _
  apply wp_seq
  apply goes_published (restored first published .term) rfl
  intro _ _ _
  apply goes_published (restored _ (restored first published .term) .int) rfl
  intro _ _ _
  exact ⟨restored _ (restored _ (restored first published .term) .int) .hup, rfl⟩

/-- At the end nothing is left without success, or the database is there. -/
inductive Done (status : Nat) (world : World) : Prop where
  | spent (spent : Spent status world)
  | enrols (zero : status = 0) (alive : world.dead = false) (complete : Complete world)
      (reported : cleanupOk ∈ world.printed → ∀ lines ∈ world.started, Clean lines)

theorem Done.truthful {status : Nat} (done : Done status world) : Truthful status world := by
  cases done with
  | spent spent => exact spent.truthful
  | enrols zero alive complete reported =>
      constructor
      · exact reported
      · intro _
        exact ⟨zero, alive, complete⟩
      · rintro (nonzero | dead)
        · exact absurd zero nonzero
        · rw [alive] at dead
          cases dead

theorem goes_main (leaves : Leaves exited) (fruitless : Fruitless world)
    (quiet : cleanupOk ∉ world.printed) : Goes exited main Done world := by
  have reporting : Leaves (fun status after =>
      Goes exited report (fun _ => exited status) after) := by
    intro status after still
    have spent : Spent 1 after := ⟨still, Or.inl (by decide)⟩
    apply wp_returned (goes_report leaves spent)
    intro _ last ended
    exact leaves status last ended.toFruitless
  unfold main
  apply wp_seq
  apply goes_finallyDo
  have tried : Goes (fun status after => Goes exited report (fun _ => exited status) after)
      (begin.onExit failed) Ended world := by
    rw [Goes, wp_onExit]
    apply goes_begin _ fruitless quiet
    intro status after still
    exact goes_failed reporting still status
  apply wp_returned tried
  intro ending first ended
  cases ended with
  | spent spent =>
      apply wp_returned (goes_report leaves spent)
      intro _ second spent
      apply wp_ite
      · intro _
        exact Done.spent spent
      · intro _
        apply wp_seq
        apply goes_spent rfl spent
        intro stopped third spent
        apply wp_ite
        · intro _
          apply wp_seq
          have failed : Spent 1 third := ⟨spent.toFruitless, Or.inl (by decide)⟩
          apply goes_say _ _ leaves failed
          · intro last spent
            exact Done.spent spent
          · decide +kernel
          · decide +kernel
        · intro _
          apply wp_seq
          apply goes_spent rfl spent
          intro clean fourth spent
          apply wp_ite
          · rintro ⟨zero, _⟩
            have dead : fourth.dead = true := spent.spent.resolve_left (fun nonzero => nonzero zero)
            apply goes_dead _ dead spent.toFruitless
            · intro value after gone fruitless
              exact Done.spent ⟨fruitless, Or.inr gone⟩
            · intro status after _ fruitless
              exact leaves status after fruitless
          · intro _
            exact Done.spent spent
  | enrols zero further published =>
      apply wp_returned (published_report published)
      rintro _ second ⟨published, restored⟩
      apply wp_ite
      · intro early
        rw [further] at early
        cases early
      · intro _
        apply wp_seq
        have outside : Op.copies .cancelled second = false := restored
        apply goes_published published outside
        intro _ _ _
        apply wp_ite
        · intro stopped
          rw [show (react _ .cancelled _ second).1 = false from published.running] at stopped
          cases stopped
        · intro _
          apply wp_seq
          apply goes_published published rfl
          intro _ _ _
          apply wp_ite
          · intro _
            apply wp_seq
            apply goes_must
            apply goes_published published rfl
            intro part works worked
            have fine : works = true := worked
            rw [fine]
            refine ⟨fun _ => ?_, fun broken => by cases broken⟩
            have reported : cleanupOk ∈ second.printed ++ [enrolOk] →
                ∀ lines ∈ second.started, Clean lines := by
              intro member
              rcases List.mem_append.mp member with before | last
              · exact published.reported before
              · exact absurd (List.mem_singleton.mp last) (by decide +kernel)
            exact Done.enrols zero published.alive published.output reported
          · intro _
            exact Done.enrols zero published.alive published.output published.reported

theorem goes_provider :
    Goes Truthful provider Truthful World.start := by
  have fruitless : Fruitless World.start := by
    constructor
    · constructor
      · intro _ lines member
        cases member
      · intro member
        cases member
      · intro member
        cases member
    · rfl
  unfold provider
  apply wp_seq
  apply wp_returned (goes_main (fun status after still => still.truthful status) fruitless
    List.not_mem_nil)
  intro status first done
  apply wp_seq
  cases done with
  | spent spent =>
      apply goes_spent rfl spent
      intro _ last spent
      exact spent.truthful
  | enrols zero alive complete reported =>
      have there : first.output.isSome = true := by
        rw [show first.output = _ from complete]
        rfl
      apply goes_behind there alive rfl
      intro _ _ _
      exact (Done.enrols zero alive complete reported).truthful

end Process

/-! ### Every orderly run -/

/-- Whatever the children print and however they end, whichever calls fail and
whenever signals come under the condition: every exit is truthful. -/
theorem orderly_truthful {program : Script Nat} {after : World} {status : Nat}
    (run : ReachesWithin machine Orderly (provider, World.start) (program, after))
    (ended : program = .done status ∨ program = .exit status) : Truthful status after := by
  have goes : Goes Truthful provider Truthful World.start := goes_provider
  have safe := wp_sound goes (within_of_reaches orderly_total run)
  rcases ended with done | left
  · rw [done] at safe
    exact safe
  · rw [left] at safe
    exact safe

/-! ### Runs with one child -/

/-- A credential is there, and one child prints the lines.  Every call works,
and only as the output is closed a signal may come. -/
def calm (lines : List String) (late : Option Signal) : (operation : Op) → World →
    machine.Fault operation
  | .call .closeOutput, _ => ⟨true, late, 0⟩
  | .call _, _ => ⟨true, none, 0⟩
  | .templates, _ => ⟨false, none, 0⟩
  | .credential, _ => ⟨some true, none, 0⟩
  | .spawn, _ => ⟨some lines, none, 0⟩
  | .openDatabase, _ => ⟨some [1], none, 0⟩
  | .wait, _ => ⟨(0 : Nat), none, 0⟩
  | .memfd, _ => ⟨true, none, 0⟩
  | .secretOpen, _ => ⟨true, none, 0⟩
  | .cancelled, _ => ⟨true, none, 0⟩
  | .cleaned, _ => ⟨true, none, 0⟩
  | .idle, _ => ⟨true, none, 0⟩
  | .setCleaned _, _ => ⟨(), none, 0⟩
  | .setCreating _, _ => ⟨(), none, 0⟩
  | .dropChild, _ => ⟨(), none, 0⟩
  | .cancel, _ => ⟨(), none, 0⟩
  | .read, _ => ⟨true, none, 0⟩
  | .poll, _ => ⟨true, none, 0⟩
  | .print _, _ => ⟨true, none, 0⟩
  | .createOutput, _ => ⟨true, none, 0⟩
  | .copy, _ => ⟨true, none, 0⟩
  | .flush, _ => ⟨true, none, 0⟩
  | .fsyncOutput, _ => ⟨true, none, 0⟩
  | .unlinkOutput, _ => ⟨true, none, 0⟩
  | .fsyncParent, _ => ⟨true, none, 0⟩
  | .install _, _ => ⟨(), none, 0⟩
  | .restore _, _ => ⟨(), none, 0⟩
  | .leave, _ => ⟨(), none, 0⟩

theorem calm_orderly (lines : List String) (operation : Op) (world : World) :
    Orderly operation (calm lines none operation world) world := by
  have drained : Drained world operation (calm lines none operation world).answer := by
    cases operation <;> first | trivial | exact fun gone => nomatch gone
  have fine : (calm lines none operation world).signal = none ∧
      worked operation (calm lines none operation world).answer = true := by
    cases operation with
    | call name => cases name <;> exact ⟨rfl, rfl⟩
    | _ => exact ⟨rfl, rfl⟩
  exact ⟨drained, fun _ => fine.2, fun _ _ => fine⟩

def enrolled : Script Nat × World :=
  play machine (fun _ => calm [cleanupLine] none) 80 (provider, World.start)

theorem enrolled_truthful : enrolOk ∈ enrolled.2.printed ∧ Truthful 0 enrolled.2 := by
  have said : enrolOk ∈ enrolled.2.printed := by
    decide +kernel
  have ended : enrolled.1.returned = some 0 := by
    decide +kernel
  have run : ReachesWithin machine Orderly (provider, World.start) enrolled :=
    play_within _ (fun _ => calm_orderly [cleanupLine]) 80 _
  generalize enrolled = result at said ended run
  rcases result with ⟨program, world⟩
  exact ⟨said, orderly_truthful run (Or.inl (Prog.done_of_returned ended))⟩

/-- The cleanup line could not be printed, and the child that is gone had taken
it back. -/
def broken (operation : Op) (world : World) : machine.Fault operation :=
  match operation with
  | .print line => ⟨line ≠ cleanupLine, none, 0⟩
  | .poll => ⟨false, none, 0⟩
  | other => calm [cleanupLine, cleanupStart] none other world

/-- A signal after the last check leaves the database with status 1, and a line
that was not read is not in the report on the cleanup. -/
theorem untruthful_exits :
    (∃ world, Reaches machine (provider, World.start) (.done 1, world) ∧
      world.output = some ⟨[1], true, true⟩ ∧ ¬Truthful 1 world) ∧
    ∃ world, Reaches machine (provider, World.start) (.done 1, world) ∧
      cleanupOk ∈ world.printed ∧ ¬Truthful 1 world := by
  constructor
  · have ended : (play machine (fun _ => calm [cleanupLine] (some .term)) 80
        (provider, World.start)).1.returned = some 1 := by
      decide +kernel
    have output : (play machine (fun _ => calm [cleanupLine] (some .term)) 80
        (provider, World.start)).2.output = some ⟨[1], true, true⟩ := by
      decide +kernel
    refine ⟨_, returns_of_play machine _ 80 ended, output, fun truthful => ?_⟩
    have nothing := truthful.failure (Or.inl (by decide))
    rw [output] at nothing
    cases nothing
  · have ended : (play machine (fun _ => broken) 80 (provider, World.start)).1.returned =
        some 1 := by
      decide +kernel
    have said : cleanupOk ∈ (play machine (fun _ => broken) 80
        (provider, World.start)).2.printed := by
      decide +kernel
    have unclean : ¬∀ lines ∈ (play machine (fun _ => broken) 80
        (provider, World.start)).2.started, Clean lines := by
      decide +kernel
    exact ⟨_, returns_of_play machine _ 80 ended, said,
      fun truthful => unclean (truthful.cleanup said)⟩

end Liuqin.Fingerprint.NativeEnrol
