/-
Where the derived input comes from.

The buffer holds what every prompt so far put into it.  A prompt that fails
leaves its part there, so the password is the last line alone exactly when the
prompts before it put nothing in.
-/

import Liuqin.Fingerprint.Input

namespace Liuqin.Fingerprint.Input

open Liuqin.Library Liuqin.Library.Program

/-! ### The statement -/

/-- What a prompt put into the buffer, or tried to. -/
def kept (read : Library.Bytes) : Library.Bytes :=
  read.takeWhile (fun byte => byte ≠ 10 && byte ≠ 0)

/-- PAM authenticated and admitted the named user, whose UID is unchanged. -/
structure Admitted (username : String) (world : World) : Prop where
  authenticated : world.authenticated = true
  admitted : world.admitted = true
  user : world.user = some username
  uid : ∃ uid, world.expected = some uid ∧ world.uid = some uid

def During (username : String) : Op → World → Prop
  | .write _ _, world => Admitted username world
  | _, _ => True

/-- The prompts for the password of the account, the last one first. -/
def asked (world : World) : List Prompt :=
  world.prompts.filter (fun prompt => prompt.text = accountPrompt)

/-- The descriptors received what was derived from the one password that PAM
was given, a whole line of one prompt, and from the line of the second prompt. -/
def Correct (kdf : Kdf) (sync : Bool) (world : World) : Prop :=
  ∃ password, world.given ≠ [] ∧ (∀ answer ∈ world.given, answer = password) ∧
    (∃ prompt ∈ asked world, prompt.read = password ++ [10]) ∧
    world.outputs .output = kdf.derive password world.salt ∧
    (sync = true → ∃ prompt ∈ world.prompts, prompt.text = previousPrompt ∧
      ∃ line, prompt.read = line ++ [10] ∧
        world.outputs .current = kdf.derive line world.salt)

/-- PAM was given the password, and the prompts before the last one put nothing
into the buffer. -/
def Unmixed (world : World) : Prop :=
  world.given ≠ [] ∧ ∀ prompt ∈ (asked world).tail, kept prompt.read = []

/-! ### The buffer -/

/-- After prompts of which none was completed. -/
structure Failed (prompts : List Prompt) (password : Library.Bytes) : Prop where
  named : ∀ prompt ∈ prompts, prompt.text = accountPrompt
  lines : ∀ prompt ∈ prompts, ∀ line, prompt.read = line ++ [10] → line = []
  blank : (∀ prompt ∈ prompts, kept prompt.read = []) ↔ password = []

/-- A part of the buffer that one prompt typed. -/
def Plain (bytes : Library.Bytes) : Prop := 10 ∉ bytes ∧ 0 ∉ bytes

/-- After the prompt that was completed. -/
structure Completed (prompts : List Prompt) (password : Library.Bytes) : Prop where
  some : password ≠ []
  parts : ∃ last earlier before typed, prompts = last :: earlier ∧ last.text = accountPrompt ∧
    password = before ++ typed ∧ last.read = typed ++ [10] ∧ Plain typed ∧ Failed earlier before

/-- How a prompt ended; `before` is what the buffer held when it began. -/
structure Ended (text : String) (before : Library.Bytes) (earlier : List Prompt) (data : Data)
    (prompts : List Prompt) : Prop where
  parts : ∃ prompt typed, prompts = prompt :: earlier ∧ prompt.text = text ∧
    data.password = before ++ typed ∧ Plain typed ∧
    (data.acquired = true ∧ prompt.read = typed ++ [10] ∧ data.password ≠ [] ∨
      data.acquired = false ∧ (prompt.read = typed ∨
        prompt.read = typed ++ [10] ∧ data.password = [] ∨
        prompt.read = typed ++ [0] ∨
        ∃ byte, byte ≠ 10 ∧ byte ≠ 0 ∧ prompt.read = typed ++ [byte] ∧ data.password ≠ []))

theorem plain_nil : Plain [] := ⟨List.not_mem_nil, List.not_mem_nil⟩

theorem Plain.snoc {bytes : Library.Bytes} {byte : UInt8} (plain : Plain bytes) (line : byte ≠ 10)
    (nul : byte ≠ 0) : Plain (bytes ++ [byte]) := by
  constructor
  · intro member
    rcases List.mem_append.mp member with inside | last
    · exact plain.1 inside
    · exact line (List.mem_singleton.mp last).symm
  · intro member
    rcases List.mem_append.mp member with inside | last
    · exact plain.2 inside
    · exact nul (List.mem_singleton.mp last).symm

theorem kept_plain {bytes rest : Library.Bytes} (plain : Plain bytes) :
    kept (bytes ++ rest) = bytes ++ kept rest := by
  unfold kept
  apply List.takeWhile_append_of_pos
  intro byte member
  simp only [Bool.and_eq_true, decide_eq_true_eq]
  constructor
  · intro same
    rw [same] at member
    exact plain.1 member
  · intro same
    rw [same] at member
    exact plain.2 member

theorem Failed.empty : Failed [] [] where
  named := fun _ member => by cases member
  lines := fun _ member => by cases member
  blank := ⟨fun _ => rfl, fun _ _ member => by cases member⟩

/-- A prompt that failed joins those before. -/
theorem Failed.more {prompts : List Prompt} {before typed : Library.Bytes} {prompt : Prompt}
    (failed : Failed prompts before) (named : prompt.text = accountPrompt)
    (lines : ∀ line, prompt.read = line ++ [10] → line = [])
    (blank : kept prompt.read = [] → typed = [])
    (full : before ++ typed = [] → kept prompt.read = []) :
    Failed (prompt :: prompts) (before ++ typed) where
  named := by
    intro other member
    rcases List.mem_cons.mp member with first | rest
    · rw [first]
      exact named
    · exact failed.named other rest
  lines := by
    intro other member
    rcases List.mem_cons.mp member with first | rest
    · rw [first]
      exact lines
    · exact failed.lines other rest
  blank := by
    constructor
    · intro all
      have nothing := failed.blank.mp
        (fun other member => all other (List.mem_cons_of_mem _ member))
      rw [nothing, blank (all prompt List.mem_cons_self)]
      rfl
    · intro nothing other member
      rcases List.mem_cons.mp member with first | rest
      · rw [first]
        exact full nothing
      · exact failed.blank.mpr (List.append_eq_nil_iff.mp nothing).1 other rest

theorem snoc_inj {front back : Library.Bytes} {first last : UInt8}
    (same : front ++ [first] = back ++ [last]) : front = back ∧ first = last := by
  obtain ⟨begin, ends⟩ := List.append_inj' same rfl
  exact ⟨begin, List.singleton_inj.mp ends⟩

/-- What a prompt that ended for the account's password leaves. -/
theorem Ended.held {before : Library.Bytes} {earlier : List Prompt} {data : Data}
    {prompts : List Prompt} (ended : Ended accountPrompt before earlier data prompts) (failed : Failed earlier before) :
    (data.acquired = true ∧ Completed prompts data.password) ∨
      (data.acquired = false ∧ Failed prompts data.password) := by
  obtain ⟨prompt, typed, same, named, buffer, plain, whole | part⟩ := ended.parts
  · obtain ⟨acquired, read, some⟩ := whole
    exact Or.inl ⟨acquired, some, prompt, earlier, before, typed, same, named, buffer, read, plain,
      failed⟩
  · obtain ⟨open', read⟩ := part
    refine Or.inr ⟨open', ?_⟩
    rw [same, buffer]
    have own : kept typed = typed := by
      have all : kept (typed ++ []) = typed ++ kept [] := kept_plain plain
      rwa [List.append_nil, show kept [] = [] from rfl, List.append_nil] at all
    rcases read with bare | ⟨line, nothing⟩ | nul | ⟨byte, other, value, read, some⟩
    · apply failed.more named
      · intro line ends
        rw [bare] at ends
        exact absurd (ends ▸ List.mem_append_right line List.mem_cons_self) plain.1
      · intro blank
        rwa [bare, own] at blank
      · intro nothing
        rw [bare, own]
        exact (List.append_eq_nil_iff.mp nothing).2
    · rw [buffer] at nothing
      have blank := (List.append_eq_nil_iff.mp nothing).2
      apply failed.more named
      · intro other ends
        rw [line, blank] at ends
        exact (snoc_inj ends).1.symm
      · intro _
        exact blank
      · intro _
        rw [line, blank]
        rfl
    · have keeps : kept prompt.read = typed := by
        rw [nul, kept_plain plain]
        exact List.append_nil typed
      apply failed.more named
      · intro line ends
        rw [nul] at ends
        cases (snoc_inj ends).2
      · intro blank
        rwa [keeps] at blank
      · intro nothing
        rw [keeps]
        exact (List.append_eq_nil_iff.mp nothing).2
    · apply failed.more named
      · intro line ends
        rw [read] at ends
        exact absurd (snoc_inj ends).2 other
      · intro blank
        rw [read, kept_plain plain] at blank
        exact (List.append_eq_nil_iff.mp blank).1
      · intro nothing
        rw [buffer] at some
        exact absurd nothing some

/-! ### Frames -/

/-- Neither PAM nor the accounts were asked anything, and a signal stays. -/
structure Frame (before after : World) : Prop where
  expected : after.expected = before.expected
  salt : after.salt = before.salt
  authenticated : after.authenticated = before.authenticated
  admitted : after.admitted = before.admitted
  user : after.user = before.user
  uid : after.uid = before.uid
  sticky : before.cancelled = true → after.cancelled = true

/-- No descriptor received anything. -/
structure Talked (before after : World) : Prop extends Frame before after where
  outputs : after.outputs = before.outputs

/-- PAM was given nothing and the terminal was left alone. -/
structure Quiet (before after : World) : Prop extends Talked before after where
  given : after.given = before.given
  prompts : after.prompts = before.prompts

/-- Nothing but a descriptor received the bytes. -/
structure Written (fd : Fd) (bytes : Library.Bytes) (before after : World) : Prop
    extends Frame before after where
  given : after.given = before.given
  prompts : after.prompts = before.prompts
  outputs : after.outputs = Function.update before.outputs fd (before.outputs fd ++ bytes)

theorem Frame.trans {first second third : World} (front : Frame first second)
    (back : Frame second third) : Frame first third where
  expected := back.expected.trans front.expected
  salt := back.salt.trans front.salt
  authenticated := back.authenticated.trans front.authenticated
  admitted := back.admitted.trans front.admitted
  user := back.user.trans front.user
  uid := back.uid.trans front.uid
  sticky := fun signal => back.sticky (front.sticky signal)

theorem Talked.trans {first second third : World} (front : Talked first second)
    (back : Talked second third) : Talked first third where
  toFrame := front.toFrame.trans back.toFrame
  outputs := back.outputs.trans front.outputs

theorem Quiet.trans {first second third : World} (front : Quiet first second)
    (back : Quiet second third) : Quiet first third where
  toTalked := front.toTalked.trans back.toTalked
  given := back.given.trans front.given
  prompts := back.prompts.trans front.prompts

theorem Quiet.refl (world : World) : Quiet world world :=
  ⟨⟨⟨rfl, rfl, rfl, rfl, rfl, rfl, id⟩, rfl⟩, rfl, rfl⟩

/-- A signal may come. -/
def World.signalled (world : World) (signal : Bool) : World :=
  { world with cancelled := world.cancelled || signal }

theorem quiet_signalled (world : World) (signal : Bool) :
    Quiet world (world.signalled signal) := by
  have sticky : world.cancelled = true → (world.cancelled || signal) = true := by
    intro before
    rw [before]
    rfl
  exact ⟨⟨⟨rfl, rfl, rfl, rfl, rfl, rfl, sticky⟩, rfl⟩, rfl, rfl⟩

theorem talked_typed (world : World) (byte : UInt8) : Talked world (world.typed byte) := by
  unfold World.typed
  cases world.prompts with
  | nil => exact (Quiet.refl world).toTalked
  | cons prompt earlier => exact ⟨⟨rfl, rfl, rfl, rfl, rfl, rfl, id⟩, rfl⟩

theorem typed_given (world : World) (byte : UInt8) : (world.typed byte).given = world.given := by
  unfold World.typed
  cases world.prompts <;> rfl

theorem typed_prompts {world : World} {text : String} {read : Library.Bytes} {earlier : List Prompt}
    (byte : UInt8) (prompts : world.prompts = ⟨text, read⟩ :: earlier) :
    (world.typed byte).prompts = ⟨text, read ++ [byte]⟩ :: earlier := by
  unfold World.typed
  rw [prompts]

/-! ### Single calls -/

section Calls

variable {username : String} {final : Nat → World → Prop}

/-- Every run of a script from a world. -/
abbrev Goes {α : Type} (username : String) (final : Nat → World → Prop) (script : Script α)
    (returned : α → World → Prop) (world : World) : Prop :=
  wp machine (During username) final script returned world

theorem goes_cancelled {returned : Bool → World → Prop} {world : World}
    (next : ∀ after, Quiet world after → returned after.cancelled after) :
    Goes username final cancelled returned world := by
  constructor
  · trivial
  · intro fault
    exact next _ (quiet_signalled world fault.signal)

theorem goes_call {name : Call} {returned : Bool → World → Prop} {world : World}
    (next : ∀ works after, Quiet world after → returned works after) :
    Goes username final (call name) returned world := by
  constructor
  · trivial
  · intro fault
    exact next fault.answer _ (quiet_signalled world fault.signal)

theorem goes_poll {returned : Polled → World → Prop} {world : World}
    (next : ∀ polled after, Quiet world after → returned polled after) :
    Goes username final poll returned world := by
  constructor
  · trivial
  · intro fault
    exact next fault.answer _ (quiet_signalled world fault.signal)

theorem goes_readByte {returned : Got → World → Prop} {world : World}
    (other : ∀ after, Quiet world after →
      returned .interrupted after ∧ returned .other after)
    (byte : ∀ value after, Quiet world after → returned (.byte value) (after.typed value)) :
    Goes username final readByte returned world := by
  constructor
  · trivial
  · rintro ⟨got, signal⟩
    have quiet := quiet_signalled world signal
    cases got with
    | byte value => exact byte value _ quiet
    | interrupted => exact (other _ quiet).1
    | other => exact (other _ quiet).2

end Calls

/-! ### One prompt -/

/-- What a prompt has read so far, of which all is in the buffer. -/
structure Typing (text : String) (before : Library.Bytes) (earlier : List Prompt) (data : Data)
    (world : World) (typed : Library.Bytes) : Prop where
  prompts : world.prompts = ⟨text, typed⟩ :: earlier
  buffer : data.password = before ++ typed
  waits : data.acquired = false
  plain : Plain typed

section Prompts

variable {username : String} {final : Nat → World → Prop} {text : String} {before : Library.Bytes}
  {earlier : List Prompt} {data : Data} {world : World} {typed : Library.Bytes}

theorem Typing.quiet {after : World} (typing : Typing text before earlier data world typed)
    (quiet : Quiet world after) : Typing text before earlier data after typed where
  prompts := quiet.prompts.trans typing.prompts
  buffer := typing.buffer
  waits := typing.waits
  plain := typing.plain

/-- The byte that was read joins the buffer. -/
theorem Typing.more (typing : Typing text before earlier data world typed) {value : UInt8}
    (line : value ≠ 10) (nul : value ≠ 0) :
    Typing text before earlier { data with password := data.password ++ [value] }
      (world.typed value) (typed ++ [value]) where
  prompts := typed_prompts value typing.prompts
  buffer := by
    show data.password ++ [value] = before ++ (typed ++ [value])
    rw [typing.buffer, List.append_assoc]
  waits := typing.waits
  plain := typing.plain.snoc line nul

/-- The prompt fails with all that was read in the buffer. -/
theorem Typing.stop (typing : Typing text before earlier data world typed) :
    Ended text before earlier data world.prompts :=
  ⟨_, typed, typing.prompts, rfl, typing.buffer, typing.plain,
    Or.inr ⟨typing.waits, Or.inl rfl⟩⟩

/-- The byte that ends the prompt is in no buffer. -/
theorem Typing.reject (typing : Typing text before earlier data world typed) {value : UInt8}
    (ends : value = 10 ∧ data.password = [] ∨ value = 0 ∨
      value ≠ 10 ∧ value ≠ 0 ∧ data.password ≠ []) :
    Ended text before earlier data (world.typed value).prompts := by
  refine ⟨_, typed, typed_prompts value typing.prompts, rfl, typing.buffer, typing.plain,
    Or.inr ⟨typing.waits, ?_⟩⟩
  rcases ends with ⟨line, nothing⟩ | nul | ⟨line, nul, some⟩
  · rw [line]
    exact Or.inr (Or.inl ⟨rfl, nothing⟩)
  · rw [nul]
    exact Or.inr (Or.inr (Or.inl rfl))
  · exact Or.inr (Or.inr (Or.inr ⟨value, line, nul, rfl, some⟩))

theorem Typing.line (typing : Typing text before earlier data world typed)
    (some : data.password ≠ []) :
    Ended text before earlier { data with acquired := true } (world.typed 10).prompts :=
  ⟨_, typed, typed_prompts 10 typing.prompts, rfl, typing.buffer, typing.plain,
    Or.inl ⟨rfl, rfl, some⟩⟩

/-- After a prompt: how it ended, and what else became of the world. -/
structure Prompted (text : String) (before : Library.Bytes) (earlier : List Prompt) (start : World)
    (result : Data × Bool) (world : World) : Prop extends Talked start world where
  given : world.given = start.given
  ended : Ended text before earlier result.1 world.prompts
  success : result.2 = true → result.1.acquired = true

theorem Prompted.after {start middle : World} {result : Data × Bool}
    (prompted : Prompted text before earlier middle result world) (quiet : Talked start middle)
    (given : middle.given = start.given) :
    Prompted text before earlier start result world where
  toTalked := quiet.trans prompted.toTalked
  given := prompted.given.trans given
  ended := prompted.ended
  success := prompted.success

theorem Prompted.failing (typing : Typing text before earlier data world typed) :
    Prompted text before earlier world (data, false) world where
  toTalked := (Quiet.refl world).toTalked
  given := rfl
  ended := typing.stop
  success := fun done => by cases done

/-- A byte that is no newline ends the prompt when it is NUL or the buffer is full. -/
theorem rejected {value : UInt8} (line : value ≠ 10)
    (ends : value = 0 ∨ data.password.length = passwordLimit - 1) :
    value = 10 ∧ data.password = [] ∨ value = 0 ∨
      value ≠ 10 ∧ value ≠ 0 ∧ data.password ≠ [] := by
  by_cases nul : value = 0
  · exact Or.inr (Or.inl nul)
  · have full := ends.resolve_left nul
    refine Or.inr (Or.inr ⟨line, nul, ?_⟩)
    intro nothing
    rw [nothing] at full
    cases full

/-- By induction on the turns that are left: until the prompt ends, all it read
is in the buffer. -/
theorem goes_typeIn (waits : Nat) (waited : ∀ world, final 255 world)
    (typing : Typing text before earlier data world typed) :
    Goes username final (typeIn waits data)
      (fun result after => Prompted text before earlier world result after) world := by
  induction waits generalizing data world typed with
  | zero => exact waited world
  | succ waits ih =>
      unfold typeIn
      apply wp_seq
      apply goes_cancelled
      intro asked first
      have still := typing.quiet first
      apply wp_ite
      · intro stopped
        exact (Prompted.failing still).after first.toTalked first.given
      · intro running
        apply wp_seq
        apply goes_poll
        intro polled ready second
        have again := still.quiet second
        have quiet := first.trans second
        cases polled with
        | interrupted =>
            apply wp_returned (ih again)
            intro result after prompted
            exact prompted.after quiet.toTalked quiet.given
        | other => exact (Prompted.failing again).after quiet.toTalked quiet.given
        | ready =>
            apply wp_seq
            apply goes_readByte
            · intro broken third
              have later := again.quiet third
              have all := quiet.trans third
              constructor
              · apply wp_returned (ih later)
                intro result after prompted
                exact prompted.after all.toTalked all.given
              · exact (Prompted.failing later).after all.toTalked all.given
            · intro value read third
              have later := again.quiet third
              have all := quiet.trans third
              have talked := all.toTalked.trans (talked_typed read value)
              have given := (typed_given read value).trans all.given
              apply wp_ite
              · intro line
                rw [line] at talked given ⊢
                apply wp_ite
                · intro nothing
                  exact ⟨talked, given, later.reject (Or.inl ⟨rfl, nothing⟩),
                    fun done => by cases done⟩
                · intro some
                  exact ⟨talked, given, later.line some, fun _ => rfl⟩
              · intro line
                apply wp_ite
                · intro ends
                  exact ⟨talked, given, later.reject (rejected line ends),
                    fun done => by cases done⟩
                · intro room
                  have nul : value ≠ 0 := fun same => room (Or.inl same)
                  apply wp_returned (ih (later.more line nul))
                  intro result after prompted
                  exact prompted.after talked given

/-- Restoring the terminal may fail a prompt, whose line is kept all the same. -/
theorem goes_leave {result : Data × Bool} {start : World}
    (prompted : Prompted text before earlier start result world) :
    Goes username final (leave result)
      (fun result after => Prompted text before earlier start result after) world := by
  unfold leave
  apply wp_seq
  apply goes_call
  intro restored after quiet
  have talked := prompted.toTalked.trans quiet.toTalked
  have given := quiet.given.trans prompted.given
  have ended := prompted.ended
  rw [← quiet.prompts] at ended
  exact ⟨talked, given, ended, fun done => prompted.success (Bool.and_eq_true_iff.mp done).1⟩

theorem goes_openTty {returned : Bool → World → Prop}
    (shut : ∀ after, Quiet world after → returned false after)
    (opened : ∀ after, Talked world after → after.given = world.given →
      after.prompts = ⟨text, []⟩ :: world.prompts → returned true after) :
    Goes username final (openTty text) returned world := by
  constructor
  · trivial
  · rintro ⟨works, signal⟩
    have quiet := quiet_signalled world signal
    cases works with
    | false => exact shut _ quiet
    | true =>
        apply opened
        · exact ⟨⟨rfl, rfl, rfl, rfl, rfl, rfl, quiet.sticky⟩, rfl⟩
        · rfl
        · rfl

/-- A prompt that was not opened leaves everything as it was. -/
theorem goes_readPassword (waits : Nat) (waited : ∀ world, final 255 world)
    (open' : data.acquired = false) :
    Goes username final (readPassword waits data text)
      (fun result after => (result = (data, false) ∧ Quiet world after) ∨
        Prompted text data.password world.prompts world result after) world := by
  unfold readPassword
  apply wp_seq
  apply goes_openTty
  · intro after quiet
    exact Or.inl ⟨rfl, quiet⟩
  · intro opened talked given prompts
    have typing : Typing text data.password world.prompts data opened [] :=
      ⟨prompts, (List.append_nil _).symm, open', plain_nil⟩
    apply wp_seq
    apply goes_call
    intro known first quiet
    have still := typing.quiet quiet
    apply wp_ite
    · intro _
      apply wp_seq
      apply goes_call
      intro hidden second again
      have later := still.quiet again
      have all := quiet.trans again
      apply wp_ite
      · intro _
        apply wp_seq
        apply goes_call
        intro shown third more
        have last := later.quiet more
        have whole := all.trans more
        apply wp_ite
        · intro _
          apply wp_seq
          apply wp_returned (goes_typeIn waits waited last)
          intro result after prompted
          apply wp_returned (goes_leave prompted)
          intro result after prompted
          exact Or.inr (prompted.after (talked.trans whole.toTalked) (whole.given.trans given))
        · intro _
          apply wp_returned (goes_leave (Prompted.failing last))
          intro result after prompted
          exact Or.inr (prompted.after (talked.trans whole.toTalked) (whole.given.trans given))
      · intro _
        exact Or.inr ((Prompted.failing later).after (talked.trans all.toTalked)
          (all.given.trans given))
    · intro _
      exact Or.inr ((Prompted.failing still).after (talked.trans quiet.toTalked)
        (quiet.given.trans given))

end Prompts

end Liuqin.Fingerprint.Input
