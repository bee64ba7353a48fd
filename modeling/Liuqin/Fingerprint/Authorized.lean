/-
What pam-input forwards, for every run.

PAM may call the conversation as often as it likes.  From one call to the next
the buffer holds what the prompts left in it, and PAM is given nothing but the
buffer of a prompt that was completed.
-/

import Liuqin.Fingerprint.Derived

namespace Liuqin.Fingerprint.Input

open Liuqin.Library Liuqin.Library.Program

/-! ### Between the calls of the conversation -/

/-- The buffer against the prompts and the answers so far. -/
inductive Held (data : Data) (world : World) : Prop where
  | failed (acquired : data.acquired = false) (prompts : Failed world.prompts data.password)
      (given : world.given = [])
  | completed (acquired : data.acquired = true) (prompts : Completed world.prompts data.password)
      (given : ∀ answer ∈ world.given, answer = data.password)

theorem Held.same {data : Data} {before after : World} (held : Held data before)
    (prompts : after.prompts = before.prompts) (given : after.given = before.given) :
    Held data after := by
  cases held with
  | failed acquired buffer nothing =>
      rw [← prompts] at buffer
      exact Held.failed acquired buffer (given.trans nothing)
  | completed acquired buffer answers =>
      rw [← prompts] at buffer
      rw [← given] at answers
      exact Held.completed acquired buffer answers

theorem Held.quiet {data : Data} {before after : World} (held : Held data before)
    (quiet : Quiet before after) : Held data after :=
  held.same quiet.prompts quiet.given

/-- What PAM is about to be given. -/
def Prepared (data : Data) (answers : List (Option Library.Bytes)) : Prop :=
  ∀ answer, some answer ∈ answers → data.acquired = true ∧ answer = data.password

theorem Prepared.snoc {data : Data} {answers : List (Option Library.Bytes)}
    {answer : Option Library.Bytes} (prepared : Prepared data answers)
    (fits : ∀ bytes, answer = some bytes → data.acquired = true ∧ bytes = data.password) :
    Prepared data (answers ++ [answer]) := by
  intro bytes member
  rcases List.mem_append.mp member with inside | last
  · exact prepared bytes inside
  · exact fits bytes (List.mem_singleton.mp last).symm

theorem Held.answered {data : Data} {world : World} {answers : List (Option Library.Bytes)}
    (held : Held data world) (prepared : Prepared data answers) :
    Held data { world with given := world.given ++ answers.filterMap id } := by
  have each : ∀ answer ∈ answers.filterMap id, data.acquired = true ∧ answer = data.password := by
    intro answer member
    obtain ⟨inside, present, same⟩ := List.mem_filterMap.mp member
    rw [show inside = some answer from same] at present
    exact prepared answer present
  cases held with
  | failed acquired prompts given =>
      refine Held.failed acquired prompts ?_
      show world.given ++ answers.filterMap id = []
      rw [given, List.nil_append, List.eq_nil_iff_forall_not_mem]
      intro answer member
      have done := (each answer member).1
      rw [acquired] at done
      cases done
  | completed acquired prompts given =>
      refine Held.completed acquired prompts ?_
      intro answer member
      rcases List.mem_append.mp member with earlier | now
      · exact given answer earlier
      · exact (each answer now).2

section Conversation

variable {username : String} {final : Nat → World → Prop} {waits : Nat} {data : Data}
  {world : World}

/-- After a hidden prompt was answered or not. -/
structure Obtained (data : Data) (start : World) (result : Data × Bool) (world : World) : Prop
    extends Talked start world where
  held : Held result.1 world
  success : result.2 = true → result.1.acquired = true
  kept : data.acquired = true → result.1 = data

theorem goes_obtain (waited : ∀ world, final 255 world) (held : Held data world) :
    Goes username final (obtain waits data) (Obtained data world) world := by
  unfold obtain
  cases held with
  | completed acquired prompts given =>
      rw [acquired, if_pos rfl]
      exact ⟨(Quiet.refl world).toTalked, Held.completed acquired prompts given,
        fun _ => acquired, fun _ => rfl⟩
  | failed acquired prompts given =>
      have fresh : ¬data.acquired = true := by
        rw [acquired]
        exact Bool.false_ne_true
      rw [if_neg fresh]
      apply wp_returned (goes_readPassword waits waited acquired)
      rintro result after (⟨same, quiet⟩ | prompted)
      · rw [same]
        have held := (Held.failed acquired prompts given).quiet quiet
        exact ⟨quiet.toTalked, held, fun done => absurd done Bool.false_ne_true, fun _ => rfl⟩
      · have nothing := prompted.given.trans given
        refine ⟨prompted.toTalked, ?_, prompted.success, fun done => absurd done fresh⟩
        rcases prompted.ended.held prompts with ⟨done, completed⟩ | ⟨open', failed⟩
        · apply Held.completed done completed
          rw [nothing]
          intro answer member
          cases member
        · exact Held.failed open' failed nothing

/-- By induction on the messages: what is about to be answered is the buffer of
the prompt that was completed. -/
theorem goes_answerAll (waited : ∀ world, final 255 world) (messages : List Style)
    {answers : List (Option Library.Bytes)} (held : Held data world)
    (prepared : Prepared data answers) :
    Goes username final (answerAll waits messages data answers)
      (fun later after => Talked world after ∧ Held later after) world := by
  induction messages generalizing data world answers with
  | nil =>
      constructor
      · trivial
      · intro fault
        have quiet := quiet_signalled world fault.signal
        constructor
        · exact ⟨⟨rfl, rfl, rfl, rfl, rfl, rfl, quiet.sticky⟩, rfl⟩
        · exact (held.quiet quiet).answered prepared
  | cons style rest ih =>
      cases style with
      | textInfo =>
          apply ih held
          apply prepared.snoc
          intro bytes same
          cases same
      | errorMsg =>
          apply ih held
          apply prepared.snoc
          intro bytes same
          cases same
      | other => exact ⟨(Quiet.refl world).toTalked, held⟩
      | echoOff =>
          apply wp_seq
          apply wp_returned (goes_obtain waited held)
          intro obtained first obtains
          apply wp_ite
          · intro success
            apply wp_seq
            apply goes_cancelled
            intro second quiet
            have talked := obtains.toTalked.trans quiet.toTalked
            apply wp_ite
            · intro _
              exact ⟨talked, obtains.held.quiet quiet⟩
            · intro _
              apply wp_seq
              apply goes_call
              intro copied third more
              have whole := talked.trans more.toTalked
              have later := (obtains.held.quiet quiet).quiet more
              apply wp_ite
              · intro _
                have extended : Prepared obtained.1 (answers ++ [some obtained.1.password]) := by
                  apply Prepared.snoc
                  · intro bytes member
                    obtain ⟨acquired, same⟩ := prepared bytes member
                    rw [obtains.kept acquired]
                    exact ⟨acquired, same⟩
                  · intro bytes same
                    cases same
                    exact ⟨obtains.success success, rfl⟩
                apply wp_returned (ih later extended)
                intro result after both
                exact ⟨whole.trans both.1, both.2⟩
              · intro _
                exact ⟨whole, later⟩
          · intro _
            exact ⟨obtains.toTalked, obtains.held⟩

theorem goes_converse (waited : ∀ world, final 255 world) (messages : List Style)
    (held : Held data world) :
    Goes username final (converse waits messages data)
      (fun later after => Talked world after ∧ Held later after) world := by
  unfold converse
  apply wp_seq
  apply goes_cancelled
  intro first quiet
  apply wp_ite
  · intro _
    exact ⟨quiet.toTalked, held.quiet quiet⟩
  · intro _
    apply wp_seq
    apply goes_call
    intro allocated second more
    have talked := (quiet.trans more).toTalked
    have later := (held.quiet quiet).quiet more
    apply wp_ite
    · intro _
      have nothing : Prepared data [] := fun answer member => by cases member
      apply wp_returned (goes_answerAll waited messages later nothing)
      intro result after both
      exact ⟨talked.trans both.1, both.2⟩
    · intro _
      exact ⟨talked, later⟩

/-- However often PAM calls. -/
theorem goes_conversations (waited : ∀ world, final 255 world) (calls : List (List Style))
    (held : Held data world) :
    Goes username final (conversations waits calls data)
      (fun later after => Talked world after ∧ Held later after) world := by
  induction calls generalizing data world with
  | nil => exact ⟨(Quiet.refl world).toTalked, held⟩
  | cons messages rest ih =>
      apply wp_seq
      apply wp_returned (goes_converse waited messages held)
      intro later first both
      apply wp_returned (ih both.2)
      intro last after again
      exact ⟨both.1.trans again.1, again.2⟩

end Conversation

/-! ### The account -/

/-- The account as it was looked up, the salt that was read, and nothing forwarded. -/
structure Looked (uid : Nat) (salt : Library.Bytes) (world : World) : Prop where
  expected : world.expected = some uid
  salt : world.salt = salt
  outputs : world.outputs = fun _ => []

theorem Looked.talked {uid : Nat} {salt : Library.Bytes} {before after : World}
    (looked : Looked uid salt before) (talked : Talked before after) : Looked uid salt after where
  expected := talked.expected.trans looked.expected
  salt := talked.salt.trans looked.salt
  outputs := talked.outputs.trans looked.outputs

theorem Admitted.frame {username : String} {before after : World}
    (admitted : Admitted username before) (frame : Frame before after) :
    Admitted username after where
  authenticated := frame.authenticated.trans admitted.authenticated
  admitted := frame.admitted.trans admitted.admitted
  user := frame.user.trans admitted.user
  uid := by
    obtain ⟨uid, expected, again⟩ := admitted.uid
    exact ⟨uid, frame.expected.trans expected, frame.uid.trans again⟩

section Helper

variable {username : String} {final : Nat → World → Prop} {world : World}

/-- An exit whose status is not 0 claims nothing. -/
def Lax (final : Nat → World → Prop) : Prop := ∀ status world, status ≠ 0 → final status world

theorem goes_must {worked : Bool} {status : Nat} {returned : Unit → World → Prop}
    (lax : Lax final) (fails : status ≠ 0) (holds : worked = true → returned () world) :
    Goes username final (must worked status) returned world := by
  apply wp_ite
  · exact holds
  · intro _
    exact lax status world fails

theorem goes_account {name : String} {returned : Option Nat → World → Prop}
    (next : ∀ uid signal, returned uid { world.signalled signal with expected := uid }) :
    Goes username final (account name) returned world := by
  constructor
  · trivial
  · intro fault
    exact next fault.answer fault.signal

theorem goes_readSalt {returned : Option Library.Bytes → World → Prop}
    (next : ∀ salt signal, returned salt { world.signalled signal with salt := salt.getD [] }) :
    Goes username final readSalt returned world := by
  constructor
  · trivial
  · intro fault
    exact next fault.answer fault.signal

/-- Before PAM nothing was prompted, given or forwarded. -/
structure Fresh (world : World) : Prop where
  prompts : world.prompts = []
  given : world.given = []
  outputs : world.outputs = fun _ => []

theorem Fresh.quiet {before after : World} (fresh : Fresh before) (quiet : Quiet before after) :
    Fresh after where
  prompts := quiet.prompts.trans fresh.prompts
  given := quiet.given.trans fresh.given
  outputs := quiet.outputs.trans fresh.outputs

theorem Fresh.held (fresh : Fresh world) : Held Data.empty world := by
  apply Held.failed rfl
  · rw [fresh.prompts]
    exact Failed.empty
  · exact fresh.given

theorem goes_prepare (lax : Lax final) (fresh : Fresh world) :
    Goes username final (prepare username)
      (fun prepared after => Looked prepared.1 prepared.2 after ∧ Fresh after) world := by
  unfold prepare
  apply wp_seq
  apply goes_call
  intro usable first quiet
  apply wp_seq
  apply goes_must lax (by decide)
  intro _
  apply wp_seq
  apply goes_account
  intro found signal
  have begun : Fresh { first.signalled signal with expected := found } := by
    have before := (fresh.quiet quiet).quiet (quiet_signalled first signal)
    exact ⟨before.prompts, before.given, before.outputs⟩
  apply wp_seq
  apply goes_call
  intro apart second more
  cases found with
  | none => exact lax 2 second (by decide)
  | some uid =>
      apply wp_ite
      · intro _
        exact lax 2 second (by decide)
      · intro _
        apply wp_seq
        apply goes_call
        intro locked third again
        apply wp_seq
        apply goes_must lax (by decide)
        intro _
        have still := more.trans again
        apply wp_seq
        apply goes_readSalt
        intro salt signal
        cases salt with
        | none => exact lax 1 _ (by decide)
        | some salt =>
            have salted : Fresh { third.signalled signal with salt := salt } := by
              have before := (begun.quiet still).quiet (quiet_signalled third signal)
              exact ⟨before.prompts, before.given, before.outputs⟩
            apply wp_seq
            apply goes_call
            intro started fourth last
            apply wp_seq
            apply goes_must lax (by decide)
            intro _
            have ready := salted.quiet last
            exact ⟨⟨last.expected.trans still.expected, last.salt, ready.outputs⟩, ready⟩

/-! ### PAM's decision -/

variable {waits uid : Nat} {salt : Library.Bytes}

theorem goes_authenticate {returned : Bool → World → Prop}
    (next : ∀ works signal,
      returned works { world.signalled signal with authenticated := works }) :
    Goes username final authenticate returned world := by
  constructor
  · trivial
  · intro fault
    exact next fault.answer fault.signal

theorem goes_acctMgmt {returned : Bool → World → Prop}
    (next : ∀ works signal, returned works { world.signalled signal with admitted := works }) :
    Goes username final acctMgmt returned world := by
  constructor
  · trivial
  · intro fault
    exact next fault.answer fault.signal

/-- PAM succeeded; a cancelled run may have left out the account. -/
structure Succeeded (uid : Nat) (salt : Library.Bytes) (data : Data) (world : World) : Prop where
  looked : Looked uid salt world
  held : Held data world
  authenticated : world.authenticated = true
  admitted : world.cancelled = true ∨ world.admitted = true

theorem goes_askPam (lax : Lax final) (authCalls acctCalls : List (List Style))
    (looked : Looked uid salt world) (held : Held Data.empty world) :
    Goes username final (askPam waits authCalls acctCalls)
      (fun admitted after => admitted.2 = true → Succeeded uid salt admitted.1 after) world := by
  have waited : ∀ world, final 255 world := fun world => lax 255 world (by decide)
  unfold askPam
  apply wp_seq
  apply wp_returned (goes_conversations waited authCalls held)
  intro data first talk
  have asked := looked.talked talk.1
  apply wp_seq
  apply goes_authenticate
  intro works signal
  apply wp_ite
  · intro authenticated
    apply wp_seq
    apply goes_cancelled
    intro second quiet
    have known : second.authenticated = true := quiet.authenticated.trans authenticated
    have buffer : Held data second :=
      (talk.2.quiet (quiet_signalled first signal)).same quiet.prompts quiet.given
    have ready : Looked uid salt second :=
      ⟨quiet.expected.trans asked.expected, quiet.salt.trans asked.salt,
        quiet.outputs.trans asked.outputs⟩
    apply wp_ite
    · intro stopped _
      exact ⟨ready, buffer, known, Or.inl stopped⟩
    · intro _
      apply wp_seq
      apply wp_returned (goes_conversations waited acctCalls buffer)
      intro later third again
      have looks := ready.talked again.1
      apply wp_seq
      apply goes_acctMgmt
      intro admitted signal success
      exact ⟨⟨looks.expected, looks.salt, looks.outputs⟩,
        again.2.same rfl rfl, again.1.authenticated.trans known, Or.inr success⟩
  · intro _ success
    cases success

theorem goes_getUser {returned : Option String → World → Prop}
    (next : ∀ user signal, returned user { world.signalled signal with user := user }) :
    Goes username final getUser returned world := by
  constructor
  · trivial
  · intro fault
    exact next fault.answer fault.signal

theorem goes_accountAgain {name : String} {returned : Option Nat → World → Prop}
    (next : ∀ uid signal, returned uid { world.signalled signal with uid := uid }) :
    Goes username final (accountAgain name) returned world := by
  constructor
  · trivial
  · intro fault
    exact next fault.answer fault.signal

/-- The account is checked, and its password is in the buffer. -/
structure Checked (username : String) (salt : Library.Bytes) (data : Data) (world : World) :
    Prop where
  admitted : Admitted username world
  salt : world.salt = salt
  outputs : world.outputs = fun _ => []
  completed : Completed world.prompts data.password
  given : ∀ answer ∈ world.given, answer = data.password

theorem goes_check (lax : Lax final) {admitted : Data × Bool}
    (succeeded : admitted.2 = true → Succeeded uid salt admitted.1 world) :
    Goes username final (check username uid admitted)
      (fun _ after => Checked username salt admitted.1 after) world := by
  unfold check
  apply wp_seq
  apply goes_must lax (by decide)
  intro success
  have sound := succeeded success
  apply wp_seq
  apply goes_getUser
  intro user signal
  apply wp_seq
  apply goes_cancelled
  intro first quiet
  apply wp_ite
  · rintro ⟨running, acquired, named⟩
    apply wp_seq
    apply goes_accountAgain
    intro again late
    apply wp_ite
    · intro unchanged
      have accepted : first.admitted = true := by
        rcases sound.admitted with stopped | admitted
        · have signalled : first.cancelled = true := by
            apply quiet.sticky
            show (world.cancelled || signal) = true
            rw [stopped]
            rfl
          rw [running] at signalled
          cases signalled
        · exact quiet.admitted.trans admitted
      have held : Held admitted.1 first := sound.held.same quiet.prompts quiet.given
      cases held with
      | failed open' =>
          rw [acquired] at open'
          cases open'
      | completed _ prompts given =>
          constructor
          · constructor
            · exact quiet.authenticated.trans sound.authenticated
            · exact accepted
            · exact quiet.user.trans named
            · exact ⟨uid, quiet.expected.trans sound.looked.expected, unchanged⟩
          · exact quiet.salt.trans sound.looked.salt
          · exact quiet.outputs.trans sound.looked.outputs
          · exact prompts
          · exact given
    · intro _
      exact lax 1 _ (by decide)
  · intro _
    exact lax 1 _ (by decide)

/-! ### The descriptors -/

variable {fd : Fd} {bytes : Library.Bytes}

theorem Written.quiet {before middle after : World} (written : Written fd bytes middle after)
    (quiet : Quiet before middle) : Written fd bytes before after where
  toFrame := quiet.toFrame.trans written.toFrame
  given := written.given.trans quiet.given
  prompts := written.prompts.trans quiet.prompts
  outputs := by
    rw [written.outputs, quiet.outputs]

theorem Written.still {before middle after : World} (written : Written fd bytes before middle)
    (quiet : Quiet middle after) : Written fd bytes before after where
  toFrame := written.toFrame.trans quiet.toFrame
  given := quiet.given.trans written.given
  prompts := quiet.prompts.trans written.prompts
  outputs := quiet.outputs.trans written.outputs

theorem Written.trans {first second third : World} {front back : Library.Bytes}
    (early : Written fd front first second) (late : Written fd back second third) :
    Written fd (front ++ back) first third where
  toFrame := early.toFrame.trans late.toFrame
  given := late.given.trans early.given
  prompts := late.prompts.trans early.prompts
  outputs := by
    rw [late.outputs, early.outputs, Function.update_idem, Function.update_self,
      List.append_assoc]

theorem written_nothing (world : World) : Written fd [] world world where
  toFrame := (Quiet.refl world).toFrame
  given := rfl
  prompts := rfl
  outputs := by
    rw [List.append_nil, Function.update_eq_self]

theorem goes_write {returned : Wrote → World → Prop} (admitted : Admitted username world)
    (other : ∀ after, Quiet world after → returned .interrupted after ∧ returned .other after)
    (count : ∀ sent after, Written fd (bytes.take sent) world after →
      returned (.count sent) after) :
    Goes username final (write fd bytes) returned world := by
  constructor
  · exact admitted
  · rintro ⟨wrote, signal⟩
    have quiet := quiet_signalled world signal
    cases wrote with
    | interrupted => exact (other _ quiet).1
    | other => exact (other _ quiet).2
    | count sent =>
        apply count
        have same : bytes.take (min sent bytes.length) = bytes.take sent := by
          rw [List.take_eq_take_iff]
          omega
        rw [same]
        exact ⟨⟨rfl, rfl, rfl, rfl, rfl, rfl, quiet.sticky⟩, rfl, rfl, rfl⟩

/-- By induction on the writes that are left: what was sent and what is still to
be sent are the whole input. -/
theorem goes_forward (lax : Lax final) (admitted : Admitted username world) :
    Goes username final (forward fd waits bytes) (fun _ after => Written fd bytes world after)
      world := by
  induction waits generalizing bytes world with
  | zero => exact lax 255 world (by decide)
  | succ waits ih =>
      apply wp_ite
      · intro nothing
        rw [nothing]
        exact written_nothing world
      · intro _
        apply wp_seq
        apply goes_cancelled
        intro first quiet
        have still := admitted.frame quiet.toFrame
        apply wp_ite
        · intro _
          exact lax 1 first (by decide)
        · intro _
          apply wp_seq
          apply goes_write still
          · intro second more
            constructor
            · apply wp_seq
              apply goes_cancelled
              intro third again
              apply wp_ite
              · intro _
                exact lax 1 third (by decide)
              · intro _
                have all := (quiet.trans more).trans again
                apply wp_returned (ih (admitted.frame all.toFrame))
                intro _ after written
                exact written.quiet all
            · apply wp_seq
              apply goes_cancelled
              intro third _
              exact lax 1 third (by decide)
          · intro sent second part
            apply wp_seq
            apply goes_cancelled
            intro third again
            cases sent with
            | zero => exact lax 1 third (by decide)
            | succ more =>
                apply wp_ite
                · intro _
                  exact lax 1 third (by decide)
                · intro _
                  have front := (part.quiet quiet).still again
                  apply wp_returned (ih (admitted.frame front.toFrame))
                  intro _ after written
                  have whole := front.trans written
                  rwa [List.take_append_drop] at whole

/-! ### What is forwarded -/

variable {kdf : Kdf} {data : Data}

theorem goes_derive (lax : Lax final) :
    Goes username final (derive kdf data salt)
      (fun derived after => Quiet world after ∧ derived = kdf.derive data.password salt) world := by
  unfold derive
  apply wp_seq
  apply goes_call
  intro derived after quiet
  apply wp_ite
  · intro _
    exact ⟨quiet, rfl⟩
  · intro _
    exact lax 1 after (by decide)

/-- The second prompt, whose line is whole since its buffer began empty. -/
structure Second (kdf : Kdf) (salted : Library.Bytes) (before : World)
    (derived : Library.Bytes) (after : World) : Prop extends Talked before after where
  given : after.given = before.given
  line : ∃ prompt line, after.prompts = prompt :: before.prompts ∧ prompt.text = previousPrompt ∧
    prompt.read = line ++ [10] ∧ derived = kdf.derive line salted

theorem goes_derivePrevious (lax : Lax final) :
    Goes username final (derivePrevious kdf waits salt) (Second kdf salt world) world := by
  have waited : ∀ world, final 255 world := fun world => lax 255 world (by decide)
  unfold derivePrevious
  apply wp_seq
  apply wp_returned (goes_readPassword waits waited rfl)
  intro read first ended
  apply wp_ite
  · intro success
    rcases ended with ⟨same, _⟩ | prompted
    · rw [same] at success
      cases success
    · have acquired := prompted.success success
      obtain ⟨prompt, typed, prompts, named, buffer, _, whole | part⟩ := prompted.ended.parts
      · apply wp_seq
        apply goes_cancelled
        intro second quiet
        apply wp_ite
        · intro _
          exact lax 1 second (by decide)
        · intro _
          apply wp_returned (goes_derive lax)
          rintro derived third ⟨more, same⟩
          have all := quiet.trans more
          rw [buffer] at same
          exact ⟨prompted.toTalked.trans all.toTalked, all.given.trans prompted.given, prompt,
            typed, all.prompts.trans prompts, named, whole.2.1, same⟩
      · rw [part.1] at acquired
        cases acquired
  · intro _
    exact lax 1 first (by decide)

theorem Completed.asked {prompts : List Prompt} {password : Library.Bytes}
    (completed : Completed prompts password) :
    prompts.filter (fun prompt => prompt.text = accountPrompt) = prompts := by
  obtain ⟨last, earlier, before, typed, same, named, _, _, _, failed⟩ := completed.parts
  rw [same, List.filter_eq_self]
  intro prompt member
  rcases List.mem_cons.mp member with first | rest
  · rw [first]
    exact decide_eq_true named
  · exact decide_eq_true (failed.named prompt rest)

/-- The last line is the whole password exactly when nothing was in the buffer
before it; an earlier prompt has no whole line at all. -/
theorem correct_iff {sync : Bool} {password : Library.Bytes}
    (completed : Completed (asked world) password) (given : ∀ answer ∈ world.given, answer = password)
    (output : world.outputs .output = kdf.derive password world.salt)
    (current : sync = true → ∃ prompt ∈ world.prompts, prompt.text = previousPrompt ∧
      ∃ line, prompt.read = line ++ [10] ∧
        world.outputs .current = kdf.derive line world.salt) :
    Correct kdf sync world ↔ Unmixed world := by
  obtain ⟨last, earlier, before, typed, same, _, buffer, read, _, failed⟩ := completed.parts
  unfold Unmixed
  rw [same, List.tail_cons, failed.blank]
  constructor
  · rintro ⟨answer, some, all, ⟨prompt, member, whole⟩, _⟩
    obtain ⟨first, present⟩ := List.exists_mem_of_ne_nil _ some
    have equal : answer = password := (all first present).symm.trans (given first present)
    refine ⟨some, ?_⟩
    rw [same] at member
    rw [equal] at whole
    rcases List.mem_cons.mp member with here | there
    · rw [here, read] at whole
      have alone := (snoc_inj whole).1
      rw [buffer] at alone
      have lengths := congrArg List.length alone
      rw [List.length_append] at lengths
      apply List.eq_nil_of_length_eq_zero
      omega
    · exact absurd (failed.lines prompt there password whole) completed.some
  · rintro ⟨some, nothing⟩
    rw [nothing, List.nil_append] at buffer
    rw [← buffer] at read
    exact ⟨password, some, given, ⟨last, by rw [same]; exact List.mem_cons_self, read⟩, output,
      current⟩

/-- What an exit with status 0 says. -/
def Final (kdf : Kdf) (sync : Bool) (status : Nat) (world : World) : Prop :=
  status = 0 → (Correct kdf sync world ↔ Unmixed world)

theorem final_lax (kdf : Kdf) (sync : Bool) : Lax (Final kdf sync) :=
  fun _ _ fails zero => absurd zero fails

theorem goes_publish {sync : Bool} (checked : Checked username salt data world) :
    Goes username (Final kdf sync) (publish kdf waits sync data salt) (fun _ _ => True) world := by
  have lax := final_lax kdf sync
  unfold publish
  apply wp_seq
  apply wp_returned (goes_derive lax)
  rintro desired first ⟨quiet, derived⟩
  apply wp_seq
  apply goes_cancelled
  intro second more
  have still := quiet.trans more
  have empty := still.outputs.trans checked.outputs
  apply wp_ite
  · intro _
    exact lax 1 second (by decide)
  · intro _
    apply wp_ite
    · intro _
      apply wp_seq
      apply wp_returned (goes_derivePrevious lax)
      intro previous third ask
      obtain ⟨prompt, line, prompts, named, read, hashed⟩ := ask.line
      have admitted := (checked.admitted.frame still.toFrame).frame ask.toFrame
      apply wp_seq
      apply wp_returned (goes_forward lax admitted)
      intro _ fourth forwarded
      apply wp_seq
      apply wp_returned (goes_forward lax (admitted.frame forwarded.toFrame))
      intro _ last sent _
      have history : last.prompts = prompt :: world.prompts := by
        rw [sent.prompts, forwarded.prompts, prompts, still.prompts]
      have salted : last.salt = salt := by
        rw [sent.salt, forwarded.salt, ask.salt, still.salt, checked.salt]
      have nothing : third.outputs = fun _ => [] := ask.outputs.trans empty
      have account : asked last = world.prompts := by
        unfold asked
        rw [history, List.filter_cons_of_neg]
        · exact checked.completed.asked
        · rw [named]
          decide
      have completed : Completed (asked last) data.password := by
        rw [account]
        exact checked.completed
      apply correct_iff completed
      · rw [sent.given, forwarded.given, ask.given, still.given]
        exact checked.given
      · rw [sent.outputs, forwarded.outputs, nothing, salted, ← derived]
        rfl
      · intro _
        refine ⟨prompt, by rw [history]; exact List.mem_cons_self, named, line, read, ?_⟩
        rw [sent.outputs, forwarded.outputs, nothing, salted, ← hashed]
        rfl
    · intro alone
      apply wp_seq
      apply wp_returned (goes_forward lax (checked.admitted.frame still.toFrame))
      intro _ last sent _
      have history : last.prompts = world.prompts := sent.prompts.trans still.prompts
      have completed : Completed (asked last) data.password := by
        unfold asked
        rw [history, checked.completed.asked]
        exact checked.completed
      apply correct_iff completed
      · rw [sent.given, still.given]
        exact checked.given
      · rw [sent.outputs, empty, sent.salt, still.salt, checked.salt, ← derived]
        rfl
      · intro sync
        exact absurd sync alone

theorem goes_main {sync : Bool} (authCalls acctCalls : List (List Style)) (fresh : Fresh world) :
    Goes username (Final kdf sync) (main kdf waits authCalls acctCalls sync username)
      (fun _ _ => True) world := by
  have lax := final_lax kdf sync
  unfold main
  apply wp_seq
  apply wp_returned (goes_prepare lax fresh)
  rintro ⟨uid, salt⟩ first ⟨looked, begun⟩
  apply wp_seq
  apply wp_returned (goes_askPam lax authCalls acctCalls looked begun.held)
  intro admitted second succeeded
  apply wp_seq
  apply wp_returned (goes_check lax succeeded)
  intro _ third checked
  exact goes_publish checked

end Helper

/-! ### Every run -/

def secret : Library.Bytes := [115, 101, 99, 114, 101, 116]
def publicSalt : Library.Bytes := List.replicate inputSize 0x5a

/-- PBKDF2-HMAC-SHA256 of the secret with the salt after 600000 iterations. -/
def secretInput : Library.Bytes :=
  [254, 129, 244, 61, 251, 29, 162, 39, 152, 97, 55, 217, 14, 122, 159, 78,
    253, 107, 10, 143, 29, 111, 154, 105, 244, 122, 166, 65, 108, 57, 22, 224]

def tabulated : Kdf where
  derive := fun password salt =>
    if password = secret ∧ salt = publicSalt then secretInput else List.replicate inputSize 0
  size := by
    intro password salt
    split
    · rfl
    · rfl

/-- Before the prompt runs out of time `typed` is typed, and at a later prompt
the line.  Every call works. -/
def typist (typed line : Library.Bytes) : Nat → (operation : Op) → World → machine.Fault operation
  | _, .cancelled, _ => ⟨true, false⟩
  | _, .call _, _ => ⟨true, false⟩
  | _, .account _, _ => ⟨some 1000, false⟩
  | _, .readSalt, _ => ⟨some publicSalt, false⟩
  | _, .openTty _, _ => ⟨true, false⟩
  | _, .poll, world =>
      match world.prompts with
      | [prompt] => ⟨if prompt.read = typed then .other else .ready, false⟩
      | _ => ⟨.ready, false⟩
  | _, .readByte, world =>
      match world.prompts with
      | [] => ⟨.other, false⟩
      | [prompt] => ⟨.byte (typed.getD prompt.read.length 10), false⟩
      | prompt :: _ => ⟨.byte (line.getD prompt.read.length 10), false⟩
  | _, .respond _, _ => ⟨(), false⟩
  | _, .authenticate, _ => ⟨true, false⟩
  | _, .acctMgmt, _ => ⟨true, false⟩
  | _, .getUser, _ => ⟨some "user", false⟩
  | _, .accountAgain _, _ => ⟨some 1000, false⟩
  | _, .write _ bytes, _ => ⟨.count bytes.length, false⟩

/-- The prompts of an authentication whose first conversation fails. -/
def twice : Script Unit := main tabulated 10 [[.echoOff], [.echoOff]] [] false "user"

def ends (typed line : Library.Bytes) : Script Unit × World :=
  play machine (typist typed line) 80 (twice, World.start)

end Liuqin.Fingerprint.Input
