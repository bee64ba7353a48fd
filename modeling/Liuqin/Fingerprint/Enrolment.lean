/-
The order of one enrolment.

Each command of a run is permitted or not by the log of the commands before it.
A sample is submitted right after a good capture, the end of the enrolment only
after a renewed authorization, and the output file is created only after the
application has ended the enrolment.
-/

import Liuqin.Fingerprint.Export

namespace Liuqin.Fingerprint

open Liuqin.Library.Program
open scoped List

def captureCode : Nat × Nat := (10, 4)
def enrolCode : Nat × Nat := (11, 2)
def endEnrolCode : Nat × Nat := (11, 3)
def challengeCode : Nat × Nat := (3, 2)
def hatCode : Nat × Nat := (3, 3)

/-! ### The rules of the order -/

/-- A challenge of the session, and after it an accepted token that carries it. -/
def Renewed (session : Nat) (log : List Invocation) : Prop :=
  ∃ challenge token, [token, challenge] <+ log ∧ Succeeded session challengeCode challenge ∧
    Succeeded session hatCode token ∧
    Carries token.request.at16 (bytesAt challenge.payload 8 8)

/-- The same after a sample that was answered with status 0. -/
def Authorized (session : Nat) (log : List Invocation) : Prop :=
  ∃ sample challenge token, [token, challenge, sample] <+ log ∧
    Succeeded session enrolCode sample ∧ Succeeded session challengeCode challenge ∧
    Succeeded session hatCode token ∧
    Carries token.request.at16 (bytesAt challenge.payload 8 8)

/-- An inventory that reported exactly one template. -/
def SingleTemplate (session : Nat) (past : Invocation) : Prop :=
  Succeeded session enumerateCode past ∧ wordAt past.payload 0 = 11 ∧ wordAt past.payload 1 = 8 ∧
    wordAt past.payload 2 = 1

/-- The enrolment has ended, and a fresh database was counted after that. -/
def Ended (session : Nat) (existing : Bool) (log : List Invocation) : Prop :=
  ∃ ended, Succeeded session endEnrolCode ended ∧
    if existing then ended ∈ log
    else ∃ counted, SingleTemplate session counted ∧ [counted, ended] <+ log

def captures (log : List Invocation) : Nat :=
  log.countP fun past => past.request.code = captureCode

/-- What the log has to show before a TEE command is sent. -/
structure Due (session : Nat) (request : Request) (log : List Invocation) : Prop where
  capture : request.code = captureCode → captures log < 40
  sample : request.code = enrolCode → ∃ captured older, log = captured :: older ∧
    Succeeded session captureCode captured
  ending : request.code = endEnrolCode →
    (∀ past ∈ log, past.request.code ≠ endEnrolCode) ∧ Authorized session log

/-- What a command needs before it is performed. -/
def Permitted (existing : Bool) : ClientOp → Client → Prop
  | .invoke session request, client => Due session request client.log
  | .createOutput, client => ∃ session, Ended session existing client.log
  | .unlinkOutput, client => ∃ bytes, Own bytes client
  | _, _ => True

theorem permitted_silent (existing : Bool) :
    ∀ operation : ClientOp, operation.Silent → ∀ after, Permitted existing operation after := by
  intro operation silent after
  cases operation with
  | invoke session request => exact silent.elim
  | createOutput => exact silent.elim
  | unlinkOutput => exact silent.elim
  | _ => trivial

/-- The codes that the order says something about. -/
def Ordered (code : Nat × Nat) : Prop := code = captureCode ∨ code = enrolCode ∨ code = endEnrolCode

instance (code : Nat × Nat) : Decidable (Ordered code) :=
  inferInstanceAs (Decidable (_ ∨ _ ∨ _))

theorem due_of_free {session : Nat} {request : Request} {log : List Invocation}
    (free : ¬Ordered request.code) : Due session request log :=
  { capture := fun code => absurd (Or.inl code) free
    sample := fun code => absurd (Or.inr (Or.inl code)) free
    ending := fun code => absurd (Or.inr (Or.inr code)) free }

theorem permitted_sends {existing : Bool} {operation : ClientOp} {allowed : Nat × Nat → Prop}
    (free : ∀ code, allowed code → ¬Ordered code) (sends : operation.Sends allowed)
    (client : Client) : Permitted existing operation client := by
  rcases sends.cases with silent | ⟨session, request, rfl, code⟩
  · exact permitted_silent existing operation silent client
  · exact due_of_free (free _ code)

/-! ### Evidence stays -/

section Evidence

variable {session : Nat} {log added : List Invocation}

theorem captures_append : captures (added ++ log) = captures added + captures log :=
  List.countP_append

theorem captures_eq_zero (none : ∀ past ∈ log, past.request.code ≠ captureCode) :
    captures log = 0 := by
  rw [captures, List.countP_eq_zero]
  intro past member
  simp only [none past member, decide_false, Bool.false_eq_true, not_false_eq_true]

theorem Renewed.authorized {sample : Invocation} (renewed : Renewed session added)
    (good : Succeeded session enrolCode sample) (member : sample ∈ log) :
    Authorized session (added ++ log) := by
  obtain ⟨challenge, token, order, asked, accepted, carries⟩ := renewed
  have sampled : [sample] <+ log := List.singleton_sublist.mpr member
  exact ⟨sample, challenge, token, order.append sampled, good, asked, accepted, carries⟩

theorem Ended.append {existing : Bool} (ended : Ended session existing log) :
    Ended session existing (added ++ log) := by
  obtain ⟨past, done, shown⟩ := ended
  refine ⟨past, done, ?_⟩
  cases existing with
  | true => exact List.mem_append_right added shown
  | false =>
      obtain ⟨counted, single, order⟩ := shown
      exact ⟨counted, single, order.trans (List.sublist_append_right added log)⟩

end Evidence

/-! ### Authorization and inventory -/

section Steps

variable {existing : Bool} {exited : Nat → Client → Prop} {client : Client} {session : Nat}

theorem wp_free {α : Type} {script : ClientScript α} {allowed : Nat × Nat → Prop}
    {returned : α → Client → Prop} (sends : Sends allowed script)
    (free : ∀ code, allowed code → ¬Ordered code)
    (leaving : ∀ status after, Later allowed client after → exited status after)
    (returning : ∀ value after, Later allowed client after → returned value after) :
    wp clientMachine (Permitted existing) exited script returned client :=
  wp_sends sends (fun _ sending state _ => permitted_sends free sending state) leaving returning

theorem wp_invokeFree {request : Request} {returned : Int × Memory → Client → Prop}
    (free : ¬Ordered request.code)
    (next : ∀ status payload after,
      Grown client after [{ session := session, request := request, status := status
                            payload := payload }] → returned (status, payload) after) :
    wp clientMachine (Permitted existing) exited (invokePayload session request) returned client :=
  wp_invokePayload (permitted_silent existing) (due_of_free free) next

def authorizing (code : Nat × Nat) : Prop := code = challengeCode ∨ code = hatCode

theorem wp_getEnrolChallenge {returned : Option Bytes → Client → Prop}
    (failed : ∀ after, Later authorizing client after → returned none after)
    (next : ∀ past after, Grown client after [past] → Succeeded session challengeCode past →
      returned (some (bytesAt past.payload 8 8)) after) :
    wp clientMachine (Permitted existing) exited (getEnrolChallenge session) returned client := by
  have calm := permitted_silent existing
  refine wp_seq (wp_allocateShared calm _ fun works first allocated => wp_ite (fun _ => ?_)
    fun _ => wp_seq (wp_fprintf calm (fun last printed => ?_) _))
  · refine wp_seq (wp_invokeFree (by decide) fun status payload second grown => ?_)
    have asked := allocated.trans grown
    have came : Later authorizing client second := asked.later_one (Or.inl rfl)
    refine wp_ite (fun _ => failed second came) fun good => wp_ite (fun _ => ?_) fun _ => ?_
    · exact wp_seq (wp_fprintf calm (fun last printed => failed last (came.trans printed.later)) _)
    · refine wp_seq (wp_printf calm (fun last printed => ?_) _)
      exact next _ last (asked.trans printed) ⟨rfl, rfl, not_not.mp good⟩
  · exact failed last (allocated.trans printed).later

theorem wp_authorizeEnrol {connected : Bool} {challenge : Bytes} {returned : Int → Client → Prop}
    (failed : ∀ after, Later authorizing client after → returned (-1) after)
    (next : ∀ past after, Grown client after [past] → Succeeded session hatCode past →
      Carries past.request.at16 challenge → returned 0 after) :
    wp clientMachine (Permitted existing) exited (authorizeEnrol session connected challenge)
      returned client := by
  have calm := permitted_silent existing
  rw [authorizeEnrol, returning, wp_onExit]
  refine wp_seq (wp_silently (Prog.only_ite (silent_writeChallenge _ trivial) trivial) calm
    (fun _ after grown => failed after grown.later) fun _ first grown => ?_)
  refine wp_seq (wp_printf calm (fun second printed => ?_) _)
  have written := grown.trans printed
  refine wp_seq (wp_silently (silent_readHat _ trivial) calm
    (fun _ after grown => failed after (written.trans grown).later) fun hat third grown => ?_)
  have received := written.trans grown
  refine wp_ite (fun _ => wp_seq (wp_fprintf calm (fun last printed => ?_) _)) fun carries => ?_
  · exact failed last (received.trans printed).later
  · refine wp_seq (wp_allocateShared calm _ fun works fourth allocated => ?_)
    have ready := received.trans allocated
    refine wp_seq (wp_ite (fun _ => ?_) fun _ => failed fourth ready.later)
    have free : ¬Ordered hatCode := by decide
    refine wp_seq (wp_invokeFree free fun status payload fifth grown => ?_)
    have submitted := ready.trans grown
    refine wp_ite (fun _ => wp_seq (wp_fprintf calm (fun last printed => ?_) _)) fun good => ?_
    · exact failed last (Later.trans (submitted.later_one (Or.inr rfl)) printed.later)
    · refine wp_seq (wp_printf calm (fun last printed => ?_) _)
      exact next _ last (submitted.trans printed) ⟨rfl, rfl, not_not.mp good⟩ (not_not.mp carries)

/-- A result of zero is backed by the log. -/
theorem wp_authorize {connected : Bool} {returned : Int → Client → Prop}
    (next : ∀ result added after, Grown client after added →
      (∀ past ∈ added, authorizing past.request.code) →
      (result = 0 → Renewed session added) → returned result after) :
    wp clientMachine (Permitted existing) exited (authorize session connected) returned client := by
  have failed : ∀ after, Later authorizing client after → returned (-1) after := by
    rintro after ⟨added, grown, codes⟩
    exact next (-1) added after grown codes fun impossible => by cases impossible
  refine wp_seq (wp_getEnrolChallenge failed fun challenge first asked given => ?_)
  refine wp_authorizeEnrol (fun after later => failed after ((asked.later_one ?_).trans later))
    fun token last submitted accepted carries => ?_
  · exact Or.inl given.code
  · refine next 0 [token, challenge] last (asked.trans submitted) (fun past member => ?_) fun _ => ?_
    · rcases List.mem_cons.mp member with rfl | member
      · exact Or.inr accepted.code
      · rw [List.mem_singleton.mp member]
        exact Or.inl given.code
    · exact ⟨challenge, token, List.Sublist.refl _, given, accepted, carries⟩

/-! ### Samples -/

/-- While samples are taken, with this many attempts left. -/
structure Sampling (left : Nat) (client : Client) : Prop where
  captured : captures client.log + left ≤ 40
  unfinished : ∀ past ∈ client.log, past.request.code ≠ endEnrolCode
  unexported : exported client.log = []

/-- Codes that no rule is about and that export nothing. -/
def Idle (code : Nat × Nat) : Prop := ¬Ordered code ∧ code ≠ chunkCode

instance (code : Nat × Nat) : Decidable (Idle code) := inferInstanceAs (Decidable (_ ∧ _))

theorem Sampling.append {left fewer : Nat} {before after : Client} {added : List Invocation}
    (sampling : Sampling left before) (log : after.log = added ++ before.log)
    (count : captures added + fewer ≤ left)
    (codes : ∀ past ∈ added, past.request.code ≠ endEnrolCode ∧ past.request.code ≠ chunkCode) :
    Sampling fewer after := by
  constructor
  · have room := sampling.captured
    rw [log, captures_append]
    omega
  · rw [log]
    intro past member
    rcases List.mem_append.mp member with new | old
    · exact (codes past new).1
    · exact sampling.unfinished past old
  · rw [log, exported_append, sampling.unexported, List.nil_append]
    exact exported_eq_nil fun past member => (codes past member).2

theorem Sampling.later {left : Nat} {before after : Client} {allowed : Nat × Nat → Prop}
    (sampling : Sampling left before) (later : Later allowed before after)
    (idle : ∀ code, allowed code → Idle code) : Sampling left after := by
  obtain ⟨added, grown, codes⟩ := later
  have quiet : ∀ past ∈ added, Idle past.request.code := fun past member =>
    idle _ (codes past member)
  have none := captures_eq_zero fun past member code => (quiet past member).1 (Or.inl code)
  refine sampling.append grown.log (by omega) fun past member => ⟨fun code => ?_, ?_⟩
  · exact (quiet past member).1 (Or.inr (Or.inr code))
  · exact (quiet past member).2

/-- One more command: a capture takes an attempt, a sample does not. -/
theorem Sampling.grown {left fewer : Nat} {before after : Client} {past : Invocation}
    (sampling : Sampling left before) (grown : Grown before after [past])
    (room : (past.request.code = captureCode ∧ fewer < left) ∨
      (past.request.code = enrolCode ∧ fewer ≤ left)) : Sampling fewer after := by
  have count : captures [past] + fewer ≤ left := by
    rcases room with ⟨_, below⟩ | ⟨code, below⟩
    · have one : captures [past] ≤ 1 := List.countP_le_length
      omega
    · have none : captures [past] = 0 := captures_eq_zero fun other member => by
        rw [List.mem_singleton.mp member, code]
        decide
      omega
  refine sampling.append grown.log count fun other member => ?_
  rw [List.mem_singleton.mp member]
  rcases room with ⟨code, _⟩ | ⟨code, _⟩ <;> rw [code] <;> decide

theorem wp_storeEnrolled {returned : Int → Client → Prop}
    (next : ∀ result after, (result = 0 → Exported after) → returned result after)
    (empty : exported client.log = []) (counted : Ended session existing client.log) :
    wp clientMachine (Permitted existing) exited
      ((storeDatabase session).bind fun stored => .done (if stored = 0 then 0 else 1)) returned
      client := by
  refine wp_seq (wp_storeDatabase (permitted_silent existing) (fun _ _ => trivial)
    (fun request store after => ?_) empty (fun after later => ?_) (fun _ => trivial)
    (fun bytes after own => ⟨bytes, own⟩) fun result after _ exported => ?_)
  · refine due_of_free fun ordered => ?_
    have module : request.code.1 = 4 := store
    rcases ordered with code | code | code <;> rw [code] at module <;> cases module
  · obtain ⟨added, log, _⟩ := later
    exact ⟨session, by rw [log]; exact counted.append⟩
  · refine next _ after fun zero => exported ?_
    split at zero
    · assumption
    · cases zero

theorem counting_free {code : Nat × Nat} (counts : counting code) : ¬Ordered code := by
  rcases counts with rfl | rfl <;> decide

section Enrol

variable {returned : Int → Client → Prop} (leaving : ∀ status after, exited status after)
  (next : ∀ result after, (result = 0 → Exported after) → returned result after)

include leaving

/-- What the log shows once the enrolment may be exported. -/
theorem wp_requireSingleTemplate {ended : Invocation} {returned : Unit → Client → Prop}
    (done : Succeeded session endEnrolCode ended) (member : ended ∈ client.log)
    (next : ∀ after, Later counting client after → Ended session false after.log →
      returned () after) :
    wp clientMachine (Permitted existing) exited (requireSingleTemplate session) returned client := by
  refine wp_seq (wp_templateInventory (permitted_silent existing)
    (fun request after code => due_of_free (counting_free code)) (fun first later => ?_)
    fun past added count first grown codes inAdded good zero one two => ?_)
  · refine wp_ite (fun _ => ?_) fun single => absurd (by decide) single
    exact wp_seq (wp_fprintf (permitted_silent existing) (fun last _ => leaving _ last) _)
  · refine wp_ite (fun _ => ?_) fun single => ?_
    · exact wp_seq (wp_fprintf (permitted_silent existing) (fun last _ => leaving _ last) _)
    · have exactly : count = 1 := Option.some.inj (not_not.mp single)
      rw [exactly] at two
      refine next first ⟨added, grown, codes⟩ ⟨ended, done, past, ⟨good, zero, one, two⟩, ?_⟩
      rw [grown.log]
      exact (List.singleton_sublist.mpr inAdded).append (List.singleton_sublist.mpr member)

include next

theorem wp_finishEnrol {left : Nat} {sample : Invocation} (sampling : Sampling left client)
    (good : Succeeded session enrolCode sample) (member : sample ∈ client.log) :
    wp clientMachine (Permitted existing) exited (finishEnrol session existing) returned client := by
  have calm := permitted_silent existing
  refine wp_seq (wp_printf calm (fun first printed => ?_) _)
  refine wp_seq (wp_authorize fun result added second grown codes renewed => ?_)
  have came := printed.trans grown
  rw [List.append_nil] at came
  refine wp_ite (fun _ => wp_seq (wp_fprintf calm (fun last _ => leaving _ last) _)) fun zero => ?_
  have idle : ∀ code, authorizing code → Idle code := by
    rintro code (rfl | rfl) <;> decide
  have later : Later authorizing client second := ⟨added, came, codes⟩
  have still := sampling.later later idle
  have authorized : Authorized session second.log := by
    rw [came.log]
    exact (renewed (not_not.mp zero)).authorized good member
  refine wp_seq (wp_query calm (fun after grown => ?_) (fun after unsent => ?_)
    fun status payload third ended => ?_)
  · refine ⟨fun code => absurd code (by decide), fun code => absurd code (by decide), fun _ => ?_⟩
    rw [grown.log]
    exact ⟨still.unfinished, authorized⟩
  · exact wp_seq (wp_ite (fun impossible => absurd impossible (by decide))
      fun _ => leaving _ after)
  · refine wp_seq (wp_ite (fun zero => ?_) fun _ => leaving _ third)
    have empty : exported third.log = [] := by
      rw [ended.log, exported_append, still.unexported]
      rfl
    obtain ⟨finish, member, done⟩ : ∃ finish ∈ third.log,
        Succeeded session endEnrolCode finish :=
      ⟨_, ended.log ▸ List.mem_append_left _ List.mem_cons_self, rfl, rfl, zero⟩
    refine wp_seq (wp_runIf (fun fresh => ?_) fun old => ?_)
    · refine wp_requireSingleTemplate leaving done member fun fourth later counted => ?_
      have still : exported fourth.log = [] := by
        have apart : ¬counting chunkCode := by
          rintro (code | code) <;> cases code
        rw [later.exported apart, empty]
      have fresh : existing = false := by
        cases existing with
        | true => exact absurd rfl fresh
        | false => rfl
      rw [← fresh] at counted
      exact wp_storeEnrolled next still counted
    · have existed : existing = true := not_not.mp old
      refine wp_storeEnrolled next empty ⟨finish, done, ?_⟩
      rw [existed]
      exact member

/-- One attempt after the other, by induction on those that are left. -/
theorem wp_enrolLoop {left : Nat} (sampling : Sampling left client) :
    wp clientMachine (Permitted existing) exited (enrolLoop session existing left) returned
      client := by
  have calm := permitted_silent existing
  have failed : ∀ {text : String} {client : Client}, wp clientMachine (Permitted existing) exited
      (do fprintf text; gotoOut : ClientScript Int) returned client := fun {_ _} =>
    wp_seq (wp_fprintf calm (fun last _ => leaving _ last) _)
  induction left generalizing client with
  | zero => exact failed
  | succ left ih =>
      have down : ∀ code : Nat × Nat, (10, 3) = code → Idle code := by
        rintro code rfl
        decide
      have lost : ∀ code : Nat × Nat, code = (10, 1) ∨ code = (10, 2) ∨ code = (10, 11) →
          Idle code := by
        rintro code (rfl | rfl | rfl) <;> decide
      have again : ∀ {client : Client}, Sampling left client →
          wp clientMachine (Permitted existing) exited
            ((liftFinger session).bind fun _ => enrolLoop session existing left) returned client :=
        fun sampling => wp_seq (wp_free
          (sends_liftFinger session (Or.inl rfl) (Or.inr (Or.inl rfl)) (Or.inr (Or.inr rfl)))
          (fun code is => (lost code is).1) (fun status after _ => leaving status after)
          fun _ after later => ih (sampling.later later lost))
      refine wp_seq (wp_operationCancelled calm fun stopped first grown => ?_)
      refine wp_seq (wp_ite (fun _ => ?_) fun _ => leaving _ first)
      refine wp_seq (wp_printf calm (fun second printed => ?_) _)
      have ready := sampling.later (grown.trans printed).later
        (fun code impossible => (impossible : False).elim)
      refine wp_seq (wp_free (sends_waitFingerDown session rfl) (fun code is => (down code is).1)
        (fun status after _ => leaving status after) fun result third later => ?_)
      have pressed := ready.later later down
      refine wp_ite (fun _ => failed) fun _ => ?_
      refine wp_seq (wp_query calm (fun after grown => ?_) (fun after unsent => ?_)
        fun captured payload fourth grown => ?_)
      · refine ⟨fun _ => ?_, fun code => absurd code (by decide), fun code => absurd code (by decide)⟩
        have room := pressed.captured
        rw [grown.log]
        simp only [List.nil_append]
        omega
      · exact wp_ite (fun _ => leaving _ after) fun good => absurd (by decide) good
      · have taken : Sampling left fourth := pressed.grown grown (Or.inl ⟨rfl, by omega⟩)
        refine wp_ite (fun _ => leaving _ fourth) fun _ => wp_ite (fun good => ?_) fun _ => ?_
        · have head : ∃ captured older, fourth.log = captured :: older ∧
              Succeeded session captureCode captured :=
            ⟨_, third.log, grown.log, rfl, rfl, good⟩
          refine wp_seq (wp_queryOutput calm (fun after calmly => ?_) (fun after unsent => ?_)
            fun status answer fifth sampled => ?_)
          · refine ⟨fun code => absurd code (by decide), fun _ => ?_,
              fun code => absurd code (by decide)⟩
            rw [calmly.log]
            exact head
          · exact wp_ite (fun _ => leaving _ after) fun good => absurd (by decide) good
          · have kept : Sampling left fifth := taken.grown sampled (Or.inr ⟨rfl, le_refl left⟩)
            refine wp_ite (fun _ => leaving _ fifth) fun _ => wp_ite (fun done => ?_) fun _ => ?_
            · obtain ⟨sample, member, good⟩ : ∃ sample ∈ fifth.log,
                  Succeeded session enrolCode sample :=
                ⟨_, sampled.log ▸ List.mem_append_left _ List.mem_cons_self, rfl, rfl, done⟩
              exact wp_finishEnrol leaving next kept good member
            · refine wp_seq (wp_printf calm (fun sixth printed => ?_) _)
              exact again (kept.later printed.later (fun code impossible => (impossible : False).elim))
        · refine wp_seq (wp_printf calm (fun fifth printed => ?_) _)
          exact again (taken.later printed.later (fun code impossible => (impossible : False).elim))

end Enrol

/-! ### The whole run -/

theorem sends_beginEnrol (session : Nat) (existing : Bool) :
    Sends Idle (beginEnrol session existing) := by
  refine sends_bind (sends_query session (by decide)) fun _ => ?_
  refine sends_bind (sends_outIf _) fun _ => ?_
  refine sends_bind (sends_initHwAuth session (by decide)) fun _ => ?_
  refine sends_bind (sends_outIf _) fun _ => ?_
  refine sends_bind (sends_query session (by decide)) fun _ => ?_
  refine sends_bind (sends_outIf _) fun _ => ?_
  refine sends_bind (sends_ite ?_ (sends_query session (by decide))) fun _ => ?_
  · exact sends_loadDatabase session (by decide) (by decide) (by decide)
  · refine sends_bind (sends_outIf _) fun _ => ?_
    refine sends_bind (sends_query session (by decide)) fun _ => ?_
    refine sends_bind (sends_outIf _) fun _ => ?_
    refine sends_bind (sends_ite (sends_query session (by decide)) trivial) fun _ => ?_
    refine sends_bind (sends_outIf _) fun _ => ?_
    refine sends_bind (sends_authorize session true (by decide) (by decide)) fun _ => ?_
    refine sends_bind (sends_outIf _) fun _ => ?_
    exact sends_bind (sends_query session (by decide)) fun _ => sends_outIf _

theorem idle_free (code : Nat × Nat) (idle : Idle code) : ¬Ordered code := idle.1

section Main

variable {returned : Int → Client → Prop}
  (next : ∀ result after, (result = 0 → Exported after) → returned result after)

include next

/-- A `goto out` makes the result one, which promises nothing. -/
theorem wp_bioPipeline (sampling : Sampling 40 client) :
    wp clientMachine (Permitted existing) exited (returning 1 (bioPipeline session existing))
      returned client := by
  have failed : ∀ (_ : Nat) after, returned 1 after := fun _ after =>
    next 1 after fun impossible => by cases impossible
  rw [returning, wp_onExit]
  refine wp_seq (wp_free (sends_beginEnrol session existing) idle_free
    (fun status after _ => failed status after) fun _ first later => ?_)
  exact wp_enrolLoop failed next (sampling.later later fun _ => id)

theorem wp_outSection {sensor : Option Nat} {result : Int}
    (exported : result = 0 → Exported client) :
    wp clientMachine (Permitted existing) exited (outSection sensor result) returned client := by
  have calm := permitted_silent existing
  refine wp_seq (wp_operationCancelled calm fun stopped first grown => ?_)
  have still : (if stopped then (1 : Int) else result) = 0 → Exported first := by
    intro zero
    split at zero
    · cases zero
    · exact (exported zero).later (grown.later : Later (fun _ => False) _ _) id
  cases sensor with
  | none => exact next _ first still
  | some session =>
      have sleep : ∀ (status : Int) second, Later (fun code => code = (10, 5)) first second →
          returned (if status = 0 then (if stopped then (1 : Int) else result) else 1) second := by
        intro status second later
        refine next _ second fun zero => ?_
        split at zero
        · exact (still zero).later later (by decide)
        · cases zero
      refine wp_seq (wp_query calm (fun after _ => due_of_free (by decide)) (fun after unsent => ?_)
        fun status payload second grown => ?_)
      · exact sleep (-1) after unsent.later
      · exact sleep status second (grown.later_one rfl)

theorem wp_main (leaving : ∀ status, Early status → ∀ after, exited status after)
    (empty : client.log = []) :
    wp clientMachine (Permitted existing) exited (main (.bioPipeline existing)) returned client := by
  have calm := permitted_silent existing
  have quiet : ∀ operation : ClientOp, operation.Sends (fun _ => False) →
      ∀ after, Permitted existing operation after := fun _ sends after =>
    permitted_sends (fun _ impossible => impossible.elim) sends after
  have failed : ∀ {sensor : Option Nat} {client : Client},
      wp clientMachine (Permitted existing) exited (outSection sensor 1) returned client :=
    wp_outSection next fun impossible => by cases impossible
  refine wp_seq (wp_only (only_prologue _) quiet leaving fun _ first later => ?_)
  refine wp_seq (wp_only only_attach quiet leaving fun attached second again => ?_)
  have started : second.log = [] := by
    rw [(later.trans again).grown.log, empty]
    rfl
  cases attached with
  | none => exact failed
  | some session =>
      refine wp_seq (wp_query calm (fun after _ => due_of_free (by decide)) (fun after unsent => ?_)
        fun status payload third grown => ?_)
      · exact wp_ite (fun _ => failed) fun good => absurd (by decide) good
      · refine wp_ite (fun _ => failed) fun _ => ?_
        have sampling : Sampling 40 third := by
          have none : Sampling 40 second := by
            constructor
            · rw [started]
              exact le_refl 40
            · rw [started]
              exact fun _ member => absurd member List.not_mem_nil
            · rw [started]
              rfl
          have idle : Idle (10, 0) := by decide
          exact none.later (grown.later_one idle) fun _ => id
        exact wp_seq (wp_bioPipeline (fun result after exported =>
          wp_outSection next exported) sampling)

end Main

end Steps

/-! ### Every run -/

/-- A file of somebody else stays as it is, whatever the command comes to. -/
def Spares (operation : ClientOp) (client : Client) : Prop :=
  ∀ fault : ClientFault operation, fault.outside = none → ∀ bytes,
    client.output = .foreign bytes →
      (clientMachine.perform operation fault client).2.output = .foreign bytes

theorem spares_of_permitted {existing : Bool} {operation : ClientOp} {client : Client}
    (permitted : Permitted existing operation client) : Spares operation client := by
  rintro ⟨answer, signal, outside⟩ rfl bytes foreign
  rcases client with ⟨cancelled, output, log, stdout⟩
  cases foreign
  cases operation with
  | createOutput => cases (answer : Bool) <;> rfl
  | unlinkOutput =>
      obtain ⟨written, synced, own⟩ := permitted
      cases own
  | writeOutput data => cases answer <;> rfl
  | _ => rfl

/-- Every command of an enrolment is permitted by what went before it and
spares a file that was there; an exit status of zero means that the whole
database is exported. -/
theorem enrol_ordered (existing : Bool) (found : Option Bytes) :
    (∀ operation next client,
      Reaches clientMachine (main (.bioPipeline existing), Client.start found)
        (.act operation next, client) → Permitted existing operation client ∧ Spares operation client) ∧
    (∀ status client,
      Reaches clientMachine (main (.bioPipeline existing), Client.start found)
        (.done status, client) → status = 0 → Exported client) ∧
    ∀ status client,
      Reaches clientMachine (main (.bioPipeline existing), Client.start found)
        (.exit status, client) → status ≠ 0 := by
  have safe : wp clientMachine (Permitted existing) (fun status _ => status ≠ 0)
      (main (.bioPipeline existing)) (fun result after => result = 0 → Exported after)
      (Client.start found) := wp_main (fun _ _ => id) (fun _ early _ => early.nonzero) rfl
  refine ⟨fun operation next client run => ?_, fun status client run => ?_,
    fun status client run => ?_⟩
  · have permitted := wp_sound safe run
    exact ⟨permitted, spares_of_permitted permitted⟩
  · exact wp_sound safe run
  · exact wp_sound safe run

/-! ### A run that succeeds -/

/-- Little-endian words from offset 0, zero behind them. -/
def memoryOf (words : List Nat) : Memory := fun offset =>
  UInt8.ofNat ((words.getD (offset / 4) 0) / 256 ^ (offset % 4))

/-- An application that accepts everything: the challenge is 1, the database
has one template and three bytes. -/
def willing (code : Nat × Nat) : Memory :=
  if code = challengeCode then memoryOf [0, 0, 1]
  else if code = enumerateCode then memoryOf [11, 8, 1]
  else if code = sizeCode then memoryOf [0, 0, 0, 3]
  else memoryOf []

def cooperative (_ : Nat) (operation : ClientOp) (_ : Client) : ClientFault operation :=
  { answer :=
      match operation with
      | .invoke _ request => Reply.mk true 0 0 (willing request.code)
      | .openSession _ => some 7
      | .keymaster _ _ => some (memoryOf [0, 12, 1])
      | .poll timeout => Polled.mk (if timeout = 0 then 0 else 1) true
      | .pollHat _ => HatPoll.ready
      | .readHat length => some ((0 :: 1 :: List.replicate 67 0).take length)
      | .writeChallenge bytes => some bytes.length
      | .writeOutput bytes => some bytes.length
      | .lstatOutput => Lstat.missing
      | .print _ => ()
      | .eprint _ => ()
      | .getrandom _ => none
      | .statDatabase => none
      | .readDatabase _ => none
      | .unlinkOutput => ()
      | .cancelled => true
      | .installHandlers => true
      | .hatDescriptor => true
      | .challengeDescriptor => true
      | .openPower => true
      | .allocate _ => true
      | .openDatabase => true
      | .closeDatabase => true
      | .createOutput => true
      | .fsyncOutput => true
      | .closeOutput => true
    signal := false
    outside := none }

def enrolledRun : ClientScript Int × Client :=
  play clientMachine cooperative 250 (main (.bioPipeline false), Client.start none)

theorem enrolledRun_reached :
    Reaches clientMachine (main (.bioPipeline false), Client.start none)
      (.done 0, enrolledRun.2) := by
  have ended : enrolledRun.1.returned = some 0 := by
    decide +kernel
  exact returns_of_play clientMachine cooperative 250 ended

theorem enrol_ordered_reference : Exported enrolledRun.2 :=
  (enrol_ordered false none).2.1 0 enrolledRun.2 enrolledRun_reached rfl

end Liuqin.Fingerprint
