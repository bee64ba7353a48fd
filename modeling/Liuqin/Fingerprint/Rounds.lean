/-
The client's side of the authorization rounds.

A round is a challenge of the application, the token read for it and the
submission of the token.  Only authorize_enrol touches the two pipes, so the
bytes it moves are counted round by round over everything else the client does.
-/

import Mathlib.Data.List.Forall2
import Liuqin.Fingerprint.Enrolment

namespace Liuqin.Fingerprint.Rounds

open Liuqin.Library.Program

/-! ### Challenges and tokens -/

/-- The challenge an invocation came back with, and its session. -/
def challengeOf (past : Invocation) : Option (Nat × Bytes) :=
  if past.request.code = challengeCode ∧ past.status = 0 ∧
      bytesAt past.payload 8 8 ≠ List.replicate 8 0 then
    some (past.session, bytesAt past.payload 8 8)
  else none

/-- The token an invocation submitted, and its session. -/
def tokenOf (past : Invocation) : Option (Nat × Bytes) :=
  if past.request.code = hatCode then some (past.session, past.request.at16) else none

/-- Oldest first, from a log newest first. -/
def obtained (log : List Invocation) : List (Nat × Bytes) := log.reverse.filterMap challengeOf

def submitted (log : List Invocation) : List (Nat × Bytes) := log.reverse.filterMap tokenOf

theorem obtained_cons (past : Invocation) (log : List Invocation) :
    obtained (past :: log) = obtained log ++ (challengeOf past).toList := by
  cases known : challengeOf past <;> simp [obtained, known]

theorem submitted_cons (past : Invocation) (log : List Invocation) :
    submitted (past :: log) = submitted log ++ (tokenOf past).toList := by
  cases known : tokenOf past <;> simp [submitted, known]

/-- The token was submitted in the challenge's session and carries it. -/
structure Answers (token challenge : Nat × Bytes) : Prop where
  session : token.1 = challenge.1
  sized : token.2.length = hatSize
  carries : Carries token.2 challenge.2

/-! ### The exchange -/

def challengeSize : Nat := 8

/-- `done` are the challenges whose token was submitted, `rest` the one under
way and `part` what was read of its token. -/
structure Exchange (done rest : List (Nat × Bytes)) (part : Bytes) (client : Client) : Prop where
  obtained : obtained client.log = done ++ rest
  single : rest.length ≤ 1
  sized : ∀ challenge ∈ done ++ rest, challenge.2.length = challengeSize
  answered : List.Forall₂ Answers (submitted client.log) done
  sentLeast : (done.map Prod.snd).flatten <+: client.challengeSent
  sentMost : client.challengeSent <+: ((done ++ rest).map Prod.snd).flatten
  received : client.hatReceived = ((submitted client.log).map Prod.snd).flatten ++ part
  bounded : part.length ≤ hatSize * rest.length
  waited : part ≠ [] → client.challengeSent = ((done ++ rest).map Prod.snd).flatten

def Exchanged (client : Client) : Prop := ∃ done rest part, Exchange done rest part client

/-- So many rounds are complete and nothing is under way. -/
def Settled (rounds : Nat) (client : Client) : Prop :=
  ∃ done, done.length = rounds ∧ Exchange done [] [] client ∧ client.starved = false

/-- The rounds of a mode, and whether its client sends its challenges. -/
def expectedRounds : Mode → Nat
  | .authPreflight _ => 1
  | .authPreflightRenew => 2
  | .bioPipeline _ => 2
  | .match _ _ => 0

def connects : Mode → Bool
  | .authPreflight connected => connected
  | .authPreflightRenew => true
  | .bioPipeline _ => true
  | .match _ _ => false

theorem Exchange.exchanged {done rest : List (Nat × Bytes)} {part : Bytes} {client : Client}
    (exchange : Exchange done rest part client) : Exchanged client := ⟨done, rest, part, exchange⟩

theorem Settled.exchanged {rounds : Nat} {client : Client} (settled : Settled rounds client) :
    Exchanged client := by
  obtain ⟨done, _, exchange, _⟩ := settled
  exact exchange.exchanged

/-! ### What the rest of the client leaves alone -/

/-- The same exchange in both states. -/
structure Unmoved (before after : Client) : Prop where
  obtained : obtained after.log = obtained before.log
  submitted : submitted after.log = submitted before.log
  challengeSent : after.challengeSent = before.challengeSent
  hatReceived : after.hatReceived = before.hatReceived
  starved : after.starved = before.starved

theorem Unmoved.refl (client : Client) : Unmoved client client := ⟨rfl, rfl, rfl, rfl, rfl⟩

theorem Unmoved.trans {first second third : Client} (front : Unmoved first second)
    (back : Unmoved second third) : Unmoved first third :=
  ⟨back.obtained.trans front.obtained, back.submitted.trans front.submitted,
    back.challengeSent.trans front.challengeSent, back.hatReceived.trans front.hatReceived,
    back.starved.trans front.starved⟩

theorem Exchange.unmoved {done rest : List (Nat × Bytes)} {part : Bytes} {before after : Client}
    (exchange : Exchange done rest part before) (same : Unmoved before after) :
    Exchange done rest part after := by
  constructor
  · rw [same.obtained]
    exact exchange.obtained
  · exact exchange.single
  · exact exchange.sized
  · rw [same.submitted]
    exact exchange.answered
  · rw [same.challengeSent]
    exact exchange.sentLeast
  · rw [same.challengeSent]
    exact exchange.sentMost
  · rw [same.hatReceived, same.submitted]
    exact exchange.received
  · exact exchange.bounded
  · rw [same.challengeSent]
    exact exchange.waited

theorem Exchanged.unmoved {before after : Client} (exchanged : Exchanged before)
    (same : Unmoved before after) : Exchanged after := by
  obtain ⟨done, rest, part, exchange⟩ := exchanged
  exact (exchange.unmoved same).exchanged

theorem Settled.unmoved {rounds : Nat} {before after : Client} (settled : Settled rounds before)
    (same : Unmoved before after) : Settled rounds after := by
  obtain ⟨done, counted, exchange, calm⟩ := settled
  exact ⟨done, counted, exchange.unmoved same, same.starved.trans calm⟩

/-- A command outside the exchange. -/
def ClientOp.Apart : ClientOp → Prop
  | .invoke _ request => request.code ≠ challengeCode ∧ request.code ≠ hatCode
  | .writeChallenge _ => False
  | .pollHat _ => False
  | .readHat _ => False
  | _ => True

def apart (code : Nat × Nat) : Prop := code ≠ challengeCode ∧ code ≠ hatCode

instance : DecidablePred apart := fun _ => inferInstanceAs (Decidable (_ ∧ _))

theorem apart_of_sends {operation : ClientOp} (sends : operation.Sends apart) :
    ClientOp.Apart operation := by
  cases operation with
  | invoke session request => exact sends
  | writeChallenge bytes => exact absurd rfl sends.2
  | pollHat timeout => exact absurd rfl sends.2
  | readHat length => exact absurd rfl sends.2
  | _ => trivial

/-- One more entry, and nothing moved. -/
structure Logged (past : Invocation) (before after : Client) : Prop where
  log : after.log = past :: before.log
  challengeSent : after.challengeSent = before.challengeSent
  hatReceived : after.hatReceived = before.hatReceived
  starved : after.starved = before.starved

theorem Logged.unmoved {past : Invocation} {before middle after : Client}
    (logged : Logged past before middle) (same : Unmoved middle after)
    (log : after.log = middle.log) : Logged past before after :=
  ⟨log.trans logged.log, same.challengeSent.trans logged.challengeSent,
    same.hatReceived.trans logged.hatReceived, same.starved.trans logged.starved⟩

theorem Logged.apart {past : Invocation} {before after : Client} (logged : Logged past before after)
    (asked : challengeOf past = none) (answered : tokenOf past = none) : Unmoved before after := by
  constructor
  · rw [logged.log, obtained_cons, asked]
    exact List.append_nil _
  · rw [logged.log, submitted_cons, answered]
    exact List.append_nil _
  · exact logged.challengeSent
  · exact logged.hatReceived
  · exact logged.starved

theorem perform_logged (session : Nat) (request : Request)
    (fault : ClientFault (.invoke session request)) (client : Client) :
    Logged (Reply.invocation fault.answer session request) client
      (clientMachine.perform _ fault client).2 := ⟨rfl, rfl, rfl, rfl⟩

theorem perform_apart {operation : ClientOp} (outside : ClientOp.Apart operation)
    (fault : ClientFault operation) (client : Client) :
    Unmoved client (clientMachine.perform operation fault client).2 := by
  show Unmoved client
    (clientReact operation fault.answer (client.disturbed fault.signal fault.outside)).2
  cases operation with
  | invoke session request =>
      apply (perform_logged session request fault client).apart
      · exact if_neg fun both => outside.1 both.1
      · exact if_neg outside.2
  | writeChallenge bytes => exact outside.elim
  | pollHat timeout => exact outside.elim
  | readHat length => exact outside.elim
  | createOutput =>
      simp only [clientReact]
      split
      · exact ⟨rfl, rfl, rfl, rfl, rfl⟩
      · exact ⟨rfl, rfl, rfl, rfl, rfl⟩
  | writeOutput bytes =>
      simp only [clientReact]
      split
      · exact ⟨rfl, rfl, rfl, rfl, rfl⟩
      · exact ⟨rfl, rfl, rfl, rfl, rfl⟩
  | fsyncOutput =>
      simp only [clientReact]
      split
      · exact ⟨rfl, rfl, rfl, rfl, rfl⟩
      · exact ⟨rfl, rfl, rfl, rfl, rfl⟩
  | _ => exact ⟨rfl, rfl, rfl, rfl, rfl⟩

/-! ### Scripts outside the exchange -/

/-- A message, which leaves the log alone too. -/
def ClientOp.Speaks : ClientOp → Prop
  | .print _ => True
  | .eprint _ => True
  | _ => False

theorem perform_speaks {operation : ClientOp} (speaks : ClientOp.Speaks operation)
    (fault : ClientFault operation) {past : Invocation} {before client : Client}
    (logged : Logged past before client) :
    Logged past before (clientMachine.perform operation fault client).2 := by
  cases operation with
  | print text => exact ⟨logged.log, logged.challengeSent, logged.hatReceived, logged.starved⟩
  | eprint text => exact ⟨logged.log, logged.challengeSent, logged.hatReceived, logged.starved⟩
  | _ => exact speaks.elim

section Scripts

variable {α : Type} {leaves : Nat → Prop} {session : Nat}

/-- All of a script's commands are outside the exchange. -/
abbrev Outside (leaves : Nat → Prop) (script : ClientScript α) : Prop :=
  script.Only ClientOp.Apart leaves

theorem outside_of_sends {script : ClientScript α} (sends : Sends apart script) :
    Outside (fun _ => True) script :=
  Prog.only_mono sends (fun _ => apart_of_sends) fun _ => id

theorem outside_call {operation : ClientOp} (outside : ClientOp.Apart operation) :
    Outside leaves (call operation) := ⟨outside, fun _ => trivial⟩

theorem outside_printf (text : String) : Outside leaves (printf text) := outside_call trivial

theorem outside_fprintf (text : String) : Outside leaves (fprintf text) := outside_call trivial

theorem outside_allocate (size : Nat) : Outside leaves (allocateShared size) := outside_call trivial

theorem outside_invoke {request : Request} (holds : apart request.code) :
    Outside leaves (invokeTee session request) := ⟨holds, fun _ => trivial⟩

theorem outside_cancelled : Outside leaves operationCancelled := outside_call trivial

theorem outside_runIf {condition : Prop} [Decidable condition] {script : ClientScript Unit}
    (outside : Outside leaves script) : Outside leaves (runIf condition script) :=
  Prog.only_ite outside trivial

theorem outside_reportQuery (kind : QueryKind) (status : Int) (payload : Memory) :
    Outside leaves (reportQuery kind status payload) := by
  cases kind with
  | captureEnrol =>
      apply Prog.only_bind (outside_printf _)
      intro _
      apply Prog.only_bind (outside_printf _)
      intro _
      exact Prog.only_bind (outside_runIf (outside_printf _)) fun _ => outside_runIf (outside_printf _)
  | bioEnrol => exact outside_runIf (outside_printf _)
  | bioEndEnrol => exact outside_runIf (outside_printf _)
  | _ => trivial

/-- A query has no exit. -/
theorem outside_query {kind : QueryKind} (holds : apart kind.request.code) :
    Outside leaves (query session kind) := by
  have invokes : Outside leaves (invokePayload session kind.request) := by
    apply Prog.only_bind (outside_invoke holds)
    intro reply
    apply Prog.only_bind (outside_runIf (outside_printf _))
    intro _
    exact Prog.only_bind (outside_runIf (outside_fprintf _)) fun _ => trivial
  apply Prog.only_bind
  · apply Prog.only_bind (outside_allocate _)
    intro allocated
    apply Prog.only_ite
    · apply Prog.only_bind (outside_printf _)
      intro _
      apply Prog.only_bind invokes
      intro answer
      exact Prog.only_bind (outside_reportQuery kind _ _) fun _ => trivial
    · exact Prog.only_bind (outside_fprintf _) fun _ => trivial
  · exact fun _ => trivial

theorem outside_db (command word3 word4 : Nat) (chunk : Bytes) :
    Outside (fun _ => True) (dbCommand session command word3 word4 chunk) := by
  apply outside_of_sends
  apply sends_dbCommand
  exact ⟨fun same => absurd (congrArg Prod.fst same) (by decide : ¬(4 : Nat) = 3),
    fun same => absurd (congrArg Prod.fst same) (by decide : ¬(4 : Nat) = 3)⟩

theorem outside_create : Outside leaves createOutput := outside_call trivial

theorem outside_sync : Outside leaves fsyncOutput := outside_call trivial

theorem outside_close : Outside leaves closeOutput := outside_call trivial

theorem outside_unlink : Outside leaves unlinkOutput := outside_call trivial

theorem outside_writeDatabase (bytes : Bytes) :
    Outside (fun _ => True) (writeDatabase bytes) := by
  fun_induction writeDatabase bytes with
  | case1 => trivial
  | case2 bytes more ih =>
      refine ⟨trivial, fun answer => ?_⟩
      rcases (answer : Option Nat) with _ | count | count
      · exact ⟨trivial, fun _ => trivial⟩
      · exact ⟨trivial, fun _ => trivial⟩
      · exact ih count

theorem outside_exportLoop (remaining : Nat) :
    Outside (fun _ => True) (exportLoop session remaining) := by
  fun_induction exportLoop session remaining with
  | case1 => trivial
  | case2 remaining more count ih =>
      apply Prog.only_bind (outside_db _ _ _ _)
      intro answer
      show Prog.Only _ _ (if _ then _ else _)
      split
      · exact ⟨trivial, fun _ => trivial⟩
      · rename_i agreed
        apply Prog.only_bind (outside_writeDatabase _)
        exact fun _ => ih answer.1 agreed

theorem outside_returning {failed : Int} {body : ClientScript Int}
    (outside : Outside (fun _ => True) body) : Outside (fun _ => True) (returning failed body) := by
  unfold returning
  induction body with
  | done value => trivial
  | exit status => trivial
  | act operation next ih => exact ⟨outside.1, fun answer => ih answer (outside.2 answer)⟩

theorem outside_storeDatabase : Outside (fun _ => True) (storeDatabase session) := by
  apply Prog.only_bind (outside_db _ _ _ _)
  intro sized
  apply Prog.only_ite (Prog.only_done _)
  apply Prog.only_ite
  · exact Prog.only_bind (outside_fprintf _) fun _ => trivial
  apply Prog.only_bind (outside_db _ _ _ _)
  intro begun
  apply Prog.only_ite (Prog.only_done _)
  apply Prog.only_bind
  · apply Prog.only_bind outside_create
    intro created
    apply Prog.only_ite
    · apply Prog.only_bind
      · apply outside_returning
        apply Prog.only_bind (outside_exportLoop _)
        intro _
        apply Prog.only_bind outside_sync
        intro synced
        apply Prog.only_ite (Prog.only_done _)
        exact Prog.only_bind (outside_fprintf _) fun _ => trivial
      · exact fun _ => trivial
    · exact Prog.only_bind (outside_fprintf _) fun _ => trivial
  · intro exported
    apply Prog.only_bind (outside_db _ _ _ _)
    intro finished
    apply Prog.only_bind
    · apply Prog.only_ite
      · apply Prog.only_bind outside_close
        intro closed
        exact Prog.only_bind (outside_runIf outside_unlink) fun _ => trivial
      · trivial
    · intro result
      apply Prog.only_bind (outside_runIf (outside_fprintf _))
      intro _
      exact Prog.only_bind (outside_runIf (outside_printf _)) fun _ => trivial

end Scripts

/-! ### One round -/

section Rules

variable {exited : Nat → Client → Prop} {client : Client} {done : List (Nat × Bytes)}
  {part : Bytes} {session : Nat}

abbrev During (_ : ClientOp) (client : Client) : Prop := Exchanged client

theorem wp_outside {α : Type} {leaves : Nat → Prop} {script : ClientScript α}
    {returned : α → Client → Prop} (outside : Outside leaves script) (exchanged : Exchanged client)
    (left : ∀ status after, leaves status → Exchanged after → exited status after)
    (next : ∀ value after, Unmoved client after → returned value after) :
    wp clientMachine During exited script returned client := by
  have kept : ∀ operation, ClientOp.Apart operation → ∀ fault state, Unmoved client state →
      Unmoved client (clientMachine.perform operation fault state).2 :=
    fun _ apart fault state same => same.trans (perform_apart apart fault state)
  apply wp_of_only outside kept _ _ next (Unmoved.refl client)
  · exact fun _ _ _ same => exchanged.unmoved same
  · exact fun status leaves after same => left status after leaves (exchanged.unmoved same)

/-- The same of a script without an exit. -/
theorem wp_beside {α : Type} {script : ClientScript α} {returned : α → Client → Prop}
    (outside : Outside (fun _ => False) script) (exchanged : Exchanged client)
    (next : ∀ value after, Unmoved client after → returned value after) :
    wp clientMachine During exited script returned client :=
  wp_outside outside exchanged (fun _ _ impossible => impossible.elim) next

theorem wp_speaking {past : Invocation} {before : Client} {returned : Unit → Client → Prop}
    {condition : Prop} [Decidable condition] {operation : ClientScript Unit}
    (speaks : operation.Only ClientOp.Speaks fun _ => False)
    (kept : ∀ after, Logged past before after → Exchanged after) (logged : Logged past before client)
    (next : ∀ after, Logged past before after → returned () after) :
    wp clientMachine During exited (runIf condition operation) returned client := by
  have only : (runIf condition operation).Only ClientOp.Speaks fun _ => False :=
    Prog.only_ite speaks trivial
  have stays : ∀ operation, ClientOp.Speaks operation → ∀ fault state, Logged past before state →
      Logged past before (clientMachine.perform operation fault state).2 :=
    fun _ speaks fault _ logged => perform_speaks speaks fault logged
  apply wp_of_only only stays _ _ _ logged
  · exact fun _ _ after logged => kept after logged
  · exact fun _ impossible => impossible.elim
  · exact fun _ after logged => next after logged

/-- A TEE command and the messages behind it. -/
theorem wp_invoked {request : Request} {returned : Int × Memory → Client → Prop}
    (exchanged : Exchanged client)
    (kept : ∀ past after, past.session = session → past.request = request →
      Logged past client after → Exchanged after)
    (next : ∀ past after, past.session = session → past.request = request →
      Logged past client after → returned (past.status, past.payload) after) :
    wp clientMachine During exited (invokePayload session request) returned client := by
  have spoken : ∀ text, (printf text).Only ClientOp.Speaks fun _ => False := fun _ =>
    ⟨trivial, fun _ => trivial⟩
  have complained : ∀ text, (fprintf text).Only ClientOp.Speaks fun _ => False := fun _ =>
    ⟨trivial, fun _ => trivial⟩
  apply wp_seq
  refine ⟨exchanged, fun fault => ?_⟩
  have logged := perform_logged session request fault client
  have still := fun after => kept (Reply.invocation fault.answer session request) after rfl rfl
  apply wp_seq
  apply wp_speaking (spoken _) still logged
  intro second logged
  apply wp_seq
  apply wp_speaking (complained _) still logged
  intro third logged
  exact next _ third rfl rfl logged

/-! #### The challenge -/

theorem Exchange.whole (exchange : Exchange done [] part client) :
    client.challengeSent = (done.map Prod.snd).flatten := by
  have most := exchange.sentMost
  rw [List.append_nil] at most
  exact most.eq_of_length_le exchange.sentLeast.length_le

theorem Exchange.asks {challenge : Nat × Bytes} {past : Invocation} {after : Client}
    (exchange : Exchange done [] [] client) (logged : Logged past client after)
    (asked : challengeOf past = some challenge) (sized : challenge.2.length = challengeSize)
    (unanswered : tokenOf past = none) : Exchange done [challenge] [] after := by
  have submissions : submitted after.log = submitted client.log := by
    rw [logged.log, submitted_cons, unanswered]
    exact List.append_nil _
  constructor
  · have before := exchange.obtained
    rw [List.append_nil] at before
    rw [logged.log, obtained_cons, asked, before]
    rfl
  · exact le_refl 1
  · intro other member
    rcases List.mem_append.mp member with old | new
    · exact exchange.sized other (List.mem_append_left [] old)
    · rw [List.mem_singleton.mp new]
      exact sized
  · rw [submissions]
    exact exchange.answered
  · rw [logged.challengeSent]
    exact exchange.sentLeast
  · rw [logged.challengeSent, exchange.whole, List.map_append, List.flatten_append]
    exact List.prefix_append _ _
  · rw [logged.hatReceived, submissions]
    exact exchange.received
  · exact Nat.zero_le _
  · exact fun some => absurd rfl some

/-- The challenge under way, of which `already` was sent. -/
structure Posting (done : List (Nat × Bytes)) (challenge : Nat × Bytes) (already : Bytes)
    (client : Client) : Prop where
  exchange : Exchange done [challenge] [] client
  sent : client.challengeSent = (done.map Prod.snd).flatten ++ already
  calm : client.starved = false

theorem Posting.unmoved {challenge : Nat × Bytes} {already : Bytes} {after : Client}
    (posting : Posting done challenge already client) (same : Unmoved client after) :
    Posting done challenge already after :=
  ⟨posting.exchange.unmoved same, same.challengeSent.trans posting.sent,
    same.starved.trans posting.calm⟩

theorem Posting.wrote {already rest : Bytes} {after : Client}
    (posting : Posting done (session, already ++ rest) already client) (count : Nat)
    (log : after.log = client.log)
    (sent : after.challengeSent = client.challengeSent ++ rest.take count)
    (received : after.hatReceived = client.hatReceived) (starved : after.starved = client.starved) :
    Posting done (session, already ++ rest) (already ++ rest.take count) after := by
  have exchange := posting.exchange
  have more : after.challengeSent = (done.map Prod.snd).flatten ++ (already ++ rest.take count) := by
    rw [sent, posting.sent, List.append_assoc]
  constructor
  · constructor
    · rw [log]
      exact exchange.obtained
    · exact exchange.single
    · exact exchange.sized
    · rw [log]
      exact exchange.answered
    · rw [more]
      exact List.prefix_append _ _
    · rw [more, List.map_append, List.flatten_append, List.prefix_append_right_inj, List.map_cons,
        List.map_nil, List.flatten_cons, List.flatten_nil, List.append_nil,
        List.prefix_append_right_inj]
      exact List.take_prefix count rest
    · rw [received, log]
      exact exchange.received
    · exact exchange.bounded
    · exact fun some => absurd rfl some
  · exact more
  · exact starved.trans posting.calm

/-- All of the challenge was sent and `part` of the token was read. -/
structure Reading (done : List (Nat × Bytes)) (challenge : Nat × Bytes) (part : Bytes)
    (client : Client) : Prop where
  exchange : Exchange done [challenge] part client
  sent : client.challengeSent = ((done ++ [challenge]).map Prod.snd).flatten
  calm : client.starved = false

theorem Posting.reading {challenge : Nat × Bytes}
    (posting : Posting done challenge challenge.2 client) : Reading done challenge [] client := by
  constructor
  · exact posting.exchange
  · rw [posting.sent, List.map_append, List.flatten_append, List.map_cons, List.map_nil,
      List.flatten_cons, List.flatten_nil, List.append_nil]
  · exact posting.calm

theorem Reading.unmoved {challenge : Nat × Bytes} {after : Client}
    (reading : Reading done challenge part client) (same : Unmoved client after) :
    Reading done challenge part after :=
  ⟨reading.exchange.unmoved same, same.challengeSent.trans reading.sent,
    same.starved.trans reading.calm⟩

theorem Reading.took {challenge : Nat × Bytes} {chunk : Bytes} {after : Client}
    (reading : Reading done challenge part client) (room : (part ++ chunk).length ≤ hatSize)
    (log : after.log = client.log) (sent : after.challengeSent = client.challengeSent)
    (received : after.hatReceived = client.hatReceived ++ chunk) :
    Exchange done [challenge] (part ++ chunk) after := by
  have exchange := reading.exchange
  constructor
  · rw [log]
    exact exchange.obtained
  · exact exchange.single
  · exact exchange.sized
  · rw [log]
    exact exchange.answered
  · rw [sent]
    exact exchange.sentLeast
  · rw [sent]
    exact exchange.sentMost
  · rw [received, log, exchange.received, List.append_assoc]
  · exact room
  · rw [sent]
    exact fun _ => reading.sent

/-- A token that carries the challenge was submitted. -/
theorem Reading.submits {challenge : Nat × Bytes} {past : Invocation} {after : Client}
    (reading : Reading done challenge part client) (logged : Logged past client after)
    (unasked : challengeOf past = none) (answer : tokenOf past = some (challenge.1, part))
    (full : part.length = hatSize) (carries : Carries part challenge.2) :
    Exchange (done ++ [challenge]) [] [] after := by
  have exchange := reading.exchange
  have submissions : submitted after.log = submitted client.log ++ [(challenge.1, part)] := by
    rw [logged.log, submitted_cons, answer]
    rfl
  have whole : after.challengeSent = ((done ++ [challenge]).map Prod.snd).flatten :=
    logged.challengeSent.trans reading.sent
  constructor
  · rw [logged.log, obtained_cons, unasked, exchange.obtained]
    rfl
  · exact Nat.zero_le 1
  · rw [List.append_nil]
    exact exchange.sized
  · rw [submissions]
    exact List.rel_append exchange.answered (List.Forall₂.cons ⟨rfl, full, carries⟩ List.Forall₂.nil)
  · rewrite [whole]
    exact List.prefix_refl _
  · rewrite [whole, List.append_nil]
    exact List.prefix_refl _
  · rw [logged.hatReceived, exchange.received, submissions, List.map_append, List.flatten_append]
    simp only [List.map_cons, List.map_nil, List.flatten_cons, List.flatten_nil, List.append_nil]
  · exact Nat.zero_le _
  · exact fun some => absurd rfl some

theorem Settled.exchange {rounds : Nat} (settled : Settled rounds client) :
    ∃ done, done.length = rounds ∧ Exchange done [] [] client ∧ client.starved = false := settled

theorem wp_getEnrolChallenge {rounds : Nat} {returned : Option Bytes → Client → Prop}
    (settled : Settled rounds client) (failed : ∀ after, Exchanged after → returned none after)
    (next : ∀ done challenge after, done.length = rounds →
      Posting done (session, challenge) [] after → returned (some challenge) after) :
    wp clientMachine During exited (getEnrolChallenge session) returned client := by
  apply wp_seq
  apply wp_beside (outside_allocate _) settled.exchanged
  intro allocated first same
  have ready := settled.unmoved same
  apply wp_ite
  · intro _
    obtain ⟨done, counted, exchange, calm⟩ := ready
    -- a challenge the application gave, or none
    have came : ∀ past after, past.session = session → past.request = challengeRequest →
        Logged past first after → Exchanged after ∧
          ((past.status = 0 ∧ bytesAt past.payload 8 8 ≠ List.replicate 8 0) →
            Posting done (session, bytesAt past.payload 8 8) [] after) := by
      intro past after named asked logged
      have silent : tokenOf past = none := by
        rw [tokenOf, asked]
        rfl
      by_cases given : past.status = 0 ∧ bytesAt past.payload 8 8 ≠ List.replicate 8 0
      · have challenge : challengeOf past = some (session, bytesAt past.payload 8 8) := by
          rw [challengeOf, if_pos ⟨by rw [asked]; rfl, given.1, given.2⟩, named]
        have sized : (bytesAt past.payload 8 8).length = challengeSize := bytesAt_length _ _ _
        have under := exchange.asks logged challenge sized silent
        refine ⟨under.exchanged, fun _ => ⟨under, ?_, logged.starved.trans calm⟩⟩
        rw [logged.challengeSent, exchange.whole, List.append_nil]
      · have none : challengeOf past = none := if_neg fun all => given all.2
        have still := exchange.unmoved (logged.apart none silent)
        exact ⟨still.exchanged, fun wrong => absurd wrong given⟩
    apply wp_seq
    apply wp_invoked exchange.exchanged
    · exact fun past after named asked logged => (came past after named asked logged).1
    · intro past second named asked logged
      obtain ⟨exchanged, posting⟩ := came past second named asked logged
      apply wp_ite
      · exact fun _ => failed second exchanged
      · intro good
        apply wp_ite
        · intro _
          apply wp_seq
          apply wp_beside (outside_fprintf _) exchanged
          exact fun _ third same => failed third (exchanged.unmoved same)
        · intro nonzero
          have posted := posting ⟨not_not.mp good, nonzero⟩
          apply wp_seq
          apply wp_beside (outside_printf _) exchanged
          exact fun _ third same => next done _ third counted (posted.unmoved same)
  · intro _
    apply wp_seq
    apply wp_beside (outside_fprintf _) ready.exchanged
    exact fun _ second same => failed second (ready.unmoved same).exchanged

/-! #### The pipes -/

section Pipes

variable (leaving : ∀ status after, Exchanged after → exited status after)

include leaving

theorem wp_complain {α : Type} {text : String} {returned : α → Client → Prop}
    (exchanged : Exchanged client) :
    wp clientMachine During exited
      (do
        fprintf text
        gotoOut) returned client := by
  apply wp_seq
  apply wp_beside (outside_fprintf _) exchanged
  exact fun _ after same => leaving 1 after (exchanged.unmoved same)

/-- Nothing happens past a signal. -/
theorem wp_uncancelled {α : Type} {script : ClientScript α} {returned : α → Client → Prop}
    (exchanged : Exchanged client)
    (next : ∀ after, Unmoved client after →
      wp clientMachine During exited script returned after) :
    wp clientMachine During exited
      (do
        let stopped ← operationCancelled
        outUnless (!stopped)
        script) returned client := by
  apply wp_seq
  apply wp_beside outside_cancelled exchanged
  intro stopped after same
  apply wp_seq
  apply wp_ite
  · exact fun _ => next after same
  · exact fun _ => leaving 1 after (exchanged.unmoved same)

omit leaving in
theorem wp_post {already rest : Bytes} {returned : Option Nat → Client → Prop}
    (posting : Posting done (session, already ++ rest) already client)
    (failed : ∀ after, Exchanged after → returned none after)
    (next : ∀ count after,
      Posting done (session, already ++ rest) (already ++ rest.take count) after →
      returned (some count) after) :
    wp clientMachine During exited (call (.writeChallenge rest)) returned client := by
  refine ⟨posting.exchange.exchanged, fun fault => ?_⟩
  rcases fault with ⟨answer, signal, outside⟩
  rcases (answer : Option Nat) with _ | offered
  · apply failed
    have wrote : Posting done (session, already ++ rest) (already ++ rest.take 0)
        (clientMachine.perform (.writeChallenge rest) ⟨none, signal, outside⟩ client).2 :=
      posting.wrote 0 rfl rfl rfl rfl
    exact wrote.exchange.exchanged
  · apply next (min rest.length offered)
    have counted : rest.take (min rest.length offered) = rest.take offered := by
      rw [Nat.min_comm, ← List.take_eq_take_min]
    rw [counted]
    exact posting.wrote offered rfl rfl rfl rfl

/-- By induction on what is left of the challenge. -/
theorem wp_writeChallenge {already rest : Bytes} {returned : Unit → Client → Prop}
    (posting : Posting done (session, already ++ rest) already client)
    (next : ∀ after, Posting done (session, already ++ rest) (already ++ rest) after →
      returned () after) :
    wp clientMachine During exited (writeChallenge rest) returned client := by
  induction left : rest.length using Nat.strong_induction_on generalizing already rest client with
  | _ left ih =>
      rw [writeChallenge]
      apply wp_ite
      · intro empty
        subst empty
        rw [List.append_nil] at posting next
        exact next client posting
      · intro more
        apply wp_uncancelled leaving posting.exchange.exchanged
        intro first same
        apply wp_seq
        apply wp_post (posting.unmoved same)
        · exact fun after exchanged => wp_complain leaving exchanged
        · intro count second wrote
          cases count with
          | zero => exact wp_complain leaving wrote.exchange.exchanged
          | succ count =>
              have split : already ++ rest =
                  (already ++ rest.take (count + 1)) ++ rest.drop (count + 1) := by
                rw [List.append_assoc, List.take_append_drop]
              rw [split] at wrote next
              refine ih _ ?_ wrote next rfl
              have positive := List.length_pos_iff.mpr more
              rw [List.length_drop]
              omega

omit leaving in
theorem wp_pollHat {timeout : Nat} {challenge : Nat × Bytes} {returned : HatPoll → Client → Prop}
    (reading : Reading done challenge part client)
    (failed : ∀ polled after, polled ≠ .ready → Exchanged after → returned polled after)
    (next : ∀ after, Reading done challenge part after → returned .ready after) :
    wp clientMachine During exited (call (.pollHat timeout)) returned client := by
  have exchange := reading.exchange
  have still : ∀ after : Client, after.log = client.log →
      after.challengeSent = client.challengeSent → after.hatReceived = client.hatReceived →
      Exchange done [challenge] part after := by
    intro after log sent received
    have room : (part ++ []).length ≤ hatSize := by
      rw [List.append_nil]
      exact exchange.bounded
    have nothing : after.hatReceived = client.hatReceived ++ [] := by
      rw [received, List.append_nil]
    have took := reading.took room log sent nothing
    rw [List.append_nil] at took
    exact took
  refine ⟨exchange.exchanged, fun fault => ?_⟩
  rcases fault with ⟨answer, signal, outside⟩
  cases (answer : HatPoll) with
  | cancelled =>
      apply failed .cancelled
      · exact HatPoll.noConfusion
      · exact Exchange.exchanged (still _ rfl rfl rfl)
  | unavailable =>
      apply failed .unavailable
      · exact HatPoll.noConfusion
      · exact Exchange.exchanged (still _ rfl rfl rfl)
  | ready =>
      apply next
      refine ⟨still _ rfl rfl rfl, reading.sent, ?_⟩
      show (client.starved || false) = false
      rw [reading.calm]
      rfl

omit leaving in
theorem wp_takeHat {length : Nat} {challenge : Nat × Bytes}
    {returned : Option Bytes → Client → Prop} (reading : Reading done challenge part client)
    (room : part.length + length ≤ hatSize)
    (failed : ∀ answer after, answer.getD [] = [] → Exchanged after → returned answer after)
    (next : ∀ byte rest after, Reading done challenge (part ++ byte :: rest) after →
      returned (some (byte :: rest)) after) :
    wp clientMachine During exited (call (.readHat length)) returned client := by
  refine ⟨reading.exchange.exchanged, fun fault => ?_⟩
  rcases fault with ⟨answer, signal, outside⟩
  have fits : ∀ chunk : Bytes, chunk.length ≤ length → (part ++ chunk).length ≤ hatSize := by
    intro chunk short
    rw [List.length_append]
    omega
  rcases (answer : Option Bytes) with _ | offered
  · apply failed none _ rfl
    exact Exchange.exchanged (reading.took (fits [] (Nat.zero_le _)) rfl rfl rfl)
  · have short : (offered.take length).length ≤ length := List.length_take_le _ _
    have took : Exchange done [challenge] (part ++ offered.take length)
        (clientMachine.perform (.readHat length) ⟨some offered, signal, outside⟩ client).2 :=
      reading.took (fits _ short) rfl rfl rfl
    cases kept : offered.take length with
    | nil =>
        apply failed (some (offered.take length))
        · rw [kept]
          rfl
        · exact took.exchanged
    | cons byte rest =>
        have result := next byte rest
          (clientMachine.perform (.readHat length) ⟨some offered, signal, outside⟩ client).2
        rw [← kept] at result
        apply result
        refine ⟨took, reading.sent, ?_⟩
        show (client.starved || (offered.take length).isEmpty) = false
        rw [reading.calm, kept]
        rfl

/-- By induction on what is missing of the token. -/
theorem wp_readHat {challenge : Nat × Bytes} {returned : Bytes → Client → Prop}
    (reading : Reading done challenge part client)
    (next : ∀ hat after, Reading done challenge hat after → hat.length = hatSize →
      returned hat after) :
    wp clientMachine During exited (readHat part) returned client := by
  induction left : hatSize - part.length using Nat.strong_induction_on generalizing part client with
  | _ left ih =>
      rw [readHat]
      apply wp_ite
      · intro more
        apply wp_uncancelled leaving reading.exchange.exchanged
        intro first same
        apply wp_seq
        apply wp_pollHat (reading.unmoved same)
        · intro polled second unready exchanged
          cases polled with
          | cancelled => exact leaving 1 second exchanged
          | unavailable => exact wp_complain leaving exchanged
          | ready => exact absurd rfl unready
        · intro second ready
          apply wp_seq
          apply wp_takeHat ready
          · omega
          · intro answer third empty exchanged
            rcases answer with _ | _ | ⟨byte, rest⟩
            · exact wp_complain leaving exchanged
            · exact wp_complain leaving exchanged
            · cases empty
          · intro byte rest third took
            refine ih _ ?_ took rfl
            rw [List.length_append, List.length_cons]
            omega
      · intro enough
        have bounded : part.length ≤ hatSize * 1 := reading.exchange.bounded
        exact next part client reading (by omega)

end Pipes

/-! #### Both together -/

/-- Receive the token and submit it. -/
theorem wp_authorizeEnrol {challenge : Bytes} {returned : Int → Client → Prop}
    (posting : Posting done (session, challenge) [] client)
    (failed : ∀ after, Exchanged after → returned (-1) after)
    (next : ∀ after, Settled (done.length + 1) after → returned 0 after) :
    wp clientMachine During exited (authorizeEnrol session true challenge) returned client := by
  rw [authorizeEnrol, returning, wp_onExit]
  have leaving : ∀ (_ : Nat) after, Exchanged after →
      wp clientMachine During exited (.done (-1)) returned after := fun _ after => failed after
  have unsent : Posting done (session, [] ++ challenge) [] client := posting
  apply wp_seq
  refine wp_ite (fun _ => ?_) fun wrong => absurd rfl wrong
  apply wp_writeChallenge leaving unsent
  intro first posted
  apply wp_seq
  apply wp_beside (outside_printf _) posted.exchange.exchanged
  intro _ second same
  apply wp_seq
  apply wp_readHat leaving (posted.reading.unmoved same)
  intro hat third reading full
  apply wp_ite
  · exact fun _ => wp_complain leaving reading.exchange.exchanged
  · intro good
    have carries := not_not.mp good
    apply wp_seq
    apply wp_beside (outside_allocate _) reading.exchange.exchanged
    intro allocated fourth same
    have ready := reading.unmoved same
    apply wp_seq
    refine wp_ite (fun _ => ?_) fun _ => leaving 1 fourth ready.exchange.exchanged
    have came : ∀ past after, past.session = session → past.request = hatRequest hat →
        Logged past fourth after → Settled (done.length + 1) after := by
      intro past after named sent logged
      have silent : challengeOf past = none := by
        rw [challengeOf, sent]
        rfl
      have token : tokenOf past = some (session, hat) := by
        rw [tokenOf, sent, named]
        rfl
      refine ⟨_, ?_, ready.submits logged silent token full carries, logged.starved.trans ready.calm⟩
      rw [List.length_append, List.length_singleton]
    apply wp_seq
    apply wp_invoked ready.exchange.exchanged
    · exact fun past after named sent logged => (came past after named sent logged).exchanged
    · intro past fifth named sent logged
      have settled := came past fifth named sent logged
      apply wp_ite
      · exact fun _ => wp_complain leaving settled.exchanged
      · intro _
        apply wp_seq
        apply wp_beside (outside_printf _) settled.exchanged
        exact fun _ last same => next last (settled.unmoved same)

/-- A round is complete once it comes back with status 0. -/
theorem wp_authorize {rounds : Nat} {returned : Int → Client → Prop}
    (settled : Settled rounds client)
    (failed : ∀ after, Exchanged after → returned (-1) after)
    (next : ∀ after, Settled (rounds + 1) after → returned 0 after) :
    wp clientMachine During exited (authorize session true) returned client := by
  apply wp_seq
  apply wp_getEnrolChallenge settled failed
  intro done challenge first counted posting
  rw [← counted] at next
  exact wp_authorizeEnrol posting failed next

/-! ### The modes -/

section Modes

variable {α : Type} {rounds : Nat}

theorem sends_requireSingleTemplate : Sends apart (requireSingleTemplate session) := by
  apply sends_bind (sends_templateInventory session (by decide) (by decide))
  intro count
  exact sends_ite (sends_bind (sends_fprintf _) fun _ => trivial) trivial

section Leaving

variable (leaving : ∀ status after, Exchanged after → exited status after)

include leaving

theorem wp_sending {script : ClientScript α} {returned : α → Client → Prop}
    (sends : Sends apart script) (settled : Settled rounds client)
    (next : ∀ value after, Settled rounds after → returned value after) :
    wp clientMachine During exited script returned client := by
  apply wp_outside (outside_of_sends sends) settled.exchanged
  · exact fun status after _ => leaving status after
  · exact fun value after same => next value after (settled.unmoved same)

theorem wp_outIf {status : Int} {returned : Unit → Client → Prop} (exchanged : Exchanged client)
    (next : returned () client) :
    wp clientMachine During exited (outIf status) returned client :=
  wp_ite (fun _ => next) fun _ => leaving 1 client exchanged

/-- `if (script) goto out;` -/
theorem wp_checked {script : ClientScript Int} {rest : ClientScript α} {returned : α → Client → Prop}
    (sends : Sends apart script) (settled : Settled rounds client)
    (next : ∀ after, Settled rounds after → wp clientMachine During exited rest returned after) :
    wp clientMachine During exited
      (do
        outIf (← script)
        rest) returned client := by
  apply wp_seq
  apply wp_sending leaving sends settled
  intro status after still
  apply wp_seq
  exact wp_outIf leaving still.exchanged (next after still)

theorem wp_authorized {rest : ClientScript α} {returned : α → Client → Prop}
    (settled : Settled rounds client)
    (next : ∀ after, Settled (rounds + 1) after →
      wp clientMachine During exited rest returned after) :
    wp clientMachine During exited
      (do
        outIf (← authorize session true)
        rest) returned client := by
  apply wp_seq
  apply wp_authorize settled
  · intro after exchanged
    apply wp_seq
    exact wp_ite (fun wrong => absurd wrong (by decide)) fun _ => leaving 1 after exchanged
  · intro after complete
    apply wp_seq
    exact wp_outIf leaving complete.exchanged (next after complete)

theorem wp_beginEnrol {existing : Bool} {returned : Unit → Client → Prop}
    (settled : Settled 0 client) (next : ∀ after, Settled 1 after → returned () after) :
    wp clientMachine During exited (beginEnrol session existing) returned client := by
  apply wp_checked leaving (sends_query session (by decide)) settled
  intro first settled
  apply wp_checked leaving (sends_initHwAuth session (by decide)) settled
  intro second settled
  apply wp_checked leaving (sends_query session (by decide)) settled
  intro third settled
  have loads : Sends apart
      (if existing then loadDatabase session else query session .bioLoadEmptyDb) := by
    apply sends_ite
    · exact sends_loadDatabase session (by decide) (by decide) (by decide)
    · exact sends_query session (by decide)
  apply wp_checked leaving loads settled
  intro fourth settled
  apply wp_checked leaving (sends_query session (by decide)) settled
  intro fifth settled
  have instances : Sends apart (if existing then query session .bioLoadInstanceData else pure 0) :=
    sends_ite (sends_query session (by decide)) trivial
  apply wp_checked leaving instances settled
  intro sixth settled
  apply wp_authorized leaving settled
  intro seventh settled
  apply wp_seq
  apply wp_sending leaving (sends_query session (by decide)) settled
  intro status last settled
  exact wp_outIf leaving settled.exchanged (next last settled)

variable {returned : Int → Client → Prop} {existing : Bool}
  (next : ∀ result after, Exchanged after → (result = 0 → Settled 2 after) → returned result after)

include next

theorem wp_finishEnrol (settled : Settled 1 client) :
    wp clientMachine During exited (finishEnrol session existing) returned client := by
  apply wp_seq
  apply wp_beside (outside_printf _) settled.exchanged
  intro _ first same
  apply wp_seq
  apply wp_authorize (settled.unmoved same)
  · intro second exchanged
    exact wp_ite (fun _ => wp_complain leaving exchanged) fun zero => absurd (by decide) zero
  · intro second settled
    refine wp_ite (fun wrong => absurd rfl wrong) fun _ => ?_
    apply wp_checked leaving (sends_query session (by decide)) settled
    intro third settled
    have counts : Sends apart
        (runIf (¬existing = true) (requireSingleTemplate session)) :=
      sends_runIf sends_requireSingleTemplate
    apply wp_seq
    apply wp_sending leaving counts settled
    intro _ fourth settled
    apply wp_seq
    apply wp_outside outside_storeDatabase settled.exchanged
    · exact fun status after _ => leaving status after
    · intro stored last same
      have still := settled.unmoved same
      exact next _ last still.exchanged fun _ => still

/-- By induction on the samples that are left. -/
theorem wp_enrolLoop {attempts : Nat} (settled : Settled 1 client) :
    wp clientMachine During exited (enrolLoop session existing attempts) returned client := by
  induction attempts generalizing client with
  | zero => exact wp_complain leaving settled.exchanged
  | succ attempts ih =>
      have again : ∀ {client : Client}, Settled 1 client → wp clientMachine During exited
          ((liftFinger session).bind fun _ => enrolLoop session existing attempts)
          returned client := by
        intro client settled
        apply wp_seq
        apply wp_sending leaving (sends_liftFinger session (by decide) (by decide) (by decide))
          settled
        exact fun _ after settled => ih settled
      apply wp_uncancelled leaving settled.exchanged
      intro first same
      have settled := settled.unmoved same
      apply wp_seq
      apply wp_sending leaving (sends_printf _) settled
      intro _ second settled
      apply wp_seq
      apply wp_sending leaving (sends_waitFingerDown session (by decide)) settled
      intro down third settled
      refine wp_ite (fun _ => wp_complain leaving settled.exchanged) fun _ => ?_
      apply wp_seq
      apply wp_sending leaving (sends_query session (by decide)) settled
      intro captured fourth settled
      refine wp_ite (fun _ => leaving 1 fourth settled.exchanged) fun _ => ?_
      apply wp_ite
      · intro _
        apply wp_seq
        apply wp_sending leaving (sends_queryOutput session (by decide)) settled
        intro sampled fifth settled
        refine wp_ite (fun _ => leaving 1 fifth settled.exchanged) fun _ => ?_
        refine wp_ite (fun _ => wp_finishEnrol leaving next settled) fun _ => ?_
        apply wp_seq
        apply wp_sending leaving (sends_printf _) settled
        exact fun _ sixth settled => again settled
      · intro _
        apply wp_seq
        apply wp_sending leaving (sends_printf _) settled
        exact fun _ fifth settled => again settled

end Leaving

variable {returned : Int → Client → Prop}

/-- `goto out` makes the result one. -/
theorem wp_preflight {renew : Bool} (settled : Settled 0 client)
    (next : ∀ result after, Exchanged after →
      (result = 0 → Settled (if renew then 2 else 1) after) → returned result after) :
    wp clientMachine During exited (returning 1 (authPreflight session renew true)) returned
      client := by
  have leaving : ∀ (_ : Nat) after, Exchanged after →
      wp clientMachine During exited (.done 1) returned after := fun _ after exchanged =>
    next 1 after exchanged fun wrong => absurd wrong (by decide)
  rw [returning, wp_onExit]
  apply wp_checked leaving (sends_query session (by decide)) settled
  intro first settled
  apply wp_checked leaving (sends_initHwAuth session (by decide)) settled
  intro second settled
  apply wp_authorized leaving settled
  intro third settled
  have ends : ∀ {client : Client}, Settled (if renew then 2 else 1) client →
      wp clientMachine During (fun _ => wp clientMachine During exited (.done 1) returned)
        (do
          printf "auth_preflight=OK touch_not_collected=1 template_not_created=1\n"
          return 0) returned client := by
    intro client settled
    apply wp_seq
    apply wp_sending leaving (sends_printf _) settled
    exact fun _ after settled => next 0 after settled.exchanged fun _ => settled
  apply wp_seq
  apply wp_ite
  · intro renews
    rw [if_pos renews] at ends
    apply wp_authorized leaving settled
    intro fourth settled
    apply wp_sending leaving (sends_printf _) settled
    exact fun _ fifth settled => ends settled
  · intro single
    rw [if_neg single] at ends
    exact ends settled

theorem wp_bioPipeline {existing : Bool} (settled : Settled 0 client)
    (next : ∀ result after, Exchanged after → (result = 0 → Settled 2 after) →
      returned result after) :
    wp clientMachine During exited (returning 1 (bioPipeline session existing)) returned
      client := by
  have leaving : ∀ (_ : Nat) after, Exchanged after →
      wp clientMachine During exited (.done 1) returned after := fun _ after exchanged =>
    next 1 after exchanged fun wrong => absurd wrong (by decide)
  rw [returning, wp_onExit]
  apply wp_seq
  apply wp_beginEnrol leaving settled
  exact fun first settled => wp_enrolLoop leaving next settled

theorem wp_runMode {mode : Mode} (connected : connects mode = true)
    (settled : Settled 0 client)
    (next : ∀ result after, Exchanged after → (result = 0 → Settled (expectedRounds mode) after) →
      returned result after) :
    wp clientMachine During exited (returning 1 (runMode session mode)) returned client := by
  cases mode with
  | authPreflight given =>
      have given : given = true := connected
      subst given
      exact wp_preflight settled next
  | authPreflightRenew => exact wp_preflight settled next
  | bioPipeline existing => exact wp_bioPipeline settled next
  | «match» single updated => cases connected

/-- Behind the `out` label the exchange is over. -/
theorem wp_outSection {sensor : Option Nat} {result : Int} {rounds : Nat}
    (exchanged : Exchanged client) (settled : result = 0 → Settled rounds client)
    (next : ∀ result after, Exchanged after → (result = 0 → Settled rounds after) →
      returned result after) :
    wp clientMachine During exited (outSection sensor result) returned client := by
  apply wp_seq
  apply wp_beside outside_cancelled exchanged
  intro stopped first same
  have still : (if stopped then (1 : Int) else result) = 0 → Settled rounds first := by
    intro zero
    split at zero
    · cases zero
    · exact (settled zero).unmoved same
  cases sensor with
  | none => exact next _ first (exchanged.unmoved same) still
  | some session =>
      apply wp_seq
      apply wp_beside (outside_query (by decide)) (exchanged.unmoved same)
      intro slept second again
      apply next _ second ((exchanged.unmoved same).unmoved again)
      intro zero
      split at zero
      · exact (still zero).unmoved again
      · cases zero

/-- A script before the session exists. -/
theorem wp_early {script : ClientScript α} {returned : α → Client → Prop} {leaves : Nat → Prop}
    (only : script.Only (ClientOp.Sends fun _ => False) leaves) (settled : Settled rounds client)
    (left : ∀ status after, leaves status → Exchanged after → exited status after)
    (next : ∀ value after, Settled rounds after → returned value after) :
    wp clientMachine During exited script returned client := by
  have outside : Outside leaves script := by
    apply Prog.only_mono only _ fun _ => id
    intro operation sends
    apply apart_of_sends
    cases operation <;> first | exact sends | exact sends.elim
  apply wp_outside outside settled.exchanged left
  exact fun value after same => next value after (settled.unmoved same)

theorem wp_main {mode : Mode} (connected : connects mode = true)
    (settled : Settled 0 client)
    (left : ∀ status after, Early status → Exchanged after → exited status after)
    (next : ∀ result after, Exchanged after → (result = 0 → Settled (expectedRounds mode) after) →
      returned result after) :
    wp clientMachine During exited (main mode) returned client := by
  have failed : ∀ {sensor : Option Nat} {client : Client}, Exchanged client →
      wp clientMachine During exited (outSection sensor 1) returned client := fun exchanged =>
    wp_outSection exchanged (fun wrong => absurd wrong (by decide)) next
  apply wp_seq
  apply wp_early (only_prologue mode) settled left
  intro _ first settled
  apply wp_seq
  apply wp_early only_attach settled left
  intro attached second settled
  cases attached with
  | none => exact failed settled.exchanged
  | some session =>
      apply wp_seq
      apply wp_beside (outside_query (by decide)) settled.exchanged
      intro initialized third same
      have settled := settled.unmoved same
      refine wp_ite (fun _ => failed settled.exchanged) fun _ => ?_
      apply wp_seq
      apply wp_runMode connected settled
      exact fun result fourth exchanged complete => wp_outSection exchanged complete next

end Modes

end Rules

/-- Every run of the client moves its rounds in order; status 0 is left to one
whose rounds are all complete. -/
theorem client_exchanged {mode : Mode} (connected : connects mode = true)
    {found : Option Bytes} {after : ClientScript Int × Client}
    (run : Reaches clientMachine (main mode, Client.start found) after) :
    Exchanged after.2 ∧ (∀ status, after.1 = .exit status → status ≠ 0) ∧
    ∀ value, after.1 = .done value → value = 0 → Settled (expectedRounds mode) after.2 := by
  have start : Settled 0 (Client.start found) := by
    refine ⟨[], rfl, ⟨rfl, Nat.zero_le 1, ?_, List.Forall₂.nil, List.prefix_refl _,
      List.prefix_refl _, rfl, Nat.zero_le _, fun some => absurd rfl some⟩, rfl⟩
    exact fun challenge member => absurd member List.not_mem_nil
  have holds : wp clientMachine During (fun status after => status ≠ 0 ∧ Exchanged after)
      (main mode)
      (fun value after => Exchanged after ∧ (value = 0 → Settled (expectedRounds mode) after))
      (Client.start found) := by
    apply wp_main connected start
    · exact fun status after early exchanged => ⟨early.nonzero, exchanged⟩
    · exact fun result after exchanged complete => ⟨exchanged, complete⟩
  have safe := wp_sound holds run
  rcases after with ⟨script, client⟩
  cases script with
  | done value =>
      refine ⟨safe.1, fun _ wrong => ?_, fun _ same => ?_⟩
      · cases wrong
      · cases same
        exact safe.2
  | exit status =>
      refine ⟨safe.2, fun _ same => ?_, fun _ wrong => ?_⟩
      · cases same
        exact safe.1
      · cases wrong
  | act operation next =>
      refine ⟨safe, fun _ wrong => ?_, fun _ wrong => ?_⟩
      · cases wrong
      · cases wrong

end Liuqin.Fingerprint.Rounds
