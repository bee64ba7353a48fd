/-
One rule for each step of the client, over the log it leaves.

A step is described by the invocations it adds to the log and by the file of
this run it leaves alone; what another process does at the output path is never
described.
-/

import Mathlib.Data.List.Basic
import Liuqin.Fingerprint.Sends

namespace Liuqin.Fingerprint

open Liuqin.Library.Program
open scoped List

/-! ### What a step adds -/

structure Grown (before after : Client) (added : List Invocation) : Prop where
  log : after.log = added ++ before.log
  own : ∀ bytes synced, after.output = .own bytes synced ↔ before.output = .own bytes synced
  stdout : before.stdout <+: after.stdout

theorem Grown.refl (client : Client) : Grown client client [] :=
  ⟨rfl, fun _ _ => Iff.rfl, List.prefix_refl _⟩

theorem Grown.trans {first second third : Client} {early late : List Invocation}
    (front : Grown first second early) (back : Grown second third late) :
    Grown first third (late ++ early) := by
  constructor
  · rw [back.log, front.log, List.append_assoc]
  · intro bytes synced
    rw [back.own, front.own]
  · exact front.stdout.trans back.stdout

/-- Only invocations of allowed codes were added. -/
def Later (allowed : Nat × Nat → Prop) (before after : Client) : Prop :=
  ∃ added, Grown before after added ∧ ∀ past ∈ added, allowed past.request.code

theorem Later.refl (allowed : Nat × Nat → Prop) (client : Client) : Later allowed client client :=
  ⟨[], Grown.refl client, fun _ member => absurd member List.not_mem_nil⟩

theorem Grown.later {allowed : Nat × Nat → Prop} {before after : Client}
    (grown : Grown before after []) : Later allowed before after :=
  ⟨[], grown, fun _ member => absurd member List.not_mem_nil⟩

theorem Later.grown {before after : Client} (later : Later (fun _ => False) before after) :
    Grown before after [] := by
  obtain ⟨added, grown, codes⟩ := later
  cases added with
  | nil => exact grown
  | cons past rest => exact (codes past List.mem_cons_self).elim

theorem Later.trans {allowed : Nat × Nat → Prop} {first second third : Client}
    (front : Later allowed first second) (back : Later allowed second third) :
    Later allowed first third := by
  obtain ⟨early, grown, earlyAllowed⟩ := front
  obtain ⟨late, grownLater, lateAllowed⟩ := back
  refine ⟨late ++ early, grown.trans grownLater, fun past member => ?_⟩
  rcases List.mem_append.mp member with inLate | inEarly
  · exact lateAllowed past inLate
  · exact earlyAllowed past inEarly

/-- The same of the log alone. -/
def Appended (allowed : Nat × Nat → Prop) (before after : Client) : Prop :=
  ∃ added, after.log = added ++ before.log ∧ ∀ past ∈ added, allowed past.request.code

theorem Later.appended {allowed : Nat × Nat → Prop} {before after : Client}
    (later : Later allowed before after) : Appended allowed before after := by
  obtain ⟨added, grown, codes⟩ := later
  exact ⟨added, grown.log, codes⟩

theorem Appended.of_eq {allowed : Nat × Nat → Prop} {before after : Client}
    (same : after.log = before.log) : Appended allowed before after :=
  ⟨[], same, fun _ member => absurd member List.not_mem_nil⟩

theorem Grown.later_one {allowed : Nat × Nat → Prop} {before after : Client} {past : Invocation}
    (grown : Grown before after [past]) (holds : allowed past.request.code) :
    Later allowed before after := by
  refine ⟨[past], grown, fun other member => ?_⟩
  rw [List.mem_singleton.mp member]
  exact holds

theorem Grown.appended {allowed : Nat × Nat → Prop} {before after : Client} {past : Invocation}
    (grown : Grown before after [past]) (holds : allowed past.request.code) :
    Appended allowed before after := (grown.later_one holds).appended

theorem Appended.trans {allowed : Nat × Nat → Prop} {first second third : Client}
    (front : Appended allowed first second) (back : Appended allowed second third) :
    Appended allowed first third := by
  obtain ⟨early, earlyLog, earlyAllowed⟩ := front
  obtain ⟨late, lateLog, lateAllowed⟩ := back
  refine ⟨late ++ early, by rw [lateLog, earlyLog, List.append_assoc], fun past member => ?_⟩
  rcases List.mem_append.mp member with inLate | inEarly
  · exact lateAllowed past inLate
  · exact earlyAllowed past inEarly

theorem Appended.mem {allowed : Nat × Nat → Prop} {before after : Client} {past : Invocation}
    (appended : Appended allowed before after) (member : past ∈ before.log) : past ∈ after.log := by
  obtain ⟨added, log, _⟩ := appended
  rw [log]
  exact List.mem_append_right added member

theorem Appended.mono {allowed other : Nat × Nat → Prop} {before after : Client}
    (appended : Appended allowed before after) (wider : ∀ code, allowed code → other code) :
    Appended other before after := by
  obtain ⟨added, log, codes⟩ := appended
  exact ⟨added, log, fun past member => wider _ (codes past member)⟩

theorem disturbed_own (output : Output) (outside : Option (Option Bytes)) (bytes : Bytes)
    (synced : Bool) : output.disturbed outside = .own bytes synced ↔ output = .own bytes synced := by
  cases output with
  | own written durable => rfl
  | absent => rcases outside with _ | _ | _ <;> simp [Output.disturbed]
  | foreign found => rcases outside with _ | _ | _ <;> simp [Output.disturbed]

theorem disturbed_grown (client : Client) (signal : Bool) (outside : Option (Option Bytes)) :
    Grown client (client.disturbed signal outside) [] :=
  ⟨rfl, disturbed_own client.output outside, List.prefix_refl _⟩

/-- System calls that neither invoke the application nor touch the file. -/
def ClientOp.Silent : ClientOp → Prop
  | .invoke _ _ => False
  | .createOutput => False
  | .writeOutput _ => False
  | .fsyncOutput => False
  | .unlinkOutput => False
  | _ => True

theorem clientReact_silent {operation : ClientOp} (silent : operation.Silent)
    (answer : ClientAnswer operation) (client : Client) :
    Grown client (clientReact operation answer client).2 [] := by
  cases operation with
  | invoke session request => exact silent.elim
  | createOutput => exact silent.elim
  | writeOutput bytes => exact silent.elim
  | fsyncOutput => exact silent.elim
  | unlinkOutput => exact silent.elim
  | print text => exact ⟨rfl, fun _ _ => Iff.rfl, List.prefix_append _ _⟩
  | _ => exact ⟨rfl, fun _ _ => Iff.rfl, List.prefix_refl _⟩

theorem perform_silent {operation : ClientOp} (silent : operation.Silent)
    (fault : ClientFault operation) (client : Client) :
    Grown client (clientMachine.perform operation fault client).2 [] :=
  (disturbed_grown client fault.signal fault.outside).trans (clientReact_silent silent _ _)

/-- The log entry of a TEE command. -/
def Reply.invocation (reply : Reply) (session : Nat) (request : Request) : Invocation :=
  { session := session, request := request, status := reply.status, payload := reply.payload }

theorem perform_invoke (session : Nat) (request : Request)
    (fault : ClientFault (.invoke session request)) (client : Client) :
    Grown client (clientMachine.perform _ fault client).2
      [Reply.invocation fault.answer session request] :=
  ⟨rfl, (disturbed_grown client fault.signal fault.outside).own, List.prefix_refl _⟩

theorem ClientOp.Sends.cases {allowed : Nat × Nat → Prop} {operation : ClientOp}
    (sends : operation.Sends allowed) :
    operation.Silent ∨ ∃ session request, operation = .invoke session request ∧
      allowed request.code := by
  cases operation with
  | invoke session request => exact Or.inr ⟨session, request, rfl, sends⟩
  | createOutput => exact sends.elim
  | writeOutput bytes => exact sends.elim
  | fsyncOutput => exact sends.elim
  | unlinkOutput => exact sends.elim
  | _ => exact Or.inl trivial

theorem perform_sends {allowed : Nat × Nat → Prop} {operation : ClientOp}
    (sends : operation.Sends allowed) (fault : ClientFault operation) (client : Client) :
    Later allowed client (clientMachine.perform operation fault client).2 := by
  rcases sends.cases with silent | ⟨session, request, rfl, allowedCode⟩
  · exact (perform_silent silent fault client).later
  · refine ⟨_, perform_invoke session request fault client, fun past member => ?_⟩
    rw [List.mem_singleton.mp member]
    exact allowedCode

/-! ### The two messages -/

section Messages

variable {leaves : Nat → Prop}

theorem silent_outUnless (works : Bool) (out : leaves 1) :
    (outUnless works).Only ClientOp.Silent leaves := Prog.only_ite trivial out

theorem silent_writeChallenge (bytes : Bytes) (out : leaves 1) :
    (writeChallenge bytes).Only ClientOp.Silent leaves := by
  fun_induction writeChallenge bytes with
  | case1 => trivial
  | case2 bytes more ih =>
      refine Prog.only_bind ⟨trivial, fun _ => trivial⟩ fun stopped => ?_
      refine Prog.only_bind (silent_outUnless _ out) fun _ => ⟨trivial, fun answer => ?_⟩
      rcases (answer : Option Nat) with _ | count | count
      · exact ⟨trivial, fun _ => out⟩
      · exact ⟨trivial, fun _ => out⟩
      · exact ih count

theorem silent_readHat (hat : Bytes) (out : leaves 1) :
    (readHat hat).Only ClientOp.Silent leaves := by
  fun_induction readHat hat with
  | case1 hat more ih =>
      refine Prog.only_bind ⟨trivial, fun _ => trivial⟩ fun stopped => ?_
      refine Prog.only_bind (silent_outUnless _ out) fun _ => ⟨trivial, fun polled => ?_⟩
      cases (polled : HatPoll) with
      | cancelled => exact out
      | unavailable => exact ⟨trivial, fun _ => out⟩
      | ready =>
          refine ⟨trivial, fun answer => ?_⟩
          rcases (answer : Option Bytes) with _ | _ | ⟨byte, rest⟩
          · exact ⟨trivial, fun _ => out⟩
          · exact ⟨trivial, fun _ => out⟩
          · exact ih byte rest
  | case2 => trivial

end Messages

/-! ### Codes -/

/-- A command of this code that was answered with status 0 in the session. -/
structure Succeeded (session : Nat) (code : Nat × Nat) (past : Invocation) : Prop where
  session : past.session = session
  code : past.request.code = code
  status : past.status = 0

def enumerateCode : Nat × Nat := (11, 8)

/-- The two codes of an inventory. -/
def counting (code : Nat × Nat) : Prop := code = enumerateCode ∨ code = (11, 11)

/-! ### Rules -/

section Rules

variable {during : ClientOp → Client → Prop} {exited : Nat → Client → Prop} {client : Client}

/-- The frame rule: a script that sends only allowed commands. -/
theorem wp_sends {α : Type} {allowed : Nat × Nat → Prop} {script : ClientScript α}
    {returned : α → Client → Prop} (sends : Sends allowed script)
    (ongoing : ∀ operation : ClientOp, operation.Sends allowed →
      ∀ state, Later allowed client state → during operation state)
    (leaving : ∀ status after, Later allowed client after → exited status after)
    (returning : ∀ value after, Later allowed client after → returned value after) :
    wp clientMachine during exited script returned client := by
  have kept : ∀ operation, ClientOp.Sends allowed operation → ∀ fault state,
      Later allowed client state → Later allowed client (clientMachine.perform operation fault state).2 :=
    fun _ holds fault state later => later.trans (perform_sends holds fault state)
  exact wp_of_only sends kept ongoing (fun status _ after later => leaving status after later)
    returning (Later.refl allowed client)

theorem wp_silent {operation : ClientOp} {returned : ClientAnswer operation → Client → Prop}
    (silent : operation.Silent) (ongoing : during operation client)
    (next : ∀ answer after, Grown client after [] → returned answer after) :
    wp clientMachine during exited (call operation) returned client :=
  ⟨ongoing, fun fault => next _ _ (perform_silent silent fault client)⟩

theorem wp_invokeTee {session : Nat} {request : Request} {returned : Reply → Client → Prop}
    (ongoing : during (.invoke session request) client)
    (next : ∀ (reply : Reply) after, Grown client after [reply.invocation session request] →
      returned reply after) :
    wp clientMachine during exited (invokeTee session request) returned client :=
  ⟨ongoing, fun fault => next fault.answer _ (perform_invoke session request fault client)⟩

/-- The same, exits only with certain statuses. -/
theorem wp_only {α : Type} {allowed : Nat × Nat → Prop} {leaves : Nat → Prop}
    {script : ClientScript α} {returned : α → Client → Prop}
    (only : script.Only (ClientOp.Sends allowed) leaves)
    (ongoing : ∀ operation : ClientOp, operation.Sends allowed → ∀ state, during operation state)
    (leaving : ∀ status, leaves status → ∀ after, exited status after)
    (returning : ∀ value after, Later allowed client after → returned value after) :
    wp clientMachine during exited script returned client := by
  have kept : ∀ operation, ClientOp.Sends allowed operation → ∀ fault state,
      Later allowed client state → Later allowed client (clientMachine.perform operation fault state).2 :=
    fun _ holds fault state later => later.trans (perform_sends holds fault state)
  exact wp_of_only only kept (fun operation sends state _ => ongoing operation sends state)
    (fun status leaves after _ => leaving status leaves after) returning (Later.refl allowed client)

theorem wp_silently {α : Type} {script : ClientScript α} {returned : α → Client → Prop}
    (silent : script.Only ClientOp.Silent fun _ => True)
    (ongoing : ∀ operation : ClientOp, operation.Silent → ∀ state, during operation state)
    (leaving : ∀ status after, Grown client after [] → exited status after)
    (returning : ∀ value after, Grown client after [] → returned value after) :
    wp clientMachine during exited script returned client := by
  have kept : ∀ operation, ClientOp.Silent operation → ∀ fault state,
      Grown client state [] → Grown client (clientMachine.perform operation fault state).2 [] :=
    fun _ quiet fault state grown => grown.trans (perform_silent quiet fault state)
  exact wp_of_only silent kept (fun operation quiet state _ => ongoing operation quiet state)
    (fun status _ after grown => leaving status after grown) returning (Grown.refl client)

theorem wp_runIf {condition : Prop} [Decidable condition] {script : ClientScript Unit}
    {returned : Unit → Client → Prop}
    (body : condition → wp clientMachine during exited script returned client)
    (next : ¬condition → returned () client) :
    wp clientMachine during exited (runIf condition script) returned client := wp_ite body next

section Calm

variable (calm : ∀ operation : ClientOp, operation.Silent → ∀ after, during operation after)

include calm

theorem wp_call {operation : ClientOp} {returned : ClientAnswer operation → Client → Prop}
    (silent : operation.Silent)
    (next : ∀ answer after, Grown client after [] → returned answer after) :
    wp clientMachine during exited (call operation) returned client :=
  wp_silent silent (calm operation silent client) next

section Say

variable {returned : Unit → Client → Prop} (next : ∀ after, Grown client after [] → returned () after)

include next

theorem wp_printf (text : String) : wp clientMachine during exited (printf text) returned client :=
  wp_call calm trivial fun _ => next

theorem wp_fprintf (text : String) : wp clientMachine during exited (fprintf text) returned client :=
  wp_call calm trivial fun _ => next

theorem wp_printIf (condition : Prop) [Decidable condition] (text : String) :
    wp clientMachine during exited (runIf condition (printf text)) returned client :=
  wp_runIf (fun _ => wp_printf calm next text) fun _ => next _ (Grown.refl client)

theorem wp_fprintIf (condition : Prop) [Decidable condition] (text : String) :
    wp clientMachine during exited (runIf condition (fprintf text)) returned client :=
  wp_runIf (fun _ => wp_fprintf calm next text) fun _ => next _ (Grown.refl client)

theorem wp_reportQuery (kind : QueryKind) (status : Int) (payload : Memory) :
    wp clientMachine during exited (reportQuery kind status payload) returned client := by
  cases kind with
  | captureEnrol =>
      refine wp_seq (wp_printf calm (fun one first => ?_) _)
      refine wp_seq (wp_printf calm (fun two second => ?_) _)
      refine wp_seq (wp_printIf calm (fun three third => ?_) _ _)
      refine wp_printIf calm (fun four fourth => ?_) _ _
      exact next _ (first.trans (second.trans (third.trans fourth)))
  | bioEnrol => exact wp_printIf calm next _ _
  | bioEndEnrol => exact wp_printIf calm next _ _
  | _ => exact next _ (Grown.refl client)

end Say

/-- A TEE command is logged as it went. -/
theorem wp_invokePayload {session : Nat} {request : Request}
    {returned : Int × Memory → Client → Prop} (ongoing : during (.invoke session request) client)
    (next : ∀ status payload after,
      Grown client after [{ session := session, request := request, status := status
                            payload := payload }] → returned (status, payload) after) :
    wp clientMachine during exited (invokePayload session request) returned client := by
  refine wp_seq (wp_invokeTee ongoing fun reply first grown => ?_)
  refine wp_seq (wp_printIf calm (fun second printed => ?_) _ _)
  refine wp_seq (wp_fprintIf calm (fun third complained => ?_) _ _)
  exact next _ _ _ (grown.trans (printed.trans complained))

theorem wp_allocateShared {returned : Bool → Client → Prop} (size : Nat)
    (next : ∀ works after, Grown client after [] → returned works after) :
    wp clientMachine during exited (allocateShared size) returned client :=
  wp_call calm trivial next

theorem wp_operationCancelled {returned : Bool → Client → Prop}
    (next : ∀ stopped after, Grown client after [] → returned stopped after) :
    wp clientMachine during exited operationCancelled returned client :=
  wp_call calm trivial next

/-- A query that could not be allocated is not sent. -/
theorem wp_queryOutput {session : Nat} {kind : QueryKind} {returned : Int × Nat → Client → Prop}
    (ongoing : ∀ after, Grown client after [] → during (.invoke session kind.request) after)
    (unsent : ∀ after, Grown client after [] → returned (-1, 0) after)
    (next : ∀ status payload after,
      Grown client after [{ session := session, request := kind.request, status := status
                            payload := payload }] → returned (status, wordAt payload 2) after) :
    wp clientMachine during exited (queryOutput session kind) returned client := by
  refine wp_seq (wp_allocateShared calm _ fun works first allocated => wp_ite ?_ ?_)
  · intro _
    refine wp_seq (wp_printf calm (fun second printed => ?_) _)
    have calmly := allocated.trans printed
    refine wp_seq (wp_invokePayload calm (ongoing _ calmly) fun status payload third invoked => ?_)
    refine wp_seq (wp_reportQuery calm (fun fourth reported => ?_) _ _ _)
    exact next _ _ _ (calmly.trans (invoked.trans reported))
  · intro _
    exact wp_seq (wp_fprintf calm (fun second printed => unsent _ (allocated.trans printed)) _)

theorem wp_query {session : Nat} {kind : QueryKind} {returned : Int → Client → Prop}
    (ongoing : ∀ after, Grown client after [] → during (.invoke session kind.request) after)
    (unsent : ∀ after, Grown client after [] → returned (-1) after)
    (next : ∀ status payload after,
      Grown client after [{ session := session, request := kind.request, status := status
                            payload := payload }] → returned status after) :
    wp clientMachine during exited (query session kind) returned client := by
  exact wp_seq (wp_queryOutput calm ongoing unsent next)

theorem wp_dbCommand {session command : Nat} (word3 word4 : Nat) (chunk : Bytes)
    {returned : Int × Memory → Client → Prop}
    (ongoing : ∀ request after, request.code = (4, command) → Grown client after [] →
      during (.invoke session request) after)
    (unsent : ∀ payload after, Grown client after [] → returned (-1, payload) after)
    (next : ∀ status payload after,
      Grown client after [{ session := session
                            request := { module := 4, command := command, word3 := word3
                                         word4 := word4, at16 := chunk }
                            status := status, payload := payload }] →
      returned (status, payload) after) :
    wp clientMachine during exited (dbCommand session command word3 word4 chunk) returned client := by
  refine wp_seq (wp_allocateShared calm _ fun works first allocated => wp_ite ?_ ?_)
  · intro _
    refine wp_seq (wp_printf calm (fun second printed => ?_) _)
    have calmly := allocated.trans printed
    refine wp_invokePayload calm (ongoing _ _ rfl calmly) fun status payload third invoked => ?_
    exact next _ _ _ (calmly.trans invoked)
  · intro _
    exact wp_seq (wp_fprintf calm (fun second printed => unsent _ _ (allocated.trans printed)) _)

/-- A count is what the enumeration reported. -/
theorem wp_templateInventory {session : Nat} {returned : Option Nat → Client → Prop}
    (sending : ∀ request after, counting request.code → during (.invoke session request) after)
    (failed : ∀ after, Later counting client after → returned none after)
    (next : ∀ past added count after, Grown client after added →
      (∀ other ∈ added, counting other.request.code) → past ∈ added →
      Succeeded session enumerateCode past → wordAt past.payload 0 = 11 →
      wordAt past.payload 1 = 8 → wordAt past.payload 2 = count → returned (some count) after) :
    wp clientMachine during exited (templateInventory session) returned client := by
  refine wp_seq (wp_allocateShared calm _ fun works first allocated => wp_ite (fun _ => ?_)
    fun _ => wp_seq (wp_fprintf calm (fun last printed => ?_) _))
  · refine wp_seq (wp_invokePayload calm (sending _ _ (Or.inl rfl)) fun enumerated payload second grown => ?_)
    refine wp_seq (wp_printf calm (fun third printed => ?_) _)
    have asked := (allocated.trans grown).trans printed
    have came : Later counting client third := asked.later_one (Or.inl rfl)
    refine wp_ite (fun _ => wp_seq (wp_fprintf calm (fun last printed => ?_) _)) fun valid => ?_
    · exact failed last (came.trans printed.later)
    · refine wp_seq (wp_printf calm (fun fourth counted => ?_) _)
      refine wp_seq (wp_invokePayload calm (sending _ _ (Or.inr rfl)) fun identified other fifth again => ?_)
      refine wp_seq (wp_printf calm (fun sixth told => ?_) _)
      refine wp_seq (wp_printIf calm (fun seventh shown => ?_) _ _)
      refine wp_seq (wp_printf calm (fun last ended => ?_) _)
      have whole := asked.trans (counted.trans (again.trans (told.trans (shown.trans ended))))
      have codes : ∀ one two : Invocation, one.request.code = (11, 11) →
          two.request.code = enumerateCode → ∀ past ∈ [one, two], counting past.request.code := by
        intro one two first second past member
        rcases List.mem_cons.mp member with rfl | member
        · exact Or.inr first
        · rw [List.mem_singleton.mp member]
          exact Or.inl second
      by_cases bad : enumerated ≠ 0 ∨ identified ≠ 0
      · rw [if_pos bad]
        exact failed last ⟨_, whole, codes _ _ rfl rfl⟩
      · have good : enumerated = 0 := not_not.mp fun wrong => bad (Or.inl wrong)
        have plain : wordAt payload 0 = 11 ∧ wordAt payload 1 = 8 := by
          simp only [good, true_and, not_or, not_not] at valid
          exact ⟨valid.1, valid.2.1⟩
        rw [if_neg bad, if_pos good]
        exact next _ _ _ last whole (codes _ _ rfl rfl) (List.mem_cons_of_mem _ List.mem_cons_self)
          ⟨rfl, rfl, good⟩ plain.1 plain.2 rfl
  · exact failed last (allocated.trans printed).later

end Calm

end Rules

end Liuqin.Fingerprint
