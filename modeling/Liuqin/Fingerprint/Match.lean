/-
What a match attempt of the client shows in its log.

An exit status of 0 or 3 comes only from the end of match_existing; every step
before it leaves its command in the log, and what is in the log stays there.
-/

import Liuqin.Fingerprint.Export

namespace Liuqin.Fingerprint

open Liuqin.Library.Program
open scoped List

def importCode : Nat × Nat := (4, 17)
def operationCode : Nat × Nat := (3, 1)
def authResultCode : Nat × Nat := (3, 4)
def identifyCode : Nat × Nat := (11, 4)
def updateCode : Nat × Nat := (11, 5)
def touchCode : Nat × Nat := (10, 4)

/-! ### Evidence -/

/-- The database was imported to its end and then found to hold one template. -/
structure Imported (session : Nat) (last inventory : Invocation) : Prop where
  imported : Succeeded session importCode last
  counted : Succeeded session enumerateCode inventory
  shape : wordAt inventory.payload 0 = 11 ∧ wordAt inventory.payload 1 = 8
  single : wordAt inventory.payload 2 = 1

/-- The application took an operation ID that is not zero. -/
structure Opened (session : Nat) (operation : Invocation) : Prop where
  accepted : Succeeded session operationCode operation
  fresh : operation.request.at8 ≠ List.replicate 8 0

/-- A touch that was captured and looked up. -/
structure Touched (session : Nat) (capture identify : Invocation) : Prop where
  captured : Succeeded session touchCode capture
  identified : Succeeded session identifyCode identify

/-- The auth result names version 0 and the operation ID. -/
structure Vouches (session : Nat) (operation result : Invocation) : Prop where
  given : Succeeded session authResultCode result
  carries : Carries (bytesAt result.payload 16 hatSize) operation.request.at8

def Said (line : String) (client : Client) : Prop := line.toList <:+: client.stdout

/-- The template update, and the export when it asked for one. -/
structure Updated (session : Nat) (update : Invocation) (client : Client) : Prop where
  updated : Succeeded session updateCode update
  exported : wordAt update.payload 2 ≠ 0 → Exported client ∧ Said updateRequiredLine client

/-- What a match that ended in this update went through, in this order. -/
def MatchedBy (update : Invocation) (client : Client) : Prop :=
  ∃ session last inventory operation capture identify result,
    [update, result, identify, capture, operation, inventory, last] <+ client.log ∧
    Imported session last inventory ∧ Opened session operation ∧
    Touched session capture identify ∧ wordAt identify.payload 2 ≠ 0 ∧
    Vouches session operation result ∧ Updated session update client

/-- What status 0 of a match attempt stands for. -/
def Matched (client : Client) : Prop := ∃ update, MatchedBy update client

/-- What status 3 stands for. -/
def Missed (client : Client) : Prop :=
  ∃ session last inventory operation capture identify,
    [identify, capture, operation, inventory, last] <+ client.log ∧
    Imported session last inventory ∧ Opened session operation ∧
    Touched session capture identify ∧ wordAt identify.payload 2 = 0

/-- A result of match_existing. -/
def Attempted (value : Int) (client : Client) : Prop :=
  value = 0 ∧ Matched client ∨ value = 3 ∧ Missed client

/-! ### What stays -/

theorem Said.mono {line : String} {before after : Client} (said : Said line before)
    (grown : before.stdout <+: after.stdout) : Said line after := said.trans grown.isInfix

theorem Later.stdout {allowed : Nat × Nat → Prop} {before after : Client}
    (later : Later allowed before after) : before.stdout <+: after.stdout := by
  obtain ⟨_, grown, _⟩ := later
  exact grown.stdout

theorem Updated.later {session : Nat} {update : Invocation} {before after : Client}
    {allowed : Nat × Nat → Prop} (updated : Updated session update before)
    (later : Later allowed before after) (apart : ¬allowed chunkCode) :
    Updated session update after := by
  refine ⟨updated.updated, fun changed => ?_⟩
  obtain ⟨complete, said⟩ := updated.exported changed
  exact ⟨complete.later later apart, said.mono later.stdout⟩

theorem Appended.sublist {allowed : Nat × Nat → Prop} {before after : Client}
    {evidence : List Invocation} (appended : Appended allowed before after)
    (shown : evidence <+ before.log) : evidence <+ after.log := by
  obtain ⟨added, log, _⟩ := appended
  rw [log]
  exact shown.trans (List.sublist_append_right added _)

theorem Attempted.later {value : Int} {before after : Client} {allowed : Nat × Nat → Prop}
    (attempted : Attempted value before) (later : Later allowed before after)
    (apart : ¬allowed chunkCode) : Attempted value after := by
  rcases attempted with ⟨zero, update, session, last, inventory, operation, capture, identify,
    result, shown, imported, opened, touched, candidate, vouches, updated⟩ |
    ⟨three, session, last, inventory, operation, capture, identify, shown, rest⟩
  · exact Or.inl ⟨zero, update, session, last, inventory, operation, capture, identify, result,
      later.appended.sublist shown, imported, opened, touched, candidate, vouches,
      updated.later later apart⟩
  · exact Or.inr ⟨three, session, last, inventory, operation, capture, identify,
      later.appended.sublist shown, rest⟩

theorem clientReact_stdout (operation : ClientOp) (answer : ClientAnswer operation)
    (client : Client) : client.stdout <+: (clientReact operation answer client).2.stdout := by
  cases operation with
  | print text => exact List.prefix_append _ _
  | createOutput =>
      simp only [clientReact]
      split <;> exact List.prefix_refl _
  | writeOutput bytes =>
      simp only [clientReact]
      split <;> exact List.prefix_refl _
  | fsyncOutput =>
      simp only [clientReact]
      split <;> exact List.prefix_refl _
  | _ => exact List.prefix_refl _

section Said

variable {during : ClientOp → Client → Prop} {exited : Nat → Client → Prop} {client : Client}

/-- What was said stays said through any script. -/
theorem wp_said {α : Type} {line : String} {script : ClientScript α}
    {returned : α → Client → Prop} (said : Said line client)
    (holds : wp clientMachine during exited script
      (fun value after => Said line after → returned value after) client) :
    wp clientMachine during exited script returned client := by
  induction script generalizing client with
  | done value => exact holds said
  | exit status => exact holds
  | act operation next ih =>
      refine ⟨holds.1, fun fault => ih _ ?_ (holds.2 fault)⟩
      exact said.mono (clientReact_stdout operation fault.answer
        (client.disturbed fault.signal fault.outside))

theorem wp_line {line : String} {returned : Unit → Client → Prop}
    (whole : line.toList.takeWhile (· ≠ '\x00') = line.toList) (ongoing : during (.print line) client)
    (next : ∀ after, Grown client after [] → Said line after → returned () after) :
    wp clientMachine during exited (printf line) returned client := by
  have silent : (ClientOp.print line).Silent := trivial
  refine ⟨ongoing, fun fault => next _ (perform_silent silent fault client) ?_⟩
  have printed : (clientMachine.perform (.print line) fault client).2.stdout =
      client.stdout ++ line.toList.takeWhile (· ≠ '\x00') := rfl
  rw [Said, printed, whole]
  exact (List.suffix_append client.stdout line.toList).isInfix

end Said

/-! ### Before the export -/

/-- A command that is not an export of a chunk. -/
def early (code : Nat × Nat) : Prop := code ≠ chunkCode

instance : DecidablePred early := fun code => inferInstanceAs (Decidable (code ≠ chunkCode))

/-- The evidence so far, of a run that exported nothing yet. -/
structure Shown (evidence : List Invocation) (client : Client) : Prop where
  shown : evidence <+ client.log
  fresh : exported client.log = []

section Shown

variable {evidence : List Invocation} {before after : Client}

theorem Shown.later (holds : Shown evidence before) (later : Later early before after) :
    Shown evidence after := by
  constructor
  · exact later.appended.sublist holds.shown
  · rw [later.exported fun wrong => wrong rfl]
    exact holds.fresh

theorem Shown.same (holds : Shown evidence before) (grown : Grown before after []) :
    Shown evidence after := holds.later grown.later

theorem Shown.among (holds : Shown evidence before) {added : List Invocation}
    (grown : Grown before after added) (codes : ∀ past ∈ added, early past.request.code)
    {past : Invocation} (member : past ∈ added) : Shown (past :: evidence) after := by
  refine ⟨?_, (holds.later ⟨added, grown, codes⟩).fresh⟩
  rw [grown.log]
  exact (List.singleton_sublist.mpr member).append holds.shown

theorem Shown.next (holds : Shown evidence before) {past : Invocation}
    (grown : Grown before after [past]) (code : early past.request.code) :
    Shown (past :: evidence) after := by
  refine holds.among grown (fun other member => ?_) (List.mem_singleton_self past)
  rw [List.mem_singleton.mp member]
  exact code

end Shown

/-! ### One rule for each step -/

section Steps

variable {exited : Nat → Client → Prop} {client : Client} {session : Nat}
  {evidence : List Invocation}

/-- Nothing is asked of a command here. -/
abbrev Any (_ : ClientOp) (_ : Client) : Prop := True

theorem any_calm : ∀ operation : ClientOp, operation.Silent → ∀ after, Any operation after :=
  fun _ _ _ => trivial

theorem wp_openDatabase {returned : Bool → Client → Prop}
    (next : ∀ opened after, Grown client after [] → returned opened after) :
    wp clientMachine Any exited openDatabase returned client := wp_call any_calm trivial next

variable (holds : Shown evidence client) (leaving : ∀ status after, exited status after)

include holds leaving

theorem wp_unseen {α : Type} {script : ClientScript α} {returned : α → Client → Prop}
    (sends : Sends early script)
    (next : ∀ value after, Shown evidence after → returned value after) :
    wp clientMachine Any exited script returned client :=
  wp_sends sends (fun _ _ _ _ => trivial) (fun status after _ => leaving status after)
    fun value after later => next value after (holds.later later)

/-- An import to the end leaves its last chunk in the log. -/
theorem wp_importLoop {remaining : Nat} {returned : Unit → Client → Prop} (some : remaining ≠ 0)
    (next : ∀ last after, Succeeded session importCode last → Shown (last :: evidence) after →
      returned () after) :
    wp clientMachine Any exited (importLoop session remaining) returned client := by
  induction remaining using Nat.strong_induction_on generalizing client with
  | _ remaining ih =>
      rw [importLoop]
      refine wp_ite (fun none => absurd none some) fun _ => ?_
      refine wp_seq (wp_unseen holds leaving (sends_readChunk _ _) fun chunk first shown => ?_)
      refine wp_seq (wp_dbCommand any_calm _ _ _ (fun _ _ _ _ => trivial)
        (fun payload second unsent => ?_) fun status payload second grown => ?_)
      · exact wp_ite (fun _ => wp_seq (wp_fprintf any_calm (fun last _ => leaving 1 last) _))
          fun agreed => absurd (Or.inl (by decide)) agreed
      · refine wp_ite (fun _ => wp_seq (wp_fprintf any_calm (fun last _ => leaving 1 last) _))
          fun agreed => ?_
        simp only [not_or, not_lt, ne_eq, not_not] at agreed
        have apart : early (4, 17) := by decide
        have positive : 0 < min remaining chunkSize := by
          simp only [chunkSize, payloadSize]
          omega
        by_cases last : remaining - min remaining chunkSize = 0
        · have zero : status = 0 := by omega
          rw [last, importLoop]
          refine wp_ite (fun _ => ?_) fun more => absurd rfl more
          exact next _ second ⟨rfl, rfl, zero⟩ (shown.next grown apart)
        · refine ih _ (by omega) ?_ last
          exact shown.later (grown.later_one apart)

theorem wp_importBody {returned : Int → Client → Prop}
    (next : ∀ result after, (result = 0 → ∃ last, Succeeded session importCode last ∧
      Shown (last :: evidence) after) → returned result after) :
    wp clientMachine Any exited (importBody session) returned client := by
  have failed : ∀ after, returned (-1) after := fun after =>
    next (-1) after fun wrong => by cases wrong
  refine wp_seq (wp_call any_calm trivial fun found first grown => ?_)
  rcases (found : Option Nat) with _ | size
  · exact wp_seq (wp_fprintf any_calm (fun last _ => failed last) _)
  · refine wp_ite (fun _ => wp_seq (wp_fprintf any_calm (fun last _ => failed last) _))
      fun bounded => ?_
    simp only [not_or] at bounded
    refine wp_seq (wp_unseen (holds.same grown) leaving (sends_dbCommand session _ _ _ (by decide))
      fun begun second shown => ?_)
    refine wp_ite (fun _ => failed second) fun _ => wp_seq ?_
    have finishing : ∀ (loaded : Int) (third : Client),
        (loaded = 0 → ∃ last, Succeeded session importCode last ∧ Shown (last :: evidence) third) →
        wp clientMachine Any exited (finishImport session loaded) returned third := by
      intro loaded third good
      have finishes : Sends early (dbCommand session 15 0 0 []) :=
        sends_dbCommand session _ _ _ (by decide)
      refine wp_seq (wp_sends finishes (fun _ _ _ _ => trivial)
        (fun status after _ => leaving status after) fun finished fourth later => ?_)
      refine next _ fourth fun zero => ?_
      split at zero
      · cases zero
      · obtain ⟨last, succeeded, shown⟩ := good zero
        exact ⟨last, succeeded, shown.later later⟩
    rw [returning, wp_onExit]
    refine wp_seq (wp_importLoop shown (fun _ third => ?_) bounded.1 fun last third succeeded more => ?_)
    · exact finishing (-1) third fun wrong => by cases wrong
    · exact finishing 0 third fun _ => ⟨last, succeeded, more⟩

theorem wp_loadDatabase {returned : Int → Client → Prop}
    (next : ∀ result after, (result = 0 → ∃ last, Succeeded session importCode last ∧
      Shown (last :: evidence) after) → returned result after) :
    wp clientMachine Any exited (loadDatabase session) returned client := by
  refine wp_seq (wp_openDatabase fun opened first grown => ?_)
  refine wp_ite (fun _ => ?_) fun _ => ?_
  · refine wp_seq (wp_importBody (holds.same grown) leaving fun loaded second good => ?_)
    refine wp_seq (wp_call any_calm trivial fun closed third still => ?_)
    refine wp_seq (wp_printIf any_calm (fun fourth printed => ?_) _ _)
    refine next _ fourth fun zero => ?_
    cases closed with
    | false => cases zero
    | true =>
        obtain ⟨last, succeeded, shown⟩ := good zero
        exact ⟨last, succeeded, (shown.same still).same printed⟩
  · refine wp_seq (wp_fprintf any_calm (fun last _ => next (-1) last fun wrong => ?_) _)
    cases wrong

omit leaving in
theorem wp_inventory {returned : Option Nat → Client → Prop}
    (failed : ∀ after, returned none after)
    (next : ∀ inventory count after, Succeeded session enumerateCode inventory →
      wordAt inventory.payload 0 = 11 ∧ wordAt inventory.payload 1 = 8 →
      wordAt inventory.payload 2 = count → Shown (inventory :: evidence) after →
      returned (some count) after) :
    wp clientMachine Any exited (templateInventory session) returned client := by
  have apart : ∀ code, counting code → early code := by
    rintro code (rfl | rfl) <;> decide
  refine wp_templateInventory any_calm (fun _ _ _ => trivial) (fun after _ => failed after)
    fun past added count after grown codes member succeeded module command counted => ?_
  refine next past count after succeeded ⟨module, command⟩ counted ?_
  exact holds.among grown (fun other inAdded => apart _ (codes other inAdded)) member

/-! ### The operation ID -/

omit holds leaving in
theorem sends_readRandom {allowed : Nat × Nat → Prop} (bytes : Bytes) :
    Sends allowed (readRandom bytes) := by
  fun_induction readRandom bytes with
  | case1 bytes more ih =>
      refine sends_bind (sends_call trivial) fun answer => ?_
      rcases (answer : Option Bytes) with _ | _ | ⟨byte, rest⟩
      · exact sends_bind (sends_fprintf _) fun _ => trivial
      · exact sends_bind (sends_fprintf _) fun _ => trivial
      · exact ih byte rest
  | case2 => trivial

omit holds in
theorem wp_outUnless {works : Bool} {returned : Unit → Client → Prop}
    (next : works = true → returned () client) :
    wp clientMachine Any exited (outUnless works) returned client :=
  wp_ite next fun _ => leaving 1 client

theorem wp_setAuthChallenge {returned : Bytes → Client → Prop}
    (next : ∀ operation after, Opened session operation → Shown (operation :: evidence) after →
      returned operation.request.at8 after) :
    wp clientMachine Any exited (setAuthChallenge session) returned client := by
  refine wp_seq (wp_unseen holds leaving (sends_readRandom []) fun challenge first shown => ?_)
  refine wp_seq (wp_outUnless leaving fun fresh => ?_)
  refine wp_seq (wp_allocateShared any_calm _ fun works second grown => ?_)
  refine wp_seq (wp_outUnless leaving fun _ => ?_)
  refine wp_seq (wp_invokePayload any_calm trivial fun status payload third sent => ?_)
  refine wp_seq (wp_ite (fun zero => ?_) fun _ => leaving 1 third)
  refine next ⟨session, authChallengeRequest challenge, status, payload⟩ third
    ⟨⟨rfl, rfl, zero⟩, of_decide_eq_true fresh⟩ ?_
  exact (shown.same grown).next sent (by decide : early operationCode)

/-! ### The touch -/

omit leaving in
theorem wp_identifyFinger {returned : Int × Bool → Client → Prop}
    (next : ∀ identify after, identify.session = session → identify.request.code = identifyCode →
      Shown (identify :: evidence) after →
      returned (identify.status, decide (identify.status = 0 ∧ wordAt identify.payload 2 ≠ 0))
        after)
    (failed : ∀ after, returned (-1, false) after) :
    wp clientMachine Any exited (identifyFinger session) returned client := by
  refine wp_seq (wp_allocateShared any_calm _ fun works first grown => ?_)
  refine wp_ite (fun _ => ?_) fun _ => failed first
  refine wp_seq (wp_invokePayload any_calm trivial fun status payload second sent => ?_)
  refine wp_seq (wp_printf any_calm (fun third printed => ?_) _)
  refine next ⟨session, identifyRequest, status, payload⟩ third rfl rfl ?_
  exact ((holds.same grown).next sent (by decide : early identifyCode)).same printed

theorem wp_identifyTouch {returned : Int × Bool → Client → Prop}
    (next : ∀ capture identify after, Succeeded session touchCode capture →
      identify.session = session → identify.request.code = identifyCode →
      Shown (identify :: capture :: evidence) after →
      returned (identify.status, decide (identify.status = 0 ∧ wordAt identify.payload 2 ≠ 0))
        after) :
    wp clientMachine Any exited (identifyTouch session) returned client := by
  refine wp_seq (wp_unseen holds leaving (sends_waitFingerDown session (by decide))
    fun down first shown => ?_)
  refine wp_seq (wp_ite (fun _ => ?_) fun _ => leaving 1 first)
  refine wp_seq (wp_query any_calm (fun _ _ => trivial) (fun second unsent => ?_)
    fun captured payload second sent => ?_)
  · refine wp_ite (fun _ => ?_) fun wrong => absurd (by decide) wrong
    exact wp_seq (wp_fprintf any_calm (fun last _ => leaving 1 last) _)
  · refine wp_ite (fun _ => ?_) fun good => ?_
    · exact wp_seq (wp_fprintf any_calm (fun last _ => leaving 1 last) _)
    · have captured := shown.next sent (by decide : early touchCode)
      refine wp_seq (wp_identifyFinger captured (fun identify third same code more => ?_)
        fun third => ?_)
      · refine wp_ite (fun _ => leaving 1 third) fun _ => ?_
        exact next _ identify third ⟨rfl, rfl, not_not.mp good⟩ same code more
      · exact wp_ite (fun _ => leaving 1 third) fun wrong => absurd (by decide) wrong

/-! ### The result and the update -/

/-- After the update: `result` is there for a candidate that was vouched for. -/
structure Concluded (session : Nat) (operation : Invocation) (evidence : List Invocation)
    (candidate : Bool) (authStatus : Int) (changed : Nat) (client : Client) : Prop where
  calm : Shown evidence client
  concluded : candidate = true → authStatus = 0 → ∃ result update,
    Vouches session operation result ∧ Succeeded session updateCode update ∧
    wordAt update.payload 2 = changed ∧ Shown (update :: result :: evidence) client

omit leaving in
theorem wp_getAuthResult {operation : Invocation} {returned : Int → Client → Prop}
    (failed : ∀ after, Shown evidence after → returned (-1) after)
    (next : ∀ result after, Vouches session operation result → Shown (result :: evidence) after →
      returned 0 after) :
    wp clientMachine Any exited (getAuthResult session operation.request.at8) returned client := by
  refine wp_seq (wp_allocateShared any_calm _ fun works first grown => ?_)
  refine wp_ite (fun _ => ?_) fun _ => failed first (holds.same grown)
  refine wp_seq (wp_invokePayload any_calm trivial fun status payload second sent => ?_)
  have calm := holds.same grown
  have apart : early authResultCode := by decide
  have answered := calm.later (sent.later_one apart)
  refine wp_ite (fun _ => failed second answered) fun good => wp_ite (fun _ => ?_) fun carries => ?_
  · exact wp_seq (wp_fprintf any_calm (fun last printed => failed last (answered.same printed)) _)
  · refine wp_seq (wp_printf any_calm (fun last printed => ?_) _)
    refine next ⟨session, authResultRequest, status, payload⟩ last
      ⟨⟨rfl, rfl, not_not.mp good⟩, not_not.mp carries⟩ ?_
    exact (calm.next sent apart).same printed

theorem wp_matchUpdate {operation : Invocation} {status : Int} {candidate : Bool}
    {returned : Int × Nat → Client → Prop} (only : candidate = true → status = 0)
    (next : ∀ authStatus changed after,
      Concluded session operation evidence candidate authStatus changed after →
      returned (authStatus, changed) after) :
    wp clientMachine Any exited (matchUpdate session operation.request.at8 status candidate)
      returned client := by
  have updating : ∀ (authStatus : Int) (first : Client), Shown evidence first →
      (candidate = true → authStatus = 0 → ∃ result, Vouches session operation result ∧
        Shown (result :: evidence) first) →
      wp clientMachine Any exited (updateTemplate session authStatus) returned first := by
    intro authStatus first shown vouched
    refine wp_seq (wp_queryOutput any_calm (fun _ _ => trivial) (fun second unsent => ?_)
      fun updated payload second sent => ?_)
    · exact wp_seq (wp_ite (fun wrong => absurd wrong (by decide)) fun _ => leaving 1 second)
    · refine wp_seq (wp_ite (fun good => ?_) fun _ => leaving 1 second)
      have apart : early (11, 5) := by decide
      refine next _ _ second ⟨shown.later (sent.later_one apart), fun yes zero => ?_⟩
      obtain ⟨result, vouches, more⟩ := vouched yes zero
      exact ⟨result, _, vouches, ⟨rfl, rfl, good⟩, rfl, more.next sent apart⟩
  refine wp_ite (fun zero => wp_seq (wp_ite (fun yes => ?_) fun no => ?_)) fun other => ?_
  · refine wp_getAuthResult holds (fun first shown => updating (-1) first shown fun _ wrong => ?_)
      fun result first vouches shown => ?_
    · cases wrong
    · refine updating 0 first ?_ fun _ _ => ⟨result, vouches, shown⟩
      exact ⟨(List.sublist_cons_self _ _).trans shown.shown, shown.fresh⟩
  · exact updating 0 client holds fun yes => absurd yes no
  · have none : candidate ≠ true := fun yes => other (only yes)
    refine wp_ite (fun _ => ?_) fun _ => ?_
    · exact next _ _ client ⟨holds, fun yes => absurd yes none⟩
    · exact wp_seq (wp_fprintf any_calm (fun last _ => leaving 1 last) _)

theorem wp_exportUpdate {changed : Nat} {returned : Unit → Client → Prop}
    (next : ∀ after, evidence <+ after.log →
      (changed ≠ 0 → Exported after ∧ Said updateRequiredLine after) → returned () after) :
    wp clientMachine Any exited (exportUpdate session changed true) returned client := by
  refine wp_ite (fun none => ?_) fun _ => ?_
  · exact next client holds.shown fun wrong => absurd none wrong
  · refine wp_seq (wp_line (by decide) trivial fun first grown said => ?_)
    have shown := holds.same grown
    refine wp_seq (wp_said said (wp_storeDatabase any_calm (fun _ _ => trivial)
      (fun _ _ _ => trivial) shown.fresh (fun _ _ => trivial) (fun _ => trivial)
      (fun _ _ _ => trivial) fun stored second later complete still => ?_))
    refine wp_ite (fun zero => ?_) fun _ => leaving 1 second
    exact next second (later.sublist shown.shown) fun _ => ⟨complete zero, still⟩

omit holds in
theorem wp_matchResult {status authStatus : Int} {candidate : Bool}
    {returned : Int → Client → Prop}
    (next : ∀ after, Grown client after [] → status = 0 → authStatus = 0 →
      returned (if candidate then 0 else 3) after) :
    wp clientMachine Any exited (matchResult status authStatus candidate) returned client := by
  refine wp_ite (fun _ => wp_seq (wp_printf any_calm (fun last _ => leaving 1 last) _))
    fun zero => wp_ite (fun _ => wp_seq (wp_fprintf any_calm (fun last _ => leaving 1 last) _))
      fun vouched => wp_seq (wp_printf any_calm (fun last printed => ?_) _)
  exact next last printed (not_not.mp zero) (not_not.mp vouched)

omit holds in
/-- The last decision of match_existing. -/
theorem wp_conclude {last inventory operation capture identify : Invocation} {authStatus : Int}
    {changed : Nat} {candidate : Bool} {returned : Int → Client → Prop}
    (imported : Imported session last inventory) (opened : Opened session operation)
    (captured : Succeeded session touchCode capture) (same : identify.session = session)
    (code : identify.request.code = identifyCode)
    (ordered : evidence = [identify, capture, operation, inventory, last])
    (named : candidate = decide (identify.status = 0 ∧ wordAt identify.payload 2 ≠ 0))
    (concluded : Concluded session operation evidence candidate authStatus changed client)
    (next : ∀ value after, Attempted value after → returned value after) :
    wp clientMachine Any exited
      (do
        exportUpdate session changed true
        matchResult identify.status authStatus candidate) returned client := by
  subst ordered
  have kept : ∀ {value : Int} {first second : Client}, Grown first second [] →
      Attempted value first → returned value second := fun grown attempted =>
    next _ _ (attempted.later (grown.later : Later (fun _ => False) _ _) id)
  cases candidate with
  | true =>
      obtain ⟨zero, some⟩ := of_decide_eq_true named.symm
      by_cases vouched : authStatus = 0
      · obtain ⟨result, update, vouches, updated, counted, shown⟩ := concluded.concluded rfl vouched
        refine wp_seq (wp_exportUpdate shown leaving fun first evident complete => ?_)
        refine wp_matchResult leaving fun second grown _ _ => kept grown (Or.inl ⟨rfl, ?_⟩)
        exact ⟨update, session, last, inventory, operation, capture, identify, result, evident,
          imported, opened, ⟨captured, same, code, zero⟩, some, vouches, updated,
          fun changes => complete (counted ▸ changes)⟩
      · refine wp_seq (wp_exportUpdate concluded.calm leaving fun first _ _ => ?_)
        exact wp_matchResult leaving fun second _ _ wrong => absurd wrong vouched
  | false =>
      have none : ¬(identify.status = 0 ∧ wordAt identify.payload 2 ≠ 0) :=
        of_decide_eq_false named.symm
      refine wp_seq (wp_exportUpdate concluded.calm leaving fun first evident _ => ?_)
      refine wp_matchResult leaving fun second grown zero _ => kept grown (Or.inr ⟨rfl, ?_⟩)
      exact ⟨session, last, inventory, operation, capture, identify, evident, imported, opened,
        ⟨captured, same, code, zero⟩, not_not.mp fun some => none ⟨zero, some⟩⟩

end Steps

/-! ### A whole attempt -/

section Whole

variable {exited : Nat → Client → Prop} {client : Client} {session : Nat}

theorem wp_matchExisting {returned : Int → Client → Prop} (fresh : exported client.log = [])
    (leaving : ∀ status after, exited status after)
    (next : ∀ value after, Attempted value after → returned value after) :
    wp clientMachine Any exited (matchExisting session true true) returned client := by
  have start : Shown [] client := ⟨List.nil_sublist _, fresh⟩
  refine wp_seq (wp_unseen start leaving (sends_query session (by decide)) fun _ _ one => ?_)
  refine wp_seq (wp_ite (fun _ => ?_) fun _ => leaving 1 _)
  refine wp_seq (wp_unseen one leaving (sends_initHwAuth session (by decide)) fun _ _ two => ?_)
  refine wp_seq (wp_ite (fun _ => ?_) fun _ => leaving 1 _)
  refine wp_seq (wp_unseen two leaving (sends_query session (by decide)) fun _ _ three => ?_)
  refine wp_seq (wp_ite (fun _ => ?_) fun _ => leaving 1 _)
  refine wp_seq (wp_loadDatabase three leaving fun loaded _ good => ?_)
  refine wp_seq (wp_ite (fun zero => ?_) fun _ => leaving 1 _)
  obtain ⟨last, succeeded, four⟩ := good zero
  refine wp_seq (wp_unseen four leaving (sends_query session (by decide)) fun _ _ five => ?_)
  refine wp_seq (wp_ite (fun _ => ?_) fun _ => leaving 1 _)
  refine wp_seq (wp_unseen five leaving (sends_query session (by decide)) fun _ _ six => ?_)
  refine wp_seq (wp_ite (fun _ => ?_) fun _ => leaving 1 _)
  refine wp_seq (wp_inventory six (fun after => leaving 1 after)
    fun inventory count _ enumerated shape counted seven => ?_)
  refine wp_ite (fun _ => wp_seq (wp_fprintf any_calm (fun last _ => leaving 1 last) _)) fun _ => ?_
  refine wp_ite (fun _ => wp_seq (wp_fprintf any_calm (fun last _ => leaving 1 last) _))
    fun alone => ?_
  have single : count = 1 := not_not.mp fun many => alone ⟨rfl, many⟩
  refine wp_seq (wp_setAuthChallenge seven leaving fun operation _ opened eight => ?_)
  refine wp_seq (wp_identifyTouch eight leaving fun capture identify _ captured same code nine => ?_)
  refine wp_seq (wp_matchUpdate nine leaving (fun yes => (of_decide_eq_true yes).1)
    fun authStatus changed _ concluded => ?_)
  exact wp_conclude leaving ⟨succeeded, enumerated, shape, counted.trans single⟩ opened captured
    same code rfl rfl concluded next

/-- What `main` returns to its caller: an attempt, or 1. -/
def Judged (value : Int) (client : Client) : Prop := value = 1 ∨ Attempted value client

theorem wp_matchOut {sensor : Option Nat} {result : Int} {returned : Int → Client → Prop}
    (judged : Judged result client)
    (next : ∀ value after, Judged value after → returned value after) :
    wp clientMachine Any exited (outSection sensor result) returned client := by
  refine wp_seq (wp_operationCancelled any_calm fun stopped first grown => ?_)
  have still : Judged (if stopped then 1 else result) first := by
    cases stopped with
    | true => exact Or.inl rfl
    | false => exact judged.imp_right fun attempted =>
        attempted.later (grown.later : Later (fun _ => False) _ _) id
  cases sensor with
  | none => exact next _ first still
  | some session =>
      have sleep : ∀ (status : Int) second, Later (fun code => code = (10, 5)) first second →
          returned (if status = 0 then (if stopped then (1 : Int) else result) else 1) second := by
        intro status second later
        refine next _ second ?_
        split
        · exact still.imp_right fun attempted => attempted.later later (by decide)
        · exact Or.inl rfl
      refine wp_seq (wp_query any_calm (fun _ _ => trivial) (fun after unsent => ?_)
        fun status payload second sent => ?_)
      · exact sleep (-1) after unsent.later
      · exact sleep status second (sent.later_one rfl)

theorem wp_matchMain {returned : Int → Client → Prop} (empty : client.log = [])
    (leaving : ∀ status, Early status → ∀ after, exited status after)
    (next : ∀ value after, Judged value after → returned value after) :
    wp clientMachine Any exited (main (.match true true)) returned client := by
  have failed : ∀ {sensor : Option Nat} {client : Client},
      wp clientMachine Any exited (outSection sensor 1) returned client :=
    wp_matchOut (Or.inl rfl) next
  refine wp_seq (wp_only (only_prologue _) (fun _ _ _ => trivial) leaving fun _ first later => ?_)
  refine wp_seq (wp_only only_attach (fun _ _ _ => trivial) leaving fun attached second again => ?_)
  have started : second.log = [] := by
    rw [(later.trans again).grown.log, empty]
    rfl
  cases attached with
  | none => exact failed
  | some session =>
      refine wp_seq (wp_query any_calm (fun _ _ => trivial) (fun after unsent => ?_)
        fun status payload third sent => ?_)
      · exact wp_ite (fun _ => failed) fun good => absurd (by decide) good
      · refine wp_ite (fun _ => failed) fun _ => wp_seq ?_
        have fresh : exported third.log = [] := by
          rw [sent.log, started]
          rfl
        rw [returning, wp_onExit]
        refine wp_matchExisting fresh (fun _ after => ?_) fun value after attempted => ?_
        · rw [wp_done]
          exact failed
        · exact wp_matchOut (Or.inr attempted) next

/-- Every way a match attempt ends, whatever the application answers. -/
theorem match_judged (found : Option Bytes) {after : ClientScript Int × Client}
    (run : Reaches clientMachine (main (.match true true), Client.start found) after) :
    Safe Any (fun status _ => Early status) Judged after :=
  wp_sound (wp_matchMain rfl (fun _ early _ => early) fun _ _ => id) run

end Whole

end Liuqin.Fingerprint
