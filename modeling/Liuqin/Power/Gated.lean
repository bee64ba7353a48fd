/-
What liuqin-mipps-auth writes to the gate of the high-voltage charge path.

Up to the digest of the adapter the run writes other nodes only; from the
digest to the gate it computes no other digest.  The gate then follows what the
run has read: the digest, or else the option, the type and the cables.
-/

import Liuqin.Power.Mipps

namespace Liuqin.Power.Mipps

open Liuqin.Library Liuqin.Library.Lines Liuqin.Library.Program

/-! ### The decision -/

/-- The adapter gave the digest of its key. -/
def Sight.Matched (sight : Sight) : Prop := (lower sight.response).take 32 = sight.digest.take 32

instance (sight : Sight) : Decidable sight.Matched := inferInstanceAs (Decidable (_ = _))

/-- The opt-in applies, and no cable speaks against it. -/
def Opted (options : Options) (sight : Sight) : Prop :=
  options.allowUnverifiedAdapter = true ∧ sight.realType = some pdPps ∧
    (exposedField sight.cables = none ∨ exposedField sight.cables = some fiveAmps)

/-- Writing 1 needs a permission, and without one it is 0 that is written. -/
def Judged (options : Options) (sight : Sight) (value : Text) : Prop :=
  (value = ['1'] → sight.Matched ∨ Opted options sight) ∧
    (¬(sight.Matched ∨ Opted options sight) → value = ['0'])

/-- The first cable that exposes a word encodes no rating in it: its field is
one of the two reserved ones. -/
def Unrated (sight : Sight) : Prop :=
  exposedField sight.cables = some 0 ∨ exposedField sight.cables = some 3

/-- The opt-in decides, over a cable that encodes no rating. -/
def OverUnrated (options : Options) (sight : Sight) : Prop :=
  ¬sight.Matched ∧ options.allowUnverifiedAdapter = true ∧ sight.realType = some pdPps ∧
    Unrated sight

/-- What the gate computes of the cables. -/
def Spared (sight : Sight) : Prop :=
  ∀ amps, cableCurrentCapabilityAmps sight.cables = some amps → 5 ≤ amps

/-- What the gate computes. -/
def Asserted (options : Options) (sight : Sight) : Prop :=
  sight.Matched ∨
    (options.allowUnverifiedAdapter = true ∧ sight.realType = some pdPps ∧ Spared sight)

def Follows (options : Options) (sight : Sight) (value : Text) : Prop :=
  (Asserted options sight ∧ value = ['1']) ∨ (¬Asserted options sight ∧ value = ['0'])

theorem spared_iff (sight : Sight) :
    Spared sight ↔ exposedField sight.cables = none ∨
      exposedField sight.cables = some fiveAmps ∨ Unrated sight := by
  unfold Spared Unrated
  rw [capability_eq]
  cases exposed : exposedField sight.cables with
  | none =>
      constructor
      · intro _
        exact Or.inl rfl
      · intro _ amps rated
        cases rated
  | some field =>
      have bound := exposedField_bound exposed
      constructor
      · intro spared
        have cases_field : field = 0 ∨ field = 1 ∨ field = 2 ∨ field = 3 := by omega
        rcases cases_field with rfl | rfl | rfl | rfl
        · exact Or.inr (Or.inr (Or.inl rfl))
        · have high : 5 ≤ 3 := spared 3 rfl
          omega
        · exact Or.inr (Or.inl rfl)
        · exact Or.inr (Or.inr (Or.inr rfl))
      · rintro (absent | rated | none_low | none_high) amps found
        · cases absent
        · cases rated
          cases found
          decide
        · cases none_low
          cases found
        · cases none_high
          cases found

theorem asserted_iff (options : Options) (sight : Sight) :
    Asserted options sight ↔
      (sight.Matched ∨ Opted options sight) ∨ OverUnrated options sight := by
  unfold Asserted Opted OverUnrated
  rw [spared_iff]
  tauto

/-- The property of the gate holds but over a cable that encodes no rating. -/
theorem judged_iff {options : Options} {sight : Sight} {value : Text}
    (follows : Follows options sight value) :
    Judged options sight value ↔ ¬OverUnrated options sight := by
  have unpermitted : OverUnrated options sight → ¬(sight.Matched ∨ Opted options sight) := by
    rintro ⟨unmatched, _, _, unrated⟩ (matched | ⟨_, _, absent | rated⟩)
    · exact unmatched matched
    · rcases unrated with low | high
      · rw [absent] at low
        cases low
      · rw [absent] at high
        cases high
    · rcases unrated with low | high
      · rw [rated] at low
        cases low
      · rw [rated] at high
        cases high
  constructor
  · intro judged unrated
    have asserted := (asserted_iff options sight).mpr (Or.inr unrated)
    rcases follows with ⟨_, one⟩ | ⟨refused, _⟩
    · exact unpermitted unrated (judged.1 one)
    · exact refused asserted
  · intro rated
    rcases follows with ⟨asserted, one⟩ | ⟨refused, nought⟩
    · have permitted : sight.Matched ∨ Opted options sight := by
        rcases (asserted_iff options sight).mp asserted with permitted | unrated
        · exact permitted
        · exact absurd unrated rated
      constructor
      · intro _
        exact permitted
      · intro unpermitted'
        exact absurd permitted unpermitted'
    · constructor
      · intro one
        rw [nought] at one
        cases one
      · intro _
        exact nought

/-! ### What a part of the run performs -/

/-- Anything but the gate. -/
def Op.Aside : Op → Prop
  | .write .pdVerifed _ => False
  | _ => True

/-- Neither the gate nor a digest. -/
def Op.Settled : Op → Prop
  | .write .pdVerifed _ => False
  | .hmac _ _ => False
  | _ => True

/-- Neither the gate, a digest nor the VDM node. -/
def Op.Deaf : Op → Prop
  | .write .pdVerifed _ => False
  | .hmac _ _ => False
  | .read .requestVdmCmd => False
  | _ => True

theorem Op.Settled.aside {operation : Op} (settled : operation.Settled) : operation.Aside := by
  unfold Op.Settled at settled
  unfold Op.Aside
  split
  · exact settled
  · trivial

theorem Op.Deaf.aside {operation : Op} (deaf : operation.Deaf) : operation.Aside := by
  unfold Op.Deaf at deaf
  unfold Op.Aside
  split
  · exact deaf
  · trivial

section Parts

variable {allowed : Op → Prop}

abbrev Anywhere (_ : Nat) : Prop := True

theorem only_readNode {node : Node} (can : allowed (.read node)) :
    (readNode node).Only allowed Anywhere := by
  refine ⟨can, fun reading => ?_⟩
  cases reading <;> trivial

theorem only_writeNode {node : Node} {value : Text} (can : allowed (.write node value)) :
    (writeNode node value).Only allowed Anywhere := by
  refine ⟨can, fun written => ?_⟩
  cases written <;> trivial

theorem only_catching {α : Type} {caught : List Raised} {handler body : Script α}
    (quiet : handler.Only allowed Anywhere) (only : body.Only allowed Anywhere) :
    (catching caught handler body).Only allowed Anywhere := by
  unfold catching
  induction body with
  | done value => trivial
  | exit status =>
      show Prog.Only _ _ (if _ then _ else _)
      split
      · exact quiet
      · trivial
  | act operation next ih =>
      exact ⟨only.1, fun answer => ih answer (only.2 answer)⟩

theorem only_vdmState (can : allowed (.read .requestVdmCmd)) :
    vdmState.Only allowed Anywhere := by
  apply Prog.only_bind (only_readNode can)
  intro line
  cases Numerals.readInt (partition line).1 <;> trivial

theorem only_waitState (can : allowed (.read .requestVdmCmd)) (waits : allowed .waiting)
    (expected : Int) (polls : Nat) : (waitState expected polls).Only allowed Anywhere := by
  induction polls with
  | zero => trivial
  | succ polls ih =>
      refine ⟨waits, fun (more : Bool) => ?_⟩
      cases more with
      | false => trivial
      | true =>
          apply Prog.only_bind (only_vdmState can)
          intro last
          exact Prog.only_ite trivial ih

end Parts

/-! ### Up to the digest -/

section Before

theorem only_postVdm (command : String) (value : Text) :
    (postVdm command value).Only Op.Settled Anywhere := by
  apply Prog.only_bind (only_writeNode trivial)
  intro _
  apply Prog.only_bind (only_vdmState trivial)
  intro _
  trivial

theorem only_sendReverse (polls : Nat) (value : Text) :
    (sendReverse polls value).Only Op.Settled Anywhere := by
  apply Prog.only_bind (only_writeNode trivial)
  intro _
  apply Prog.only_bind (only_waitState trivial trivial 8 polls)
  intro _
  trivial

theorem only_answerAdapter (polls : Nat) (pdAuth : Bool) (digest : Text) :
    (answerAdapter polls pdAuth digest).Only Op.Settled Anywhere := by
  apply Prog.only_bind (only_postVdm "6" _)
  intro _
  apply Prog.only_bind
  · apply Prog.only_ite
    · apply only_catching
      · exact ⟨trivial, fun _ => trivial⟩
      · apply Prog.only_bind (only_sendReverse polls _)
        intro _
        exact ⟨trivial, fun _ => trivial⟩
    · exact ⟨trivial, fun _ => trivial⟩
  · intro _
    exact only_postVdm "7" _

theorem only_readAdapterId : readAdapterId.Only Op.Deaf Anywhere := by
  apply Prog.only_bind (only_readNode trivial)
  intro adapterId
  unfold normalizeAdapterId
  apply Prog.only_ite
  · apply Prog.only_ite <;> trivial
  · trivial

theorem only_detectAdapterId (polls : Nat) : (detectAdapterId polls).Only Op.Deaf Anywhere := by
  induction polls with
  | zero => trivial
  | succ polls ih =>
      refine ⟨trivial, fun (more : Bool) => ?_⟩
      cases more with
      | false => trivial
      | true =>
          have quiet : (return none : Script (Option Text)).Only Op.Deaf Anywhere := trivial
          apply Prog.only_bind (only_catching quiet only_readAdapterId)
          intro found
          cases found with
          | none => exact ih
          | some adapterId => trivial

theorem only_waitRealType (polls : Nat) (last : Text) :
    (waitRealType polls last).Only Op.Aside Anywhere := by
  induction polls generalizing last with
  | zero => trivial
  | succ polls ih =>
      refine ⟨trivial, fun (more : Bool) => ?_⟩
      cases more with
      | false => trivial
      | true =>
          refine ⟨trivial, fun reading => ?_⟩
          cases reading with
          | content data =>
              apply Prog.only_ite
              · trivial
              · exact ih _
          | missing => trivial
          | failed => trivial

theorem only_awaitHost (polls : Nat) : (awaitHost polls).Only Op.Aside Anywhere := by
  induction polls with
  | zero => trivial
  | succ polls ih =>
      refine ⟨trivial, fun (more : Bool) => ?_⟩
      cases more with
      | false => trivial
      | true =>
          apply Prog.only_bind (only_readNode trivial)
          intro role
          apply Prog.only_ite
          · trivial
          · exact ih

theorem only_ensureTypecHost (polls : Nat) : (ensureTypecHost polls).Only Op.Aside Anywhere := by
  refine ⟨trivial, fun (found : Bool) => ?_⟩
  cases found with
  | false => exact ⟨trivial, fun _ => trivial⟩
  | true =>
      refine ⟨trivial, fun reading => ?_⟩
      cases reading with
      | content data =>
          apply Prog.only_ite
          · trivial
          · refine ⟨trivial, fun (requested : Bool) => ?_⟩
            cases requested with
            | false => exact ⟨trivial, fun _ => trivial⟩
            | true => exact only_awaitHost polls
      | missing => exact ⟨trivial, fun _ => trivial⟩
      | failed => exact ⟨trivial, fun _ => trivial⟩

theorem only_expectedDigests (challenge : Text) (keys : List String) :
    (expectedDigests challenge keys).Only Op.Aside Anywhere := by
  induction keys with
  | nil => trivial
  | cons key keys ih =>
      refine ⟨trivial, fun first => ?_⟩
      apply Prog.only_bind ih
      intro _
      trivial

theorem only_verifyFuelGaugeOnce (slave : Bool) :
    (verifyFuelGaugeOnce slave).Only Op.Aside Anywhere := by
  have elsewhere : ∀ value, Op.Aside (.write (resultNode slave) value) := by
    intro value
    cases slave <;> trivial
  refine ⟨trivial, fun challenge => ?_⟩
  apply Prog.only_bind (only_writeNode trivial)
  intro _
  apply Prog.only_bind (only_writeNode trivial)
  intro _
  apply Prog.only_bind (only_readNode trivial)
  intro answer
  apply Prog.only_bind (only_expectedDigests challenge fgKeys)
  intro expected
  apply Prog.only_bind
  · refine ⟨trivial, fun (present : Bool) => ?_⟩
    apply Prog.only_ite
    · exact only_writeNode (elsewhere _)
    · trivial
  · intro _
    trivial

theorem only_verifyFuelGaugeRounds (slave : Bool) (retries : Nat) :
    (verifyFuelGaugeRounds slave retries).Only Op.Aside Anywhere := by
  induction retries with
  | zero => trivial
  | succ retries ih =>
      apply Prog.only_bind (only_verifyFuelGaugeOnce slave)
      intro ok
      apply Prog.only_ite
      · trivial
      · exact ih

theorem only_verifyFuelGauge (slave : Bool) : (verifyFuelGauge slave).Only Op.Aside Anywhere := by
  apply Prog.only_bind
  · refine ⟨trivial, fun (present : Bool) => ?_⟩
    apply Prog.only_ite
    · apply Prog.only_bind (only_readNode trivial)
      intro value
      trivial
    · trivial
  · intro done
    apply Prog.only_ite
    · trivial
    · exact only_verifyFuelGaugeRounds slave 10

theorem only_enableBatteryAuth : enableBatteryAuth.Only Op.Aside Anywhere := by
  refine ⟨trivial, fun (present : Bool) => ?_⟩
  apply Prog.only_ite
  · apply Prog.only_bind (only_verifyFuelGauge false)
    intro _
    exact only_verifyFuelGauge true
  · trivial

theorem only_sendVdm (polls : Nat) (command : String) (expected : Int) (value : Text) :
    (sendVdm polls command expected value).Only Op.Aside Anywhere := by
  apply Prog.only_bind (only_writeNode trivial)
  intro _
  apply Prog.only_bind (only_waitState trivial trivial expected polls)
  intro _
  exact only_vdmState trivial

theorem only_waitUsbOnline (polls : Nat) : (waitUsbOnline polls).Only Op.Aside Anywhere := by
  have once : usbIsOnline.Only Op.Aside Anywhere := by
    refine ⟨trivial, fun (found : Bool) => ?_⟩
    apply Prog.only_ite
    · refine ⟨trivial, fun reading => ?_⟩
      cases reading <;> trivial
    · trivial
  induction polls with
  | zero => exact once
  | succ polls ih =>
      refine ⟨trivial, fun (more : Bool) => ?_⟩
      apply Prog.only_ite
      · apply Prog.only_bind once
        intro online
        apply Prog.only_ite
        · trivial
        · exact ih
      · exact once

end Before

/-! ### Every run -/

section Runs

variable {hmac : Text → Text → Text} {options : Options} {sight : Sight} {value : Text}

/-- What is written to the gate follows what the run has read. -/
def Faithful (options : Options) (operation : Op) (sight : Sight) : Prop :=
  ∀ value, operation = .write .pdVerifed value → Follows options sight value

theorem Op.Aside.faithful {operation : Op} (aside : operation.Aside) :
    Faithful options operation sight := by
  intro value same
  rw [same] at aside
  exact aside.elim

abbrev Sure {α : Type} (hmac : Text → Text → Text) (options : Options) (program : Script α)
    (returned : α → Sight → Prop) (sight : Sight) : Prop :=
  wp (machine hmac) (Faithful options) (fun _ _ => True) program returned sight

theorem sure_aside {α : Type} {program : Script α} (only : program.Only Op.Aside Anywhere) :
    Sure hmac options program (fun _ _ => True) sight :=
  wp_of_performed only (fun _ aside _ => aside.faithful) (fun _ _ _ => trivial)
    (fun _ _ => trivial)

theorem sure_then {α β : Type} {program : Script α} {next : α → Script β}
    (only : program.Only Op.Aside Anywhere)
    (later : ∀ value after, Sure hmac options (next value) (fun _ _ => True) after) :
    Sure hmac options (program.bind next) (fun _ _ => True) sight := by
  apply wp_seq
  exact wp_returned (sure_aside only) (fun value after _ => later value after)

theorem vdmState_eq :
    vdmState = (readNode .requestVdmCmd).bind (fun line =>
      (Numerals.readInt (partition line).1).elim (raise .value)
        (fun state => pure (state, payload line))) := by
  apply congrArg (readNode .requestVdmCmd).bind
  funext line
  cases Numerals.readInt (partition line).1 with
  | none => rfl
  | some state => rfl

theorem sure_vdmState :
    Sure hmac options vdmState (fun answer after => answer.2 = payload after.vdm) sight := by
  rw [vdmState_eq]
  refine ⟨Op.Aside.faithful trivial, fun reading => ?_⟩
  cases reading with
  | content data =>
      show Sure hmac options ((Numerals.readInt (partition (nodeText data)).1).elim (raise .value)
        (fun state => pure (state, payload (nodeText data)))) _ { sight with vdm := nodeText data }
      cases Numerals.readInt (partition (nodeText data)).1 with
      | none => trivial
      | some state => rfl
  | missing => trivial
  | failed => trivial

theorem sure_sendVdm (polls : Nat) (command : String) (expected : Int) (value : Text) :
    Sure hmac options (sendVdm polls command expected value)
      (fun answer after => answer.2 = payload after.vdm) sight := by
  have request : (writeNode .requestVdmCmd (text command ++ ',' :: value)).Only Op.Aside Anywhere :=
    only_writeNode trivial
  apply wp_seq
  apply wp_returned (sure_aside request)
  intro _ one _
  apply wp_seq
  apply wp_returned (sure_aside (only_waitState trivial trivial expected polls))
  intro _ two _
  exact sure_vdmState

/-- What the adapter answered is the payload of the VDM node. -/
theorem sure_challengeAdapter (polls : Nat) :
    Sure hmac options (challengeAdapter options polls)
      (fun result after => result.2.2 = payload after.vdm) sight := by
  apply wp_seq
  apply wp_returned
  · apply sure_aside
    split
    · trivial
    · exact ⟨trivial, fun _ => trivial⟩
  intro seedIndex one _
  apply wp_seq
  apply wp_returned (sure_aside (only_waitRealType polls _))
  intro realType two _
  have printing : (print (text "real_type=" ++ realType)).Only Op.Aside Anywhere :=
    ⟨trivial, fun _ => trivial⟩
  apply wp_seq
  apply wp_returned (sure_aside printing)
  intro _ shown _
  have host : (if options.noDataRoleSwap then (pure () : Script Unit) else do
      let _ ← ensureTypecHost polls
      pure ()).Only Op.Aside Anywhere := by
    apply Prog.only_ite
    · trivial
    · apply Prog.only_bind (only_ensureTypecHost polls)
      intro _
      trivial
  apply wp_seq
  apply wp_returned (sure_aside host)
  intro _ three _
  have skipping : shouldSkipPdo2.Only Op.Aside Anywhere := by
    refine ⟨trivial, fun reading => ?_⟩
    cases reading <;> trivial
  apply wp_seq
  apply wp_returned (sure_aside skipping)
  intro skip four _
  apply wp_seq
  apply wp_ite
  · intro _
    trivial
  · intro _
    apply wp_seq
    apply wp_returned (sure_aside only_enableBatteryAuth)
    intro _ five _
    apply wp_seq
    apply wp_returned (sure_aside (only_sendVdm polls "1" 1 _))
    intro _ six _
    apply wp_seq
    apply wp_returned (sure_aside (only_sendVdm polls "2" 2 _))
    intro _ seven _
    apply wp_seq
    apply wp_returned (sure_aside (only_sendVdm polls "3" 3 _))
    intro _ eight _
    apply wp_seq
    apply wp_returned (sure_aside (only_sendVdm polls "4" 4 _))
    intro _ nine _
    have drawing : (tokenHex 16).Only Op.Aside Anywhere := ⟨trivial, fun _ => trivial⟩
    apply wp_seq
    apply wp_returned (sure_aside drawing)
    intro challenge ten _
    have telling : (print (text "challenge=" ++ challenge)).Only Op.Aside Anywhere :=
      ⟨trivial, fun _ => trivial⟩
    apply wp_seq
    apply wp_returned (sure_aside telling)
    intro _ eleven _
    apply wp_seq
    apply wp_returned (sure_sendVdm polls "5" 5 challenge)
    intro answer after same
    exact same

theorem perform_deaf {operation : Op} (deaf : operation.Deaf) (answer : Answer operation)
    (sight : Sight) : ((machine hmac).perform operation answer sight).2.vdm = sight.vdm := by
  cases operation with
  | read node =>
      cases node with
      | requestVdmCmd => exact deaf.elim
      | realType => cases answer <;> rfl
      | _ => cases answer <;> rfl
  | pathExists node =>
      cases node with
      | realType => cases answer <;> rfl
      | _ => rfl
  | hmac key message => exact deaf.elim
  | _ => rfl

/-- What the operations of a part keep, the part keeps. -/
theorem sure_kept {α : Type} {program : Script α} {allowed : Op → Prop}
    (invariant : Sight → Prop) (only : program.Only allowed Anywhere)
    (aside : ∀ operation, allowed operation → operation.Aside)
    (kept : ∀ operation, allowed operation → ∀ answer before, invariant before →
      invariant ((machine hmac).perform operation answer before).2)
    (start : invariant sight) :
    Sure hmac options program (fun _ after => invariant after) sight :=
  wp_of_only only kept (fun operation can _ _ => (aside operation can).faithful)
    (fun _ _ _ _ => trivial) (fun _ _ same => same) start

theorem sure_detectAdapterId (polls : Nat) :
    Sure hmac options (detectAdapterId polls) (fun _ after => after.vdm = sight.vdm) sight := by
  apply sure_kept (fun after => after.vdm = sight.vdm) (only_detectAdapterId polls)
  · intro operation deaf
    exact deaf.aside
  · intro operation deaf answer before same
    rw [perform_deaf deaf answer before]
    exact same
  · rfl

/-- The comparison stays what it was. -/
def Kept (pdAuth : Bool) (sight : Sight) : Prop := pdAuth = true ↔ sight.Matched

theorem perform_settled {pdAuth : Bool} {operation : Op} (settled : operation.Settled)
    (answer : Answer operation) (kept : Kept pdAuth sight) :
    Kept pdAuth ((machine hmac).perform operation answer sight).2 := by
  cases operation with
  | read node =>
      cases node with
      | requestVdmCmd => cases answer <;> exact kept
      | realType => cases answer <;> exact kept
      | _ => cases answer <;> exact kept
  | pathExists node =>
      cases node with
      | realType => cases answer <;> exact kept
      | _ => exact kept
  | hmac key message => exact settled.elim
  | _ => exact kept

theorem sure_settled {α : Type} {pdAuth : Bool} {program : Script α}
    (only : program.Only Op.Settled Anywhere) (kept : Kept pdAuth sight) :
    Sure hmac options program (fun _ after => Kept pdAuth after) sight :=
  sure_kept (Kept pdAuth) only (fun _ settled => settled.aside)
    (fun _ settled answer _ same => perform_settled settled answer same) kept

/-! ### The gate -/

theorem currentStringValue_sees :
    Sure hmac options (currentStringValue .realType)
      (fun value after => after.realType = value ∧ after.response = sight.response ∧
        after.digest = sight.digest) sight := by
  refine ⟨Op.Aside.faithful trivial, fun (present : Bool) => ?_⟩
  cases present with
  | false => exact ⟨rfl, rfl, rfl⟩
  | true =>
      refine ⟨Op.Aside.faithful trivial, fun reading => ?_⟩
      cases reading with
      | content data => exact ⟨rfl, rfl, rfl⟩
      | missing => exact ⟨Op.Aside.faithful trivial, fun _ => ⟨rfl, rfl, rfl⟩⟩
      | failed => exact ⟨Op.Aside.faithful trivial, fun _ => ⟨rfl, rfl, rfl⟩⟩

theorem ratedVerdict_iff {rating : Option Nat} :
    (ratedVerdict rating).1 = true ↔ ∀ amps, rating = some amps → 5 ≤ amps := by
  cases rating with
  | none =>
      constructor
      · intro _ amps found
        cases found
      · intro _
        rfl
  | some amps =>
      by_cases high : 5 ≤ amps
      · rw [ratedVerdict, if_pos high]
        constructor
        · intro _ other same
          cases same
          exact high
        · intro _
          rfl
      · rw [ratedVerdict, if_neg high]
        constructor
        · intro impossible
          cases impossible
        · intro all
          exact absurd (all amps rfl) high

theorem sure_unverifiedAdapterAllowed :
    Sure hmac options unverifiedAdapterAllowed
      (fun answer after => (answer.1 = true ↔ after.realType = some pdPps ∧ Spared after) ∧
        (after.Matched ↔ sight.Matched)) sight := by
  apply wp_seq
  apply wp_returned currentStringValue_sees
  rintro realType one ⟨seen, response, digest⟩
  have same : one.Matched ↔ sight.Matched := by
    unfold Sight.Matched
    rw [response, digest]
  apply wp_ite
  · intro other
    refine ⟨⟨fun impossible => ?_, fun fast => ?_⟩, same⟩
    · cases impossible
    · rw [seen] at fast
      exact absurd fast.1 other
  · intro pps
    have fast : one.realType = some pdPps := by
      rw [seen]
      exact not_not.mp pps
    refine ⟨Op.Aside.faithful trivial, fun listed => ?_⟩
    refine ⟨⟨fun allowed => ⟨fast, ?_⟩, fun spared => ?_⟩, same⟩
    · exact ratedVerdict_iff.mp allowed
    · exact ratedVerdict_iff.mpr spared.2

theorem sure_decideGate {allowed pdAuth : Bool} (asked : options.allowUnverifiedAdapter = allowed)
    (kept : Kept pdAuth sight) :
    Sure hmac options (decideGate allowed pdAuth)
      (fun gate after => gate = true ↔ Asserted options after) sight := by
  unfold decideGate
  apply wp_ite
  · rintro ⟨unmatched, opted⟩
    have other : ¬sight.Matched := fun matched => unmatched (kept.mpr matched)
    apply wp_seq
    apply wp_returned sure_unverifiedAdapterAllowed
    rintro ⟨gate, reason⟩ one ⟨verdict, same⟩
    refine ⟨Op.Aside.faithful trivial, fun _ => ?_⟩
    show gate = true ↔ Asserted options one
    constructor
    · intro open_
      exact Or.inr ⟨asked.trans opted, (verdict.mp open_).1, (verdict.mp open_).2⟩
    · rintro (matched | ⟨_, fast, spared⟩)
      · exact absurd (same.mp matched) other
      · exact verdict.mpr ⟨fast, spared⟩
  · intro rest
    show pdAuth = true ↔ Asserted options sight
    constructor
    · intro matched
      exact Or.inl (kept.mp matched)
    · rintro (matched | ⟨opted, _, _⟩)
      · exact kept.mpr matched
      · by_contra unmatched
        exact rest ⟨unmatched, asked.symm.trans opted⟩

theorem sure_writeGate {allowed pdAuth : Bool} (asked : options.allowUnverifiedAdapter = allowed)
    (kept : Kept pdAuth sight) :
    Sure hmac options (writeGate allowed pdAuth) (fun _ _ => True) sight := by
  apply wp_seq
  apply wp_returned (sure_decideGate asked kept)
  intro gate one verdict
  apply wp_seq
  refine ⟨?_, fun (written : Bool) => ?_⟩
  · intro value same
    cases same
    cases gate with
    | true => exact Or.inl ⟨verdict.mp rfl, rfl⟩
    | false =>
        refine Or.inr ⟨fun asserted => ?_, rfl⟩
        cases verdict.mpr asserted
  · have telling : (if gate = true ∧ ¬pdAuth = true then
        print (text "pd_verifed=1 (adapter authentication bypassed on request)")
        else pure ()).Only Op.Aside Anywhere := by
      apply Prog.only_ite
      · exact ⟨trivial, fun _ => trivial⟩
      · trivial
    cases written with
    | true => exact sure_aside telling
    | false => trivial

theorem sure_openGate {allowed pdAuth : Bool} (asked : options.allowUnverifiedAdapter = allowed)
    (kept : Kept pdAuth sight) :
    Sure hmac options (openGate allowed pdAuth) (fun _ _ => True) sight := by
  refine ⟨Op.Aside.faithful trivial, fun (present : Bool) => ?_⟩
  cases present with
  | false => trivial
  | true => exact sure_writeGate asked kept

/-- The run once the digests are compared. -/
theorem sure_afterDigest {pdAuth : Bool} {digest adapterId : Text} (polls : Nat)
    (kept : Kept pdAuth sight) :
    Sure hmac options (do
      (if pdAuth then pure () else print (text "adapter auth mismatch"))
      print (text "adapter_id=" ++ adapterId)
      answerAdapter polls pdAuth digest
      openGate options.allowUnverifiedAdapter pdAuth
      print (text "pd_auth=" ++ flagText pdAuth)
      printStatus
      notifyCompletedCharge (some pdAuth)) (fun _ _ => True) sight := by
  have telling : (if pdAuth then pure () else print (text "adapter auth mismatch")).Only
      Op.Settled Anywhere := by
    apply Prog.only_ite
    · trivial
    · exact ⟨trivial, fun _ => trivial⟩
  have naming : (print (text "adapter_id=" ++ adapterId)).Only Op.Settled Anywhere :=
    ⟨trivial, fun _ => trivial⟩
  apply wp_seq
  apply wp_returned (sure_settled telling kept)
  intro _ one kept
  apply wp_seq
  apply wp_returned (sure_settled naming kept)
  intro _ two kept
  apply wp_seq
  apply wp_returned (sure_settled (only_answerAdapter polls pdAuth digest) kept)
  intro _ three kept
  apply wp_seq
  apply wp_returned (sure_openGate rfl kept)
  intro _ four _
  apply sure_aside
  exact ⟨trivial, fun _ => ⟨trivial, fun _ => ⟨trivial, fun _ => trivial⟩⟩⟩

theorem sure_authenticate (polls : Nat) :
    Sure hmac options (authenticate options polls) (fun _ _ => True) sight := by
  apply wp_seq
  apply wp_returned (sure_challengeAdapter polls)
  rintro ⟨seedIndex, challenge, auth⟩ one answered
  apply wp_seq
  apply wp_returned (sure_detectAdapterId polls)
  intro found two heard
  cases found with
  | none => trivial
  | some adapterId =>
      refine ⟨Op.Aside.faithful trivial, fun _ => ?_⟩
      have response : payload two.vdm = auth := by
        rw [heard]
        exact answered.symm
      have kept : Kept (decide ((lower auth).take 32 =
          (hmac (text (keys.getD seedIndex.val "")) (challenge ++ adapterId)).take 32))
          { two with
            digest := hmac (text (keys.getD seedIndex.val "")) (challenge ++ adapterId)
            response := payload two.vdm } := by
        rw [Kept, decide_eq_true_iff, response]
        exact Iff.rfl
      exact sure_afterDigest polls kept

/-- What an attempt notes of the attachment leaves the handshake alone. -/
theorem attempt_noting (options : Options) (polls : Nat) (token : Option Text) :
    ∃ note : Script Unit, note.Only Op.Aside Anywhere ∧
      attempt options polls token = ((authenticate options polls).onExit (fun status =>
        if status = (Raised.unsupported true).status then do
          notifyCompletedCharge none
          note
          .exit status
        else if status = (Raised.unsupported false).status then do
          notifyCompletedCharge none
          .exit status
        else .exit status)).bind (fun _ => note) := by
  cases token with
  | none => exact ⟨pure (), trivial, rfl⟩
  | some attached =>
      exact ⟨writeState .lastAttach attached, ⟨trivial, fun _ => trivial⟩, rfl⟩

theorem sure_attempt (polls : Nat) (token : Option Text) :
    Sure hmac options (attempt options polls token) (fun _ _ => True) sight := by
  obtain ⟨note, noting, shape⟩ := attempt_noting options polls token
  rw [shape]
  have telling : (notifyCompletedCharge none).Only Op.Aside Anywhere := ⟨trivial, fun _ => trivial⟩
  apply wp_seq
  rw [wp_onExit]
  apply wp_mono (sure_authenticate polls) (fun _ _ => id)
  · intro status after _
    apply wp_ite
    · intro _
      apply wp_seq
      apply wp_returned (sure_aside telling)
      intro _ one _
      apply wp_seq
      apply wp_returned (sure_aside noting)
      intro _ two _
      trivial
    · intro _
      apply wp_ite
      · intro _
        apply wp_seq
        apply wp_returned (sure_aside telling)
        intro _ one _
        trivial
      · intro _
        trivial
  · intro _ after _
    exact sure_aside noting

theorem sure_attached (polls : Nat) (token : Option Text) :
    Sure hmac options (attached options polls token) (fun _ _ => True) sight := by
  have completed : (do
      enableBatteryAuth
      print (text "MiPPS auth sequence already completed")
      printStatus
      notifyCompletedCharge none : Script Unit).Only Op.Aside Anywhere := by
    apply Prog.only_bind only_enableBatteryAuth
    intro _
    exact ⟨trivial, fun _ => ⟨trivial, fun _ => ⟨trivial, fun _ => trivial⟩⟩⟩
  apply sure_then (only_vdmState trivial)
  rintro ⟨state, _⟩ one
  apply wp_ite
  · intro _
    exact sure_aside completed
  · intro _
    exact sure_attempt polls token

theorem sure_onceAttached (polls : Nat) :
    Sure hmac options (onceAttached options polls) (fun _ _ => True) sight := by
  unfold onceAttached
  apply wp_ite
  · intro _
    refine ⟨Op.Aside.faithful trivial, fun (token : Option Text) => ?_⟩
    cases token with
    | none => exact ⟨Op.Aside.faithful trivial, fun _ => sure_attached polls none⟩
    | some current =>
        refine ⟨Op.Aside.faithful trivial, fun (before : Option Text) => ?_⟩
        show Sure hmac options (if before = some current then
          print (text "MiPPS auth skipped: already attempted for current Type-C attach")
          else attached options polls (some current)) _ _
        apply wp_ite
        · intro _
          exact ⟨Op.Aside.faithful trivial, fun _ => trivial⟩
        · intro _
          exact sure_attached polls (some current)
  · intro _
    exact sure_attached polls none

theorem sure_online (polls : Nat) :
    Sure hmac options (online options polls) (fun _ _ => True) sight := by
  have finding : (if options.sysfs then pure true else findDirectory).Only Op.Aside Anywhere := by
    apply Prog.only_ite
    · trivial
    · exact ⟨trivial, fun _ => trivial⟩
  apply sure_then finding
  intro found one
  apply wp_ite
  · intro _
    apply sure_then (only_waitUsbOnline polls)
    intro online two
    apply wp_ite
    · intro _
      exact ⟨Op.Aside.faithful trivial, fun _ => sure_onceAttached polls⟩
    · intro _
      apply sure_aside
      exact ⟨trivial, fun _ => ⟨trivial, fun _ => ⟨trivial, fun _ => ⟨trivial, fun _ => trivial⟩⟩⟩⟩
  · intro _
    trivial

theorem sure_main (polls : Nat) :
    Sure hmac options (main options polls) (fun _ _ => True) sight := by
  unfold main
  apply wp_ite
  · intro _
    apply sure_aside
    exact ⟨trivial, fun _ => ⟨trivial, fun _ => ⟨trivial, fun _ => ⟨trivial, fun _ => trivial⟩⟩⟩⟩
  · intro _
    apply wp_ite
    · intro _
      apply sure_aside
      refine ⟨trivial, fun (before : Option Text) => ?_⟩
      apply Prog.only_ite
      · exact ⟨trivial, fun _ => trivial⟩
      · refine ⟨trivial, fun _ => ⟨trivial, fun (started : Bool) => ?_⟩⟩
        cases started with
        | true => exact ⟨trivial, fun _ => trivial⟩
        | false => trivial
    · intro _
      exact sure_online polls

/-- Whatever a run has read: what it is about to write to the gate is what the
digest, the option, the type and the cables call for, unless the opt-in decides
over a cable that encodes no rating. -/
theorem gate_judged {polls : Nat} {rest : Answer (.write .pdVerifed value) → Script Unit}
    {last : Sight}
    (reaches : Reaches (machine hmac) (main options polls, sight)
      (.act (.write .pdVerifed value) rest, last)) :
    Judged options last value ↔ ¬OverUnrated options last := by
  apply judged_iff
  exact wp_sound (sure_main polls) reaches value rfl

end Runs

/-! ### A run that opens the gate -/

def ascii (string : String) : Bytes := string.toList.map (fun char => UInt8.ofNat char.toNat)

def optedIn : Options :=
  { sysfs := true
    seedIndex := some 0
    noDataRoleSwap := true
    allowUnverifiedAdapter := true
    force := false
    oncePerAttach := false
    clearNotification := false
    usbOnlineTrigger := false }

/-- HMAC-SHA256 as the run needs it. -/
def referenceHmac (key message : Text) : Text :=
  if key = text "5c4d4179da1501ed11747492e26083d96b8fbc73c82e7bdf5d3255c2a036a1dc" ∧
      message = text "000102030405060708090a0b0c0d0e0f12345678" then
    text "35ceeabe58547144a211288680522c0321ef4400251a9065f1028586698f42ba"
  else []

/-- A third-party adapter behind a cable: every command is acknowledged, and
command 5 is not answered with a digest. -/
def thirdParty (cable : Bytes) (steps : Nat) : (operation : Op) → Answer operation
  | .findXiaomiDir => true
  | .findPowerSupply => true
  | .findTypecPort => false
  | .pathExists _ => true
  | .read .requestVdmCmd => .content (ascii (toString ((38 - steps) / 4) ++ ",null"))
  | .read .realType => .content (ascii "PD_PPS")
  | .read .adapterId => .content (ascii "12345678")
  | .read .pdo2 => .missing
  | .read _ => .content (ascii "1")
  | .write _ _ => true
  | .cables => [{ path := text "/sys/class/typec/port0-cable", vdo1 := some cable }]
  | .attachToken => none
  | .readState _ => none
  | .startUnit => true
  | .waiting => true
  | .randomSeed => (0 : Fin 10)
  | .randomHex _ => text "000102030405060708090a0b0c0d0e0f"
  | .hmac key message => referenceHmac key message
  | .writeState _ _ => ()
  | .print _ => ()
  | .printStatus => ()
  | .notify _ => ()

def adapterRun (cable : Bytes) : Script Unit × Sight :=
  play (machine referenceHmac) (fun steps operation _ => thirdParty cable steps operation) 51
    (main optedIn 1, Sight.start)

/-- A cable that is rated for 5 A. -/
def ratedCable : Bytes := ascii "0x110a2042\n"

/-- A cable whose current field is reserved. -/
def reservedCable : Bytes := ascii "0x110a2011\n"

instance (options : Options) (sight : Sight) : Decidable (OverUnrated options sight) :=
  inferInstanceAs (Decidable (_ ∧ _ ∧ _ ∧ (_ ∨ _)))

instance (options : Options) (sight : Sight) : Decidable (Opted options sight) :=
  inferInstanceAs (Decidable (_ ∧ _ ∧ (_ ∨ _)))

theorem gate_judged_rated : ∃ rest,
    Reaches (machine referenceHmac) (main optedIn 1, Sight.start)
      (.act (.write .pdVerifed ['1']) rest, (adapterRun ratedCable).2) ∧
    Judged optedIn (adapterRun ratedCable).2 ['1'] := by
  have due : (adapterRun ratedCable).1.pending = some (.write .pdVerifed ['1']) := by
    decide +kernel
  have rated : ¬OverUnrated optedIn (adapterRun ratedCable).2 := by
    decide +kernel
  obtain ⟨rest, reaches⟩ := acts_of_play _ _ 51 due
  exact ⟨rest, reaches, (gate_judged reaches).mpr rated⟩

/-- The gate is opened over a cable that exposes a word without a rating. -/
theorem unrated_opened : ∃ rest,
    Reaches (machine referenceHmac) (main optedIn 1, Sight.start)
      (.act (.write .pdVerifed ['1']) rest, (adapterRun reservedCable).2) ∧
    ¬Judged optedIn (adapterRun reservedCable).2 ['1'] := by
  have due : (adapterRun reservedCable).1.pending = some (.write .pdVerifed ['1']) := by
    decide +kernel
  have unpermitted : ¬((adapterRun reservedCable).2.Matched ∨
      Opted optedIn (adapterRun reservedCable).2) := by
    decide +kernel
  obtain ⟨rest, reaches⟩ := acts_of_play _ _ 51 due
  refine ⟨rest, reaches, fun judged => ?_⟩
  exact unpermitted (judged.1 rfl)

end Liuqin.Power.Mipps
