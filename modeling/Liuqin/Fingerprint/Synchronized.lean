/-
The client and the provider joined by their two pipes
(device/fingerprint/oem/src/fingerprint/oem/authorize_oem.py).

What a side reads is the beginning of what the other has written and this side
has not read, and end-of-file comes only when nothing is left and the other side
is over.  A read that would block is one that has not answered yet.
-/

import Liuqin.Library.Parallel
import Liuqin.Fingerprint.Gatekeeper
import Liuqin.Fingerprint.Rounds

namespace Liuqin.Fingerprint.Synchronized

open Liuqin.Library.Program Liuqin.Library.Parallel
open Gatekeeper (Provider ProviderOp ProviderAnswer ProviderScript providerMachine providerMain
  verified)
open Rounds (obtained submitted Answers challengeSize)

/-! ### The pipes -/

/-- What a read can come back with; a failed one gives nothing. -/
def Arrives (unread : Bytes) (gone : Bool) : Option Bytes → Prop
  | none => True
  | some chunk => chunk <+: unread ∧ (chunk = [] → unread = [] ∧ gone = true)

instance decidableArrives (unread : Bytes) (gone : Bool) :
    (answer : Option Bytes) → Decidable (Arrives unread gone answer)
  | none => inferInstanceAs (Decidable True)
  | some _ => inferInstanceAs (Decidable (_ ∧ (_ → _)))

def clientLinked : (operation : ClientOp) → ClientAnswer operation → Client → Provider → Bool → Prop
  | .readHat _, (answer : Option Bytes), client, provider, gone =>
      Arrives (provider.sent.drop client.hatReceived.length) gone answer
  | _, _, _, _, _ => True

def providerLinked :
    (operation : ProviderOp) → ProviderAnswer operation → Provider → Client → Bool → Prop
  | .read .challenge _, (answer : Option Bytes), provider, client, gone =>
      Arrives (client.challengeSent.drop provider.received.length) gone answer
  | _, _, _, _, _ => True

def pipes : Link clientMachine providerMachine where
  left := fun operation fault client provider gone =>
    clientLinked operation fault.answer client provider gone
  right := fun operation fault provider client gone =>
    providerLinked operation fault provider client gone

/-- Nothing was read that was not written. -/
structure Joined (client : Client) (provider : Provider) : Prop where
  hats : client.hatReceived <+: provider.sent
  challenges : provider.received <+: client.challengeSent

theorem Arrives.taken {unread chunk : Bytes} {gone : Bool} {answer : Option Bytes}
    (arrives : Arrives unread gone answer) (length : Nat)
    (taken : (answer.map (List.take length)).getD [] = chunk) : chunk <+: unread := by
  subst taken
  cases answer with
  | none => exact List.nil_prefix
  | some offered => exact (List.take_prefix length offered).trans arrives.1

theorem Joined.same {client after : Client} {provider : Provider} (joined : Joined client provider)
    (received : after.hatReceived = client.hatReceived)
    (sent : after.challengeSent = client.challengeSent) : Joined after provider := by
  constructor
  · rw [received]
    exact joined.hats
  · rw [sent]
    exact joined.challenges

theorem joined_client (operation : ClientOp) (fault : ClientFault operation) (client : Client)
    (provider : Provider) (gone : Bool)
    (linked : clientLinked operation fault.answer client provider gone)
    (joined : Joined client provider) :
    Joined (clientMachine.perform operation fault client).2 provider := by
  have aside : Rounds.ClientOp.Apart operation →
      Joined (clientMachine.perform operation fault client).2 provider := by
    intro apart
    have same := Rounds.perform_apart apart fault client
    exact joined.same same.hatReceived same.challengeSent
  cases operation with
  | invoke session request =>
      have logged := Rounds.perform_logged session request fault client
      exact joined.same logged.hatReceived logged.challengeSent
  | writeChallenge bytes =>
      constructor
      · exact joined.hats
      · exact prefix_written joined.challenges _
  | pollHat timeout => exact joined.same rfl rfl
  | readHat length =>
      constructor
      · exact prefix_read joined.hats (Arrives.taken linked length rfl)
      · exact joined.challenges
  | _ => exact aside trivial

theorem joined_provider (operation : ProviderOp) (answer : ProviderAnswer operation)
    (provider : Provider) (client : Client) (gone : Bool)
    (linked : providerLinked operation answer provider client gone)
    (joined : Joined client provider) :
    Joined client (providerMachine.perform operation answer provider).2 := by
  cases operation with
  | read source length =>
      cases source with
      | challenge =>
          constructor
          · exact joined.hats
          · exact prefix_read joined.challenges (Arrives.taken linked length rfl)
      | handle => exact joined
      | password => exact joined
  | writeHat bytes =>
      constructor
      · exact prefix_written joined.hats _
      · exact joined.challenges
  | poll source =>
      cases source with
      | challenge => exact ⟨joined.hats, joined.challenges⟩
      | handle => exact joined
      | password => exact joined
  | awaitChallenge => exact ⟨joined.hats, joined.challenges⟩
  | verify challenge => exact ⟨joined.hats, joined.challenges⟩
  | _ => exact joined

/-! ### The two sides together -/

/-- In every state the i-th token submitted is the i-th one signed and carries
the i-th challenge, which the provider read whole. -/
structure InStep (client : Client) (provider : Provider) : Prop where
  carried : ∀ (round : Nat) (token : Nat × Bytes), (submitted client.log)[round]? = some token →
    ∃ challenge, (obtained client.log)[round]? = some challenge ∧ Answers token challenge
  signed : (submitted client.log).map Prod.snd <+: (verified provider.log).map Prod.snd
  asked : (verified provider.log).map Prod.fst <+: (obtained client.log).map Prod.snd
  single : (obtained client.log).length ≤ (submitted client.log).length + 1
  challengesSent : client.challengeSent <+: ((obtained client.log).map Prod.snd).flatten
  challengesRead : ((verified provider.log).map Prod.fst).flatten <+: provider.received
  hatsSent : provider.sent <+: ((verified provider.log).map Prod.snd).flatten
  hatsRead : ((submitted client.log).map Prod.snd).flatten <+: client.hatReceived
  challengeBytes : challengeSize * (submitted client.log).length ≤ client.challengeSent.length ∧
    client.challengeSent.length ≤ challengeSize * (obtained client.log).length
  hatBytes : hatSize * (submitted client.log).length ≤ client.hatReceived.length ∧
    client.hatReceived.length ≤ hatSize * (obtained client.log).length

/-- So many rounds were obtained, signed and submitted, with all their bytes. -/
structure Complete (rounds : Nat) (client : Client) (provider : Provider) : Prop where
  obtained : (obtained client.log).length = rounds
  submitted : (submitted client.log).length = rounds
  verified : (verified provider.log).map Prod.fst = (Rounds.obtained client.log).map Prod.snd
  challengeBytes : client.challengeSent.length = challengeSize * rounds
  hatBytes : client.hatReceived.length = hatSize * rounds

section Together

variable {client : Client} {provider : Provider} {done rest : List (Nat × Bytes)} {part : Bytes}

theorem answered_sized {tokens challenges : List (Nat × Bytes)}
    (answered : List.Forall₂ Answers tokens challenges) :
    ∀ hat ∈ tokens.map Prod.snd, hat.length = hatSize := by
  induction answered with
  | nil => exact fun hat member => absurd member List.not_mem_nil
  | cons answers _ ih =>
      intro hat member
      rw [List.map_cons] at member
      rcases List.mem_cons.mp member with rfl | member
      · exact answers.sized
      · exact ih hat member

theorem answered_get {tokens challenges more : List (Nat × Bytes)}
    (answered : List.Forall₂ Answers tokens challenges) {round : Nat} {token : Nat × Bytes}
    (found : tokens[round]? = some token) :
    ∃ challenge, (challenges ++ more)[round]? = some challenge ∧ Answers token challenge := by
  induction answered generalizing round with
  | nil => cases found
  | cons answers _ ih =>
      cases round with
      | zero =>
          cases found
          exact ⟨_, rfl, answers⟩
      | succ round => exact ih found

theorem mapped_sized {α : Type} {items : List α} {message : α → Bytes} {size : Nat}
    (sized : ∀ item ∈ items, (message item).length = size) :
    ∀ bytes ∈ items.map message, bytes.length = size := by
  intro bytes member
  obtain ⟨item, inside, rfl⟩ := List.mem_map.mp member
  exact sized item inside

theorem inStep_of (exchanged : Rounds.Exchanged client) (served : Gatekeeper.Served provider)
    (joined : Joined client provider) : InStep client provider := by
  obtain ⟨done, rest, part, exchange⟩ := exchanged
  obtain ⟨served, pending, unread, serving⟩ := served
  have tokens := answered_sized exchange.answered
  have challenges := mapped_sized exchange.sized
  have counted := exchange.answered.length_eq
  have hats : ((submitted client.log).map Prod.snd).flatten <+: client.hatReceived := by
    rw [exchange.received]
    exact List.prefix_append _ _
  have asks : ((verified provider.log).map Prod.fst).flatten <+: provider.received := by
    rw [serving.verified, serving.received]
    exact List.prefix_append _ _
  have sent : client.challengeSent <+: ((obtained client.log).map Prod.snd).flatten := by
    rw [exchange.obtained]
    exact exchange.sentMost
  have signs : provider.sent <+: ((verified provider.log).map Prod.snd).flatten := by
    rw [serving.verified]
    exact serving.sentMost
  have tokenBytes := flatten_length tokens
  have challengeBytes := flatten_length challenges
  rw [List.length_map] at tokenBytes challengeBytes
  constructor
  · intro round token found
    rw [exchange.obtained]
    exact answered_get exchange.answered found
  · apply messages_prefix (by decide) tokens
    · rw [serving.verified]
      exact mapped_sized fun round member => (serving.carried round member).2.1
    · exact (hats.trans joined.hats).trans signs
  · apply messages_prefix (by decide : 0 < challengeSize)
    · rw [serving.verified]
      exact mapped_sized fun round member => (serving.carried round member).1
    · rw [exchange.obtained]
      exact challenges
    · exact (asks.trans joined.challenges).trans sent
  · rw [exchange.obtained, List.length_append, counted]
    have single := exchange.single
    omega
  · exact sent
  · exact asks
  · exact signs
  · exact hats
  · have least := exchange.sentLeast.length_le
    have most := sent.length_le
    rw [flatten_length (mapped_sized fun item member => exchange.sized item
      (List.mem_append_left rest member)), List.length_map] at least
    rw [exchange.obtained, challengeBytes] at most
    rw [counted, exchange.obtained]
    exact ⟨least, most⟩
  · have read := congrArg List.length exchange.received
    have bounded := exchange.bounded
    rw [List.length_append, tokenBytes] at read
    rw [read, exchange.obtained, List.length_append, Nat.mul_add, counted]
    omega

/-- A client at rest after its rounds. -/
theorem complete_of {rounds : Nat} (settled : Rounds.Settled rounds client)
    (inStep : InStep client provider) : Complete rounds client provider := by
  obtain ⟨done, counted, exchange, _⟩ := settled
  have asked : (obtained client.log).length = rounds := by
    rw [exchange.obtained, List.append_nil, counted]
  have answered : (submitted client.log).length = rounds := exchange.answered.length_eq.trans counted
  have signed := inStep.signed.length_le
  rw [List.length_map, List.length_map, answered] at signed
  constructor
  · exact asked
  · exact answered
  · apply inStep.asked.eq_of_length_le
    rw [List.length_map, List.length_map, asked]
    exact signed
  · have bytes := inStep.challengeBytes
    rw [asked, answered] at bytes
    omega
  · have bytes := inStep.hatBytes
    rw [asked, answered] at bytes
    omega

theorem complete_of_rested {rounds : Nat} (rested : Gatekeeper.Rested rounds provider) :
    (verified provider.log).length = rounds ∧
    provider.received.length = challengeSize * rounds ∧
    provider.sent.length = hatSize * rounds ∧ provider.starved = false := by
  obtain ⟨done, counted, serving, calm⟩ := rested
  have carried := serving.carried
  have received := serving.received
  rw [List.append_nil] at carried received
  rw [List.append_nil] at received
  have challenges := flatten_length (mapped_sized fun round member => (carried round member).1)
  have hats := flatten_length (mapped_sized fun round member => (carried round member).2.1)
  rw [List.length_map, counted] at challenges hats
  refine ⟨?_, ?_, ?_, calm⟩
  · rw [serving.verified, List.append_nil, counted]
  · rw [received]
    exact challenges
  · rw [serving.whole]
    exact hats

end Together

/-! ### Every schedule -/

/-- The operations of the launcher: the client's mode, and the rounds of the
provider behind its first. -/
inductive Authorization where
  | preflight
  | preflightRenew
  | enrol
  | enrolExisting
  deriving DecidableEq, Repr

def Authorization.mode : Authorization → Mode
  | .preflight => .authPreflight true
  | .preflightRenew => .authPreflightRenew
  | .enrol => .bioPipeline false
  | .enrolExisting => .bioPipeline true

def Authorization.further : Authorization → Nat
  | .preflight => 0
  | _ => 1

def launch (authorization : Authorization) (found : Option Bytes) :
    Duet ClientAnswer ProviderAnswer Int Int Client Provider where
  left := (main authorization.mode, Client.start found)
  right := (providerMain authorization.further, Provider.start)
  leftStopped := false
  rightStopped := false

/-- The exit status of a process that has come to its end. -/
def exitStatus {Op : Type} {Answer : Op → Type} : Prog Answer Int → Option Int
  | .done value => some value
  | .exit status => some status
  | .act _ _ => none

/-- What the launcher exits with. -/
def launcherStatus (cancelled : Bool) (client provider : Int) : Int :=
  if cancelled = false ∧ client = 0 ∧ provider = 0 then 0 else 1

theorem rounds_of_authorization (authorization : Authorization) :
    Rounds.connects authorization.mode = true ∧
      Rounds.expectedRounds authorization.mode = 1 + authorization.further := by
  cases authorization <;> exact ⟨rfl, rfl⟩

theorem joined_start (authorization : Authorization) (found : Option Bytes) :
    Joined (launch authorization found).left.2 (launch authorization found).right.2 :=
  ⟨List.prefix_refl _, List.prefix_refl _⟩

/-- Whatever the schedule, the partial transfers, the answers of the
applications and the moment a side stops: the rounds stay in step, a side that
ends with status 0 has all its rounds and never starved. -/
theorem rounds_synchronized (authorization : Authorization) (found : Option Bytes)
    {after : Duet ClientAnswer ProviderAnswer Int Int Client Provider}
    (run : Runs pipes (launch authorization found) after) :
    InStep after.left.2 after.right.2 ∧
    (exitStatus after.left.1 = some 0 →
      Complete (1 + authorization.further) after.left.2 after.right.2 ∧
      after.left.2.starved = false) ∧
    (exitStatus after.right.1 = some 0 →
      (verified after.right.2.log).length = 1 + authorization.further ∧
      after.right.2.received.length = challengeSize * (1 + authorization.further) ∧
      after.right.2.sent.length = hatSize * (1 + authorization.further) ∧
      after.right.2.starved = false) ∧
    ∀ cancelled client provider, exitStatus after.left.1 = some client →
      exitStatus after.right.1 = some provider → launcherStatus cancelled client provider = 0 →
      Complete (1 + authorization.further) after.left.2 after.right.2 := by
  obtain ⟨connected, rounds⟩ := rounds_of_authorization authorization
  obtain ⟨exchanged, left, settled⟩ := Rounds.client_exchanged connected (left_reaches run)
  obtain ⟨served, ended, rested⟩ := Gatekeeper.provider_served (right_reaches run)
  have joined : Joined after.left.2 after.right.2 :=
    related joined_client joined_provider run (joined_start authorization found)
  have inStep := inStep_of exchanged served joined
  rw [rounds] at settled
  have completes : exitStatus after.left.1 = some 0 →
      Rounds.Settled (1 + authorization.further) after.left.2 := by
    intro zero
    cases place : after.left.1 with
    | done value =>
        rw [place] at zero
        exact settled value place (Option.some.inj zero)
    | exit status =>
        rw [place] at zero
        exact absurd (Int.ofNat_eq_zero.mp (Option.some.inj zero)) (left status place)
    | act operation next =>
        rw [place] at zero
        cases zero
  refine ⟨inStep, fun zero => ?_, fun zero => ?_, ?_⟩
  · have complete := completes zero
    obtain ⟨_, _, _, calm⟩ := id complete
    exact ⟨complete_of complete inStep, calm⟩
  · cases place : after.right.1 with
    | done value => exact complete_of_rested (rested value place).2
    | exit status =>
        rw [place] at zero
        exact absurd (Int.ofNat_eq_zero.mp (Option.some.inj zero)) (ended status place)
    | act operation next =>
        rw [place] at zero
        cases zero
  · intro cancelled client provider came _ joint
    unfold launcherStatus at joint
    split at joint
    · rename_i good
      rw [good.2.1] at came
      exact complete_of (completes came) inStep
    · cases joint

/-! ### Two rounds -/

instance (operation : ClientOp) (fault : clientMachine.Fault operation) (client : Client)
    (provider : Provider) (gone : Bool) :
    Decidable (pipes.left operation fault client provider gone) := by
  cases operation with
  | readHat length => exact decidableArrives _ gone (ClientFault.answer fault)
  | _ => exact inferInstanceAs (Decidable True)

instance (operation : ProviderOp) (fault : providerMachine.Fault operation) (provider : Provider)
    (client : Client) (gone : Bool) :
    Decidable (pipes.right operation fault provider client gone) := by
  cases operation with
  | read source length =>
      cases source with
      | challenge => exact decidableArrives _ gone fault
      | _ => exact inferInstanceAs (Decidable True)
  | _ => exact inferInstanceAs (Decidable True)

/-- A client whose application accepts everything, and who reads what there is. -/
def clientPlays (operation : ClientOp) (client : Client) (provider : Provider) :
    ClientFault operation :=
  match operation with
  | .readHat _ =>
      { answer := some (provider.sent.drop client.hatReceived.length)
        signal := false
        outside := none }
  | operation => cooperative 0 operation client

/-- A provider whose application signs everything; the handle and the password
are one byte long. -/
def providerPlays (operation : ProviderOp) (provider : Provider) (client : Client) :
    ProviderAnswer operation :=
  match operation with
  | .read .challenge _ => some (client.challengeSent.drop provider.received.length)
  | .read _ length => some (if length = Gatekeeper.credentialLimit then [1] else [])
  | .verify challenge =>
      some (Gatekeeper.Verification.mk 0 (Gatekeeper.littleEndian challenge) 0 0 0 0
        (List.replicate 32 0))
  | .writeHat bytes => some bytes.length
  | .eprint _ => ()
  | .descriptors => true
  | .openKeymaster => true
  | .negotiateKeymaster => true
  | .poll _ => true
  | .awaitChallenge => true

def renewedRun : Duet ClientAnswer ProviderAnswer Int Int Client Provider :=
  playTurns pipes clientPlays providerPlays (List.replicate 90 [Turn.left, Turn.right]).flatten
    (launch .preflightRenew none)

theorem rounds_synchronized_renewed : Complete 2 renewedRun.left.2 renewedRun.right.2 ∧
    renewedRun.left.2.starved = false := by
  have run : Runs pipes (launch .preflightRenew none) renewedRun :=
    playTurns_runs pipes clientPlays providerPlays _ _
  have ended : exitStatus renewedRun.left.1 = some 0 := by
    decide +kernel
  exact (rounds_synchronized .preflightRenew none run).2.1 ended

end Liuqin.Fingerprint.Synchronized
