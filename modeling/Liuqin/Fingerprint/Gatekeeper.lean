/-
The Gatekeeper provider that signs the client's challenges
(device/fingerprint/oem/src/fingerprint/oem/qsee_gatekeeper.c, --verify and
--verify-enrol).

A failed call leaves with status 1 over the `out` label.  A poll that is
repeated after a timeout is one that has not answered yet.
-/

import Mathlib.Data.List.Basic
import Liuqin.Fingerprint.Client

namespace Liuqin.Fingerprint.Gatekeeper

open Liuqin.Library.Program

/-! ### Numbers in memory -/

/-- The value of little-endian bytes. -/
def littleEndian (bytes : Bytes) : Nat :=
  bytes.foldr (fun byte rest => byte.toNat + 256 * rest) 0

/-- A number as so many little-endian bytes. -/
def encode : Nat → Nat → Bytes
  | 0, _ => []
  | count + 1, value => UInt8.ofNat (value % 256) :: encode count (value / 256)

@[simp] theorem encode_length (count value : Nat) : (encode count value).length = count := by
  induction count generalizing value with
  | zero => rfl
  | succ count ih => rw [encode, List.length_cons, ih]

theorem encode_littleEndian (bytes : Bytes) : encode bytes.length (littleEndian bytes) = bytes := by
  induction bytes with
  | nil => rfl
  | cons byte rest ih =>
      have bound := byte.toNat_lt
      have value : littleEndian (byte :: rest) = byte.toNat + 256 * littleEndian rest := rfl
      have low : (byte.toNat + 256 * littleEndian rest) % 256 = byte.toNat := by omega
      have high : (byte.toNat + 256 * littleEndian rest) / 256 = littleEndian rest := by omega
      rw [List.length_cons, encode, value, low, high, ih, UInt8.ofNat_toNat]

/-! ### Commands -/

/-- The decoded map of the application's answer. -/
structure Verification where
  version : Nat
  challenge : Nat
  sid : Nat
  authId : Nat
  type : Nat
  timestamp : Nat
  mac : Bytes
  deriving DecidableEq, Repr

inductive Source where
  | handle
  | password
  | challenge
  deriving DecidableEq, Repr

inductive ProviderOp where
  | descriptors
  | openKeymaster
  | negotiateKeymaster
  | poll (source : Source)
  | read (source : Source) (length : Nat)
  | awaitChallenge
  | verify (challenge : Bytes)
  | writeHat (bytes : Bytes)
  | eprint (text : String)

/-- `none` and `false` stand for a failed call. -/
def ProviderAnswer : ProviderOp → Type
  | .read _ _ => Option Bytes
  | .verify _ => Option Verification
  | .writeHat _ => Option Nat
  | .eprint _ => Unit
  | _ => Bool

/-! ### The machine -/

/-- The log holds the challenges submitted and what came back, oldest first.
The provider has taken `received` from the one pipe and written `sent` to the
other; it has `starved` once the former gave nothing where a byte was due. -/
structure Provider where
  log : List (Bytes × Option Verification)
  received : Bytes
  sent : Bytes
  starved : Bool
  deriving DecidableEq

def Provider.start : Provider where
  log := []
  received := []
  sent := []
  starved := false

def Provider.took (provider : Provider) (chunk : Bytes) : Provider :=
  { provider with
    received := provider.received ++ chunk
    starved := provider.starved || chunk.isEmpty }

def providerReact : (operation : ProviderOp) → ProviderAnswer operation → Provider →
    ProviderAnswer operation × Provider
  | .poll .challenge, (answer : Bool), provider =>
      (answer, { provider with starved := provider.starved || !answer })
  | .awaitChallenge, (answer : Bool), provider =>
      (answer, { provider with starved := provider.starved || !answer })
  | .read .challenge length, (answer : Option Bytes), provider =>
      (answer.map (List.take length), provider.took ((answer.map (List.take length)).getD []))
  | .read _ length, (answer : Option Bytes), provider => (answer.map (List.take length), provider)
  | .verify challenge, (answer : Option Verification), provider =>
      (answer, { provider with log := provider.log ++ [(challenge, answer)] })
  | .writeHat bytes, (answer : Option Nat), provider =>
      (answer.map (min bytes.length),
        { provider with sent := provider.sent ++ bytes.take (answer.getD 0) })
  | .poll _, answer, provider => (answer, provider)
  | .descriptors, answer, provider => (answer, provider)
  | .openKeymaster, answer, provider => (answer, provider)
  | .negotiateKeymaster, answer, provider => (answer, provider)
  | .eprint _, answer, provider => (answer, provider)

def providerMachine : Machine ProviderAnswer Provider where
  Fault := ProviderAnswer
  perform := providerReact

abbrev ProviderScript := Prog ProviderAnswer

def ask (operation : ProviderOp) : ProviderScript (ProviderAnswer operation) :=
  Prog.perform operation

def descriptors : ProviderScript Bool := ask .descriptors
def openKeymaster : ProviderScript Bool := ask .openKeymaster
def negotiateKeymaster : ProviderScript Bool := ask .negotiateKeymaster
def pollSource (source : Source) : ProviderScript Bool := ask (.poll source)
def readSource (source : Source) (length : Nat) : ProviderScript (Option Bytes) :=
  ask (.read source length)
def awaitChallenge : ProviderScript Bool := ask .awaitChallenge
def invokeVerify (challenge : Bytes) : ProviderScript (Option Verification) :=
  ask (.verify challenge)
def writeHat (bytes : Bytes) : ProviderScript (Option Nat) := ask (.writeHat bytes)
def eprint (text : String) : ProviderScript Unit := ask (.eprint text)

def gotoOut {α : Type} : ProviderScript α := .exit 1

def outUnless (works : Bool) : ProviderScript Unit := if works then pure () else gotoOut

/-! ### Messages -/

/-- What is read of a source so far, up to its capacity or to its end. -/
def readBinary (source : Source) (capacity : Nat) (requireEof : Bool) (bytes : Bytes) :
    ProviderScript Bytes := do
  outUnless (← pollSource source)
  if bytes.length < capacity then
    match ← readSource source (capacity - bytes.length) with
    | none => gotoOut
    | some [] => if bytes = [] then gotoOut else return bytes
    | some (byte :: rest) =>
        if requireEof = false ∧ (bytes ++ byte :: rest).length = capacity then
          return bytes ++ byte :: rest
        else readBinary source capacity requireEof (bytes ++ byte :: rest)
  else
    match ← readSource source 1 with
    | some [] => if bytes = [] then gotoOut else return bytes
    | _ => gotoOut
  termination_by capacity - bytes.length
  decreasing_by
    simp only [List.length_append, List.length_cons]
    omega

def challengeSize : Nat := 8

/-- A whole challenge that is not zero. -/
def readChallenge : ProviderScript Bytes := do
  let challenge ← readBinary .challenge challengeSize false []
  if challenge.length ≠ challengeSize ∨ challenge = List.replicate challengeSize 0 then gotoOut
  else return challenge

/-- The challenge that arrives after the capture. -/
def readEnrolFinishChallenge : ProviderScript Bytes := do
  outUnless (← awaitChallenge)
  readChallenge

def writeBinary (bytes : Bytes) : ProviderScript Unit :=
  if bytes = [] then pure ()
  else do
    match ← writeHat bytes with
    | some (count + 1) => writeBinary (bytes.drop (count + 1))
    | _ =>
        eprint "write_gatekeeper_binary_output\n"
        gotoOut
  termination_by bytes.length
  decreasing_by
    have := List.length_pos_iff.mpr ‹¬bytes = []›
    simp only [List.length_drop]
    omega

/-! ### Rounds -/

/-- The token of an answer that verifies the challenge. -/
def hatOf (challenge : Bytes) (response : Verification) : Option Bytes :=
  if response.version ≠ 0 ∨ response.challenge ≠ littleEndian challenge ∨
      response.type ≥ 2 ^ 32 ∨ response.mac.length ≠ 32 then none
  else some (UInt8.ofNat response.version :: encode 8 response.challenge ++
    encode 8 response.sid ++ encode 8 response.authId ++ encode 4 response.type ++
    encode 8 response.timestamp ++ response.mac)

def verifyCredential (challenge : Bytes) : ProviderScript Bytes := do
  match (← invokeVerify challenge).bind (hatOf challenge) with
  | some hat => return hat
  | none =>
      eprint "gatekeeper_response_invalid_or_rejected=1\n"
      gotoOut

/-- Sign one challenge and forward the token. -/
def answerChallenge (challenge : Bytes) : ProviderScript Unit := do
  let hat ← verifyCredential challenge
  writeBinary hat
  eprint "gatekeeper_verified_hat_forwarded=1\n"

def laterRounds : Nat → ProviderScript Unit
  | 0 => pure ()
  | rounds + 1 => do
      let challenge ← readEnrolFinishChallenge
      answerChallenge challenge
      laterRounds rounds

def credentialLimit : Nat := 1024

/-- `further` is the number of rounds behind the first. -/
def providerMain (further : Nat) : ProviderScript Int := do
  if ← descriptors then
    let _ ← readBinary .handle credentialLimit true []
    let _ ← readBinary .password credentialLimit true []
    let challenge ← readChallenge
    outUnless (← openKeymaster)
    outUnless (← negotiateKeymaster)
    answerChallenge challenge
    laterRounds further
    return 0
  else .exit 2

/-! ### What was verified -/

/-- The challenge of an entry that verified it, with its token. -/
def signed (entry : Bytes × Option Verification) : Option (Bytes × Bytes) :=
  (entry.2.bind (hatOf entry.1)).map fun hat => (entry.1, hat)

def verified (log : List (Bytes × Option Verification)) : List (Bytes × Bytes) :=
  log.filterMap signed

theorem hatOf_eq_some {challenge hat : Bytes} {response : Verification}
    (sized : challenge.length = challengeSize) (given : hatOf challenge response = some hat) :
    hat.length = hatSize ∧ Carries hat challenge := by
  unfold hatOf at given
  split at given
  · cases given
  · rename_i good
    simp only [not_or, not_not, ne_eq] at good
    obtain ⟨version, same, _, mac⟩ := good
    cases given
    have encoded : encode 8 (littleEndian challenge) = challenge := by
      have whole := encode_littleEndian challenge
      rw [sized] at whole
      exact whole
    rw [version, same, encoded]
    constructor
    · simp only [List.length_append, List.length_cons, encode_length, sized, mac]
      rfl
    · constructor
      · rfl
      · have eight : challenge.length = 8 := sized
        simp only [List.cons_append, List.drop_succ_cons, List.drop_zero, List.append_assoc]
        rw [← eight]
        exact List.take_left

/-! ### The rounds -/

/-- `done` are the rounds whose token was sent, `pending` the one that is being
sent and `part` what was read of the next challenge. -/
structure Serving (done pending : List (Bytes × Bytes)) (part : Bytes) (provider : Provider) :
    Prop where
  verified : verified provider.log = done ++ pending
  single : pending.length ≤ 1
  carried : ∀ round ∈ done ++ pending,
    round.1.length = challengeSize ∧ round.2.length = hatSize ∧ Carries round.2 round.1
  received : provider.received = ((done ++ pending).map Prod.fst).flatten ++ part
  bounded : part.length ≤ challengeSize
  sentLeast : (done.map Prod.snd).flatten <+: provider.sent
  sentMost : provider.sent <+: ((done ++ pending).map Prod.snd).flatten

def Served (provider : Provider) : Prop := ∃ done pending part, Serving done pending part provider

/-- So many rounds are complete and nothing is under way. -/
def Rested (rounds : Nat) (provider : Provider) : Prop :=
  ∃ done, done.length = rounds ∧ Serving done [] [] provider ∧ provider.starved = false

section Rules

abbrev During (_ : ProviderOp) (provider : Provider) : Prop := Served provider

abbrev Left (status : Nat) (provider : Provider) : Prop := status ≠ 0 ∧ Served provider

variable {provider : Provider} {done : List (Bytes × Bytes)} {part : Bytes}

theorem Serving.served {pending : List (Bytes × Bytes)}
    (serving : Serving done pending part provider) : Served provider :=
  ⟨done, pending, part, serving⟩

theorem wp_gotoOut {α : Type} {returned : α → Provider → Prop} (served : Served provider) :
    wp providerMachine During Left (gotoOut : ProviderScript α) returned provider :=
  ⟨Nat.one_ne_zero, served⟩

theorem wp_outUnless {works : Bool} {returned : Unit → Provider → Prop} (served : Served provider)
    (next : works = true → returned () provider) :
    wp providerMachine During Left (outUnless works) returned provider :=
  wp_ite next fun _ => wp_gotoOut served

/-- A command that leaves the provider's state alone. -/
def ProviderOp.Aside : ProviderOp → Prop
  | .poll source => source ≠ .challenge
  | .read source _ => source ≠ .challenge
  | .awaitChallenge => False
  | .verify _ => False
  | .writeHat _ => False
  | _ => True

theorem providerReact_aside {operation : ProviderOp} (aside : operation.Aside)
    (answer : ProviderAnswer operation) (provider : Provider) :
    (providerReact operation answer provider).2 = provider := by
  cases operation with
  | poll source =>
      cases source with
      | challenge => exact absurd rfl aside
      | handle => rfl
      | password => rfl
  | read source length =>
      cases source with
      | challenge => exact absurd rfl aside
      | handle => rfl
      | password => rfl
  | awaitChallenge => exact aside.elim
  | verify challenge => exact aside.elim
  | writeHat bytes => exact aside.elim
  | _ => rfl

theorem wp_aside {operation : ProviderOp} {returned : ProviderAnswer operation → Provider → Prop}
    (aside : operation.Aside) (served : Served provider)
    (next : ∀ answer, returned answer provider) :
    wp providerMachine During Left (ask operation) returned provider := by
  refine ⟨served, fun answer => ?_⟩
  have same : (providerMachine.perform operation answer provider).2 = provider :=
    providerReact_aside aside answer provider
  rw [same]
  exact next _

theorem wp_pollFile {source : Source} {returned : Bool → Provider → Prop}
    (file : source ≠ .challenge) (served : Served provider)
    (next : ∀ ready, returned ready provider) :
    wp providerMachine During Left (pollSource source) returned provider := by
  have aside : (ProviderOp.poll source).Aside := file
  exact wp_aside aside served next

theorem wp_readSource {source : Source} {length : Nat} {returned : Option Bytes → Provider → Prop}
    (file : source ≠ .challenge) (served : Served provider)
    (next : ∀ answer, returned answer provider) :
    wp providerMachine During Left (readSource source length) returned provider := by
  have aside : (ProviderOp.read source length).Aside := file
  exact wp_aside aside served next

theorem wp_readFile {source : Source} {capacity : Nat} {requireEof : Bool} {bytes : Bytes}
    {returned : Bytes → Provider → Prop} (file : source ≠ .challenge) (served : Served provider)
    (next : ∀ content, returned content provider) :
    wp providerMachine During Left (readBinary source capacity requireEof bytes) returned
      provider := by
  induction left : capacity - bytes.length using Nat.strong_induction_on generalizing bytes with
  | _ left ih =>
      rw [readBinary]
      apply wp_seq
      apply wp_pollFile file served
      intro ready
      apply wp_seq
      apply wp_outUnless served
      intro _
      apply wp_ite
      · intro room
        apply wp_seq
        apply wp_readSource file served
        intro answer
        rcases answer with _ | _ | ⟨byte, rest⟩
        · exact wp_gotoOut served
        · exact wp_ite (fun _ => wp_gotoOut served) fun _ => next bytes
        · apply wp_ite
          · exact fun _ => next _
          · intro _
            apply ih _ _ rfl
            rw [List.length_append, List.length_cons]
            omega
      · intro full
        apply wp_seq
        apply wp_readSource file served
        intro answer
        rcases answer with _ | _ | ⟨byte, rest⟩
        · exact wp_gotoOut served
        · exact wp_ite (fun _ => wp_gotoOut served) fun _ => next bytes
        · exact wp_gotoOut served

/-! ### Reading a challenge -/

theorem Serving.took (serving : Serving done [] part provider) {chunk : Bytes}
    (room : part.length + chunk.length ≤ challengeSize) :
    Serving done [] (part ++ chunk) (provider.took chunk) := by
  constructor
  · exact serving.verified
  · exact serving.single
  · exact serving.carried
  · rw [Provider.took, serving.received, List.append_assoc]
  · rw [List.length_append]
    exact room
  · exact serving.sentLeast
  · exact serving.sentMost

theorem Serving.starving {pending : List (Bytes × Bytes)}
    (serving : Serving done pending part provider) (starved : Bool) :
    Serving done pending part { provider with starved := starved } :=
  ⟨serving.verified, serving.single, serving.carried, serving.received, serving.bounded,
    serving.sentLeast, serving.sentMost⟩

theorem wp_pollChallenge {pending : List (Bytes × Bytes)} {returned : Bool → Provider → Prop}
    (serving : Serving done pending part provider) (calm : provider.starved = false)
    (next : ∀ ready after, Serving done pending part after →
      (ready = true → after.starved = false) → returned ready after) :
    wp providerMachine During Left (pollSource .challenge) returned provider := by
  refine ⟨serving.served, fun ready => next ready _ (serving.starving _) fun up => ?_⟩
  have now : (provider.starved || !(ready : Bool)) = false := by
    rw [calm, show (ready : Bool) = true from up]
    rfl
  exact now

theorem wp_awaitChallenge {pending : List (Bytes × Bytes)} {returned : Bool → Provider → Prop}
    (serving : Serving done pending part provider) (calm : provider.starved = false)
    (next : ∀ ready after, Serving done pending part after →
      (ready = true → after.starved = false) → returned ready after) :
    wp providerMachine During Left awaitChallenge returned provider := by
  refine ⟨serving.served, fun ready => next ready _ (serving.starving _) fun up => ?_⟩
  have now : (provider.starved || !(ready : Bool)) = false := by
    rw [calm, show (ready : Bool) = true from up]
    rfl
  exact now

theorem wp_readPart {length : Nat} {returned : Option Bytes → Provider → Prop}
    (serving : Serving done [] part provider) (room : part.length + length ≤ challengeSize)
    (failed : ∀ after, Served after → returned none after)
    (next : ∀ chunk after, Serving done [] (part ++ chunk) after →
      (chunk ≠ [] → after.starved = provider.starved) → returned (some chunk) after) :
    wp providerMachine During Left (readSource .challenge length) returned provider := by
  refine ⟨serving.served, fun answer => ?_⟩
  rcases (answer : Option Bytes) with _ | offered
  · have short : Serving done [] (part ++ []) (provider.took []) := by
      apply serving.took
      rw [List.length_nil]
      omega
    exact failed _ short.served
  · apply next (offered.take length) (provider.took (offered.take length))
    · apply serving.took
      rw [List.length_take]
      omega
    · intro some
      have full : (offered.take length).isEmpty = false := by
        rw [List.isEmpty_eq_false_iff]
        exact some
      rw [Provider.took, full, Bool.or_false]

/-- A full challenge was read without starving. -/
theorem wp_readMessage {returned : Bytes → Provider → Prop}
    (serving : Serving done [] part provider) (room : part.length < challengeSize)
    (calm : provider.starved = false)
    (next : ∀ bytes after, Serving done [] bytes after →
      (bytes.length = challengeSize → after.starved = false) → returned bytes after) :
    wp providerMachine During Left (readBinary .challenge challengeSize false part) returned
      provider := by
  induction left : challengeSize - part.length using Nat.strong_induction_on
    generalizing part provider with
  | _ left ih =>
      rw [readBinary]
      apply wp_seq
      apply wp_pollChallenge serving calm
      intro ready first polled still
      apply wp_seq
      apply wp_outUnless polled.served
      intro up
      refine wp_ite (fun _ => ?_) fun full => absurd room full
      apply wp_seq
      apply wp_readPart polled
      · omega
      · exact fun after served => wp_gotoOut served
      · intro chunk second more kept
        rcases chunk with _ | ⟨byte, rest⟩
        · rw [List.append_nil] at more
          refine wp_ite (fun _ => wp_gotoOut more.served) fun _ => next part second more fun full => ?_
          omega
        · have now : second.starved = false := (kept (List.cons_ne_nil byte rest)).trans (still up)
          refine wp_ite (fun _ => next _ second more fun _ => now) fun short => ?_
          have bound := more.bounded
          have behind : (part ++ byte :: rest).length < challengeSize := by
            have other : (part ++ byte :: rest).length ≠ challengeSize := fun full => short ⟨rfl, full⟩
            omega
          refine ih _ ?_ more behind now rfl
          rw [List.length_append, List.length_cons]
          omega

theorem wp_readChallenge {returned : Bytes → Provider → Prop}
    (serving : Serving done [] [] provider) (calm : provider.starved = false)
    (next : ∀ bytes after, Serving done [] bytes after → bytes.length = challengeSize →
      after.starved = false → returned bytes after) :
    wp providerMachine During Left readChallenge returned provider := by
  apply wp_seq
  apply wp_readMessage serving (by decide) calm
  intro bytes after read still
  refine wp_ite (fun _ => wp_gotoOut read.served) fun good => ?_
  have full : bytes.length = challengeSize := not_not.mp fun short => good (Or.inl short)
  exact next bytes after read full (still full)

/-! ### Answering it -/

theorem wp_eprint {text : String} {returned : Unit → Provider → Prop} (served : Served provider)
    (next : returned () provider) :
    wp providerMachine During Left (eprint text) returned provider :=
  wp_aside trivial served fun _ => next

theorem Serving.invoked {challenge : Bytes} (serving : Serving done [] challenge provider)
    (answer : Option Verification) (unsigned : signed (challenge, answer) = none) :
    Serving done [] challenge { provider with log := provider.log ++ [(challenge, answer)] } := by
  constructor
  · show Gatekeeper.verified (provider.log ++ [(challenge, answer)]) = done ++ []
    rw [Gatekeeper.verified, List.filterMap_append, List.filterMap_cons_none unsigned,
      List.filterMap_nil, List.append_nil]
    exact serving.verified
  · exact serving.single
  · exact serving.carried
  · exact serving.received
  · exact serving.bounded
  · exact serving.sentLeast
  · exact serving.sentMost

/-- The message becomes a round once it is verified. -/
theorem Serving.verifies {challenge hat : Bytes} (serving : Serving done [] challenge provider)
    (sized : challenge.length = challengeSize) (answer : Option Verification)
    (given : answer.bind (hatOf challenge) = some hat) (whole : provider.sent = (done.map Prod.snd).flatten) :
    Serving done [(challenge, hat)] []
      { provider with log := provider.log ++ [(challenge, answer)] } := by
  have entry : signed (challenge, answer) = some (challenge, hat) := by
    rw [signed, given, Option.map_some]
  obtain ⟨response, _, token⟩ := Option.bind_eq_some_iff.mp given
  constructor
  · show Gatekeeper.verified (provider.log ++ [(challenge, answer)]) = done ++ [(challenge, hat)]
    rw [Gatekeeper.verified, List.filterMap_append, List.filterMap_cons_some entry,
      List.filterMap_nil]
    have before := serving.verified
    rw [List.append_nil] at before
    rw [← before]
    rfl
  · exact le_refl 1
  · intro round member
    rcases List.mem_append.mp member with old | new
    · exact serving.carried round (List.mem_append_left [] old)
    · rw [List.mem_singleton.mp new]
      exact ⟨sized, hatOf_eq_some sized token⟩
  · show provider.received = _
    rw [serving.received, List.append_nil, List.append_nil, List.map_append, List.flatten_append]
    simp only [List.map_cons, List.map_nil, List.flatten_cons, List.flatten_nil, List.append_nil]
  · exact Nat.zero_le _
  · exact serving.sentLeast
  · show provider.sent <+: _
    rw [whole, List.map_append, List.flatten_append]
    exact List.prefix_append _ _

theorem Serving.whole (serving : Serving done [] part provider) :
    provider.sent = (done.map Prod.snd).flatten := by
  have most := serving.sentMost
  rw [List.append_nil] at most
  exact most.eq_of_length_le serving.sentLeast.length_le

/-- The pending token, of which `already` was written. -/
structure Sending (done : List (Bytes × Bytes)) (challenge hat already : Bytes)
    (provider : Provider) : Prop where
  serving : Serving done [(challenge, hat)] [] provider
  sent : provider.sent = (done.map Prod.snd).flatten ++ already
  calm : provider.starved = false

theorem Sending.wrote {challenge already rest : Bytes}
    (sending : Sending done challenge (already ++ rest) already provider) (count : Nat) :
    Sending done challenge (already ++ rest) (already ++ rest.take count)
      { provider with sent := provider.sent ++ rest.take count } := by
  have serving := sending.serving
  have more : provider.sent ++ rest.take count =
      (done.map Prod.snd).flatten ++ (already ++ rest.take count) := by
    rw [sending.sent, List.append_assoc]
  constructor
  · constructor
    · exact serving.verified
    · exact serving.single
    · exact serving.carried
    · exact serving.received
    · exact serving.bounded
    · exact serving.sentLeast.trans (List.prefix_append _ _)
    · show provider.sent ++ rest.take count <+: _
      rw [more, List.map_append, List.flatten_append, List.prefix_append_right_inj, List.map_cons,
        List.map_nil, List.flatten_cons, List.flatten_nil, List.append_nil,
        List.prefix_append_right_inj]
      exact List.take_prefix count rest
  · exact more
  · exact sending.calm

theorem wp_writeHat {challenge already rest : Bytes} {returned : Option Nat → Provider → Prop}
    (sending : Sending done challenge (already ++ rest) already provider)
    (failed : ∀ after, Served after → returned none after)
    (next : ∀ count after,
      Sending done challenge (already ++ rest) (already ++ rest.take count) after →
      returned (some count) after) :
    wp providerMachine During Left (writeHat rest) returned provider := by
  refine ⟨sending.serving.served, fun answer => ?_⟩
  rcases (answer : Option Nat) with _ | offered
  · exact failed _ (sending.wrote 0).serving.served
  · apply next (min rest.length offered)
    have counted : rest.take (min rest.length offered) = rest.take offered := by
      rw [Nat.min_comm, ← List.take_eq_take_min]
    rw [counted]
    exact sending.wrote offered

theorem wp_writeFailed {returned : Unit → Provider → Prop} (served : Served provider) :
    wp providerMachine During Left
      (do
        eprint "write_gatekeeper_binary_output\n"
        gotoOut) returned provider := by
  apply wp_seq
  exact wp_eprint served (wp_gotoOut served)

theorem wp_writeBinary {challenge already rest : Bytes} {returned : Unit → Provider → Prop}
    (sending : Sending done challenge (already ++ rest) already provider)
    (next : ∀ after, Sending done challenge (already ++ rest) (already ++ rest) after →
      returned () after) :
    wp providerMachine During Left (writeBinary rest) returned provider := by
  induction left : rest.length using Nat.strong_induction_on generalizing already rest provider with
  | _ left ih =>
      rw [writeBinary]
      apply wp_ite
      · intro empty
        subst empty
        rw [List.append_nil] at sending next
        exact next provider sending
      · intro more
        apply wp_seq
        apply wp_writeHat sending
        · exact fun after served => wp_writeFailed served
        · intro count after wrote
          cases count with
          | zero => exact wp_writeFailed wrote.serving.served
          | succ count =>
              have split : already ++ rest =
                  (already ++ rest.take (count + 1)) ++ rest.drop (count + 1) := by
                rw [List.append_assoc, List.take_append_drop]
              rw [split] at wrote next
              refine ih _ ?_ wrote next rfl
              have positive := List.length_pos_iff.mpr more
              rw [List.length_drop]
              omega

/-- The round is complete with its token. -/
theorem Sending.completes {challenge hat : Bytes}
    (sending : Sending done challenge hat hat provider) :
    Serving (done ++ [(challenge, hat)]) [] [] provider := by
  have serving := sending.serving
  have whole : provider.sent = ((done ++ [(challenge, hat)]).map Prod.snd).flatten := by
    rw [sending.sent, List.map_append, List.flatten_append, List.map_cons, List.map_nil,
      List.flatten_cons, List.flatten_nil, List.append_nil]
  constructor
  · rw [List.append_nil]
    exact serving.verified
  · exact Nat.zero_le 1
  · rw [List.append_nil]
    exact serving.carried
  · have received := serving.received
    rw [List.append_nil] at received ⊢
    rw [List.append_nil]
    exact received
  · exact Nat.zero_le _
  · rewrite [whole]
    exact List.prefix_refl _
  · rewrite [List.append_nil, whole]
    exact List.prefix_refl _

theorem wp_invokeVerify {challenge : Bytes} {returned : Option Verification → Provider → Prop}
    (serving : Serving done [] challenge provider) (sized : challenge.length = challengeSize)
    (failed : ∀ answer after, answer.bind (hatOf challenge) = none → Served after →
      returned answer after)
    (next : ∀ answer hat after, answer.bind (hatOf challenge) = some hat →
      Serving done [(challenge, hat)] [] after → after.sent = provider.sent →
      after.starved = provider.starved → returned answer after) :
    wp providerMachine During Left (invokeVerify challenge) returned provider := by
  refine ⟨serving.served, fun answer => ?_⟩
  cases given : Option.bind (answer : Option Verification) (hatOf challenge) with
  | none =>
      have unsigned : signed (challenge, (answer : Option Verification)) = none := by
        rw [signed, given, Option.map_none]
      exact failed _ _ given (serving.invoked answer unsigned).served
  | some hat => exact next _ hat _ given (serving.verifies sized answer given serving.whole) rfl rfl

theorem wp_answerChallenge {challenge : Bytes} {returned : Unit → Provider → Prop}
    (serving : Serving done [] challenge provider) (sized : challenge.length = challengeSize)
    (calm : provider.starved = false)
    (next : ∀ after, Rested (done.length + 1) after → returned () after) :
    wp providerMachine During Left (answerChallenge challenge) returned provider := by
  apply wp_seq
  apply wp_seq
  apply wp_invokeVerify serving sized
  · intro answer after rejected served
    rw [rejected]
    exact wp_seq (wp_eprint served (wp_gotoOut served))
  · intro answer hat first given verifies same still
    rw [given]
    have sending : Sending done challenge ([] ++ hat) [] first :=
      ⟨verifies, by rw [same, serving.whole, List.append_nil], still.trans calm⟩
    apply wp_seq
    apply wp_writeBinary sending
    intro second sent
    have complete := sent.completes
    apply wp_eprint complete.served
    apply next second
    refine ⟨done ++ [(challenge, hat)], ?_, complete, sent.calm⟩
    rw [List.length_append, List.length_singleton]

theorem wp_laterRounds {rounds further : Nat} {returned : Unit → Provider → Prop}
    (rested : Rested rounds provider)
    (next : ∀ after, Rested (rounds + further) after → returned () after) :
    wp providerMachine During Left (laterRounds further) returned provider := by
  induction further generalizing rounds provider with
  | zero => exact next provider rested
  | succ further ih =>
      obtain ⟨done, counted, serving, calm⟩ := rested
      apply wp_seq
      apply wp_seq
      apply wp_awaitChallenge serving calm
      intro ready first waited still
      apply wp_seq
      apply wp_outUnless waited.served
      intro up
      apply wp_readChallenge waited (still up)
      intro challenge second read sized awake
      apply wp_seq
      apply wp_answerChallenge read sized awake
      intro third complete
      rw [counted] at complete
      apply ih complete
      intro after finished
      rw [Nat.add_assoc, Nat.add_comm 1 further] at finished
      exact next after finished

/-- Status 0 is left to a provider whose rounds are all complete. -/
theorem wp_providerMain {further : Nat} {returned : Int → Provider → Prop}
    (rested : Rested 0 provider)
    (next : ∀ after, Rested (1 + further) after → returned 0 after) :
    wp providerMachine During Left (providerMain further) returned provider := by
  obtain ⟨done, counted, serving, calm⟩ := rested
  have served := serving.served
  have inputs : Source.handle ≠ .challenge ∧ Source.password ≠ .challenge := by decide
  apply wp_seq
  refine wp_aside trivial served fun parsed => ?_
  cases (parsed : Bool) with
  | false => exact ⟨Nat.succ_ne_zero 1, served⟩
  | true =>
      apply wp_seq
      apply wp_readFile inputs.1 served
      intro handle
      apply wp_seq
      apply wp_readFile inputs.2 served
      intro password
      apply wp_seq
      apply wp_readChallenge serving calm
      intro challenge first read sized awake
      apply wp_seq
      refine wp_aside trivial read.served fun opened => ?_
      apply wp_seq
      apply wp_outUnless read.served
      intro _
      apply wp_seq
      refine wp_aside trivial read.served fun negotiated => ?_
      apply wp_seq
      apply wp_outUnless read.served
      intro _
      apply wp_seq
      apply wp_answerChallenge read sized awake
      intro second complete
      rw [counted] at complete
      apply wp_seq
      exact wp_laterRounds complete next

end Rules

/-- Every run of the provider serves its rounds in order. -/
theorem provider_served {further : Nat} {after : ProviderScript Int × Provider}
    (run : Reaches providerMachine (providerMain further, Provider.start) after) :
    Served after.2 ∧ (∀ status, after.1 = .exit status → status ≠ 0) ∧
    ∀ value, after.1 = .done value → value = 0 ∧ Rested (1 + further) after.2 := by
  have start : Rested 0 Provider.start := by
    refine ⟨[], rfl, ⟨rfl, Nat.zero_le 1, ?_, rfl, Nat.zero_le _, List.prefix_refl _,
      List.prefix_refl _⟩, rfl⟩
    exact fun round member => absurd member List.not_mem_nil
  have holds : wp providerMachine During Left (providerMain further)
      (fun value after => value = 0 ∧ Rested (1 + further) after) Provider.start :=
    wp_providerMain start fun after rested => ⟨rfl, rested⟩
  have safe := wp_sound holds run
  rcases after with ⟨script, provider⟩
  cases script with
  | done value =>
      obtain ⟨done, _, serving, _⟩ := safe.2
      refine ⟨serving.served, fun _ wrong => ?_, fun _ same => ?_⟩
      · cases wrong
      · cases same
        exact safe
  | exit status =>
      refine ⟨safe.2, fun _ same => ?_, fun _ wrong => ?_⟩
      · cases same
        exact safe.1
      · cases wrong
  | act operation next =>
      refine ⟨safe, fun _ wrong => ?_, fun _ wrong => ?_⟩
      · cases wrong
      · cases wrong

end Liuqin.Fingerprint.Gatekeeper
