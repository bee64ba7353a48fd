/-
What a preparation that raises leaves behind.

The handler takes the new key back, and no call removes the metadata file.  The
conditions below name the calls and how they go; a call here takes no time that
the keys' clock could see.
-/

import Liuqin.Fingerprint.Acceptance

namespace Liuqin.Fingerprint.Acceptance

open Liuqin.Library Liuqin.Library.Program Liuqin.Library.Sharing

/-! ### One preparation -/

/-- Which calls work, the serial number of a new key, and whether the write of
the metadata stops short. -/
structure Outcomes where
  works : Op → Bool
  serial : Nat
  short : Bool

def Outcomes.fault (outcomes : Outcomes) (operation : Op) : Fault where
  fails := !outcomes.works operation
  elapsed := 0
  serial := outcomes.serial
  short := outcomes.short

def Outcomes.choice (outcomes : Outcomes) (operation : Op) (_ : State) :
    machine.Fault operation :=
  outcomes.fault operation

def attempt {α : Type} (outcomes : Outcomes) (script : Script α) (state : State) :
    Except Nat α × State :=
  settle machine outcomes.choice script state

/-- What is linked is a key with that description. -/
def State.Linked (state : State) : Prop :=
  ∀ description serial, state.ring description = some serial →
    ∃ key, state.keys state.boot serial = some key ∧ key.description = description

/-- A state before a preparation. -/
structure Start extends State where
  linked : toState.Linked

/-- No metadata file and no usable key of the user. -/
def Clean (username : String) (state : State) : Prop :=
  state.files username = none ∧ state.found (describe state.boot username) = none

/-! ### The condition -/

/-- The calls before the keyring is searched. -/
def Outcomes.searches (outcomes : Outcomes) (username : String) (start : State) : Bool :=
  inScope username && outcomes.works .context && outcomes.works (.present username) &&
    outcomes.works .mlock && outcomes.works .lseek && outcomes.works .read &&
    outcomes.works .bootId && ascii (describe start.boot username)

/-- A key found in the search. -/
def Outcomes.stale (outcomes : Outcomes) (username : String) (start : State) : Option Nat :=
  if outcomes.works (.search (describe start.boot username)) then
    (start.found (describe start.boot username)).map Prod.fst
  else none

/-- The serial number that add_key gives: of the key still linked when the
search missed it, or of a new one. -/
def Outcomes.adds (outcomes : Outcomes) (username : String) (start : State) : Option Nat :=
  match outcomes.stale username start, start.found (describe start.boot username) with
  | none, some (serial, _) => some serial
  | _, _ => if (start.keys start.boot outcomes.serial).isNone then some outcomes.serial else none

/-- The key that this preparation adds. -/
def Outcomes.added (outcomes : Outcomes) (username : String) (input : Library.Bytes)
    (start : State) : Option Nat :=
  if outcomes.searches username start &&
      (outcomes.stale username start).all
        (fun stale => outcomes.works (.revoke stale) && outcomes.works (.unlink stale)) &&
      outcomes.works (.addKey (describe start.boot username) input)
  then outcomes.adds username start else none

/-- The calls from the new key to its metadata file. -/
def Outcomes.files (outcomes : Outcomes) (username : String) (serial : Nat) : Bool :=
  outcomes.works (.setperm serial) && outcomes.works (.setTimeout serial) &&
    outcomes.works (.readKey serial) && outcomes.works (.create username)

/-- No metadata file was there and none was created; a key that was added is
taken back, and with none added there was no key or it was revoked. -/
def Outcomes.Spotless (outcomes : Outcomes) (username : String) (input : Library.Bytes)
    (start : State) : Prop :=
  start.files username = none ∧
    match outcomes.added username input start with
    | some serial => outcomes.files username serial = false ∧
        (outcomes.works (.revoke serial) = true ∨ outcomes.works (.unlink serial) = true)
    | none => ∀ serial key, start.found (describe start.boot username) = some (serial, key) →
        outcomes.searches username start = true ∧
        outcomes.stale username start = some serial ∧ outcomes.works (.revoke serial) = true

/-! ### Calls that leave the state alone -/

section Calls

variable (outcomes : Outcomes) (state : State)

theorem attempt_done {α : Type} (value : α) :
    attempt outcomes (.done value) state = (.ok value, state) := rfl

theorem attempt_raise {α : Type} :
    attempt outcomes (raise : Script α) state = (.error 1, state) := rfl

theorem attempt_bind {α β : Type} (first : Script α) (next : α → Script β) :
    attempt outcomes (first.bind next) state =
      match attempt outcomes first state with
      | (.ok value, after) => attempt outcomes (next value) after
      | (.error status, after) => (.error status, after) := by
  unfold attempt
  rw [settle_bind]
  rcases settle machine outcomes.choice first state with ⟨result, after⟩
  cases result <;> rfl

theorem attempt_seq {α β : Type} (first : Script α) (next : α → Script β) :
    attempt outcomes (first >>= next) state =
      match attempt outcomes first state with
      | (.ok value, after) => attempt outcomes (next value) after
      | (.error status, after) => (.error status, after) :=
  attempt_bind outcomes state first next

theorem attempt_onExit {α : Type} (handler : Nat → Script α) (script : Script α) :
    attempt outcomes (script.onExit handler) state =
      match attempt outcomes script state with
      | (.ok value, after) => (.ok value, after)
      | (.error status, after) => attempt outcomes (handler status) after := by
  unfold attempt
  rw [settle_onExit]
  rcases settle machine outcomes.choice script state with ⟨result, after⟩
  cases result <;> rfl

/-- One call: it fails, or the machine reacts. -/
theorem attempt_act {α : Type} (operation : Op) (next : Answer operation → Script α) :
    attempt outcomes (.act operation next) state =
      if outcomes.works operation then
        attempt outcomes (next (react 0 (outcomes.fault operation) state operation).1)
          (react 0 (outcomes.fault operation) state operation).2
      else attempt outcomes (next (failed state operation)) state := by
  show attempt outcomes (next (perform 0 operation (outcomes.fault operation) state).1)
    (perform 0 operation (outcomes.fault operation) state).2 = _
  have still : state.passed 0 = state := rfl
  have taken : (outcomes.fault operation).elapsed = 0 := rfl
  unfold perform
  rw [taken, still]
  cases works : outcomes.works operation with
  | true =>
      have fine : (outcomes.fault operation).fails = false := by
        show (!outcomes.works operation) = false
        rw [works]
        rfl
      rw [fine]
      rfl
  | false =>
      have broken : (outcomes.fault operation).fails = true := by
        show (!outcomes.works operation) = true
        rw [works]
        rfl
      rw [broken]
      rfl

/-- A call that leaves the state alone and must work. -/
theorem attempt_steady {call : Script Bool} {condition : Bool}
    (goes : attempt outcomes call state = (.ok condition, state)) :
    attempt outcomes (must call) state =
      if condition then (.ok (), state) else (.error 1, state) := by
  unfold must
  rw [attempt_bind, goes]
  cases condition <;> rfl

theorem attempt_context (username : String) :
    attempt outcomes (context username) state =
      if inScope username && outcomes.works .context then (.ok (), state)
      else (.error 1, state) := by
  unfold context
  cases scope : inScope username with
  | false => rfl
  | true =>
      rw [if_pos rfl, Bool.true_and]
      apply attempt_steady
      unfold possess
      rw [attempt_act]
      cases works : outcomes.works .context <;> rfl

theorem attempt_absent (username : String) :
    attempt outcomes (absent username) state =
      if outcomes.works (.present username) && (state.files username).isNone then (.ok (), state)
      else (.error 1, state) := by
  unfold absent get present
  rw [attempt_bind, attempt_bind, attempt_act]
  cases works : outcomes.works (.present username) with
  | false => rfl
  | true =>
      cases there : state.files username with
      | none =>
          simp only [react, there]
          rfl
      | some inode =>
          simp only [react, there]
          rfl

theorem attempt_mlock :
    attempt outcomes (must mlock) state =
      if outcomes.works .mlock then (.ok (), state) else (.error 1, state) := by
  apply attempt_steady
  unfold mlock
  rw [attempt_act]
  cases works : outcomes.works .mlock <;> rfl

theorem attempt_lseek :
    attempt outcomes (must lseek) state =
      if outcomes.works .lseek then (.ok (), state) else (.error 1, state) := by
  apply attempt_steady
  unfold lseek
  rw [attempt_act]
  cases works : outcomes.works .lseek <;> rfl

theorem attempt_read :
    attempt outcomes (must read) state =
      if outcomes.works .read then (.ok (), state) else (.error 1, state) := by
  apply attempt_steady
  unfold read
  rw [attempt_act]
  cases works : outcomes.works .read <;> rfl

theorem attempt_bootId :
    attempt outcomes (get bootId) state =
      if outcomes.works .bootId then (.ok state.boot, state) else (.error 1, state) := by
  unfold get bootId
  rw [attempt_bind, attempt_act]
  cases works : outcomes.works .bootId <;> rfl

theorem attempt_search (description : String) :
    attempt outcomes (search description) state =
      (.ok (if outcomes.works (.search description) then
        (state.found description).map Prod.fst else none), state) := by
  unfold search
  rw [attempt_act]
  cases works : outcomes.works (.search description) <;> rfl

/-! ### Calls on a key -/

variable {state} {serial : Nat} {key : Key}

/-- The state after a key is revoked. -/
def State.revoked (state : State) (serial : Nat) (key : Key) : State :=
  state.store serial { key with revoked := some ⟨0, state.boot, state.clock⟩ }

def State.unlinked (state : State) (description : String) : State :=
  { state with ring := Function.update state.ring description none }

theorem attempt_revoke (reached : state.reach serial = some key) :
    attempt outcomes (revoke serial) state =
      if outcomes.works (.revoke serial) then (.ok true, state.revoked serial key)
      else (.ok false, state) := by
  unfold revoke
  rw [attempt_act]
  cases works : outcomes.works (.revoke serial) with
  | false => rfl
  | true =>
      simp only [react, reached]
      rfl

theorem attempt_unlink (there : state.keys state.boot serial = some key)
    (linked : state.ring key.description = some serial) :
    attempt outcomes (unlink serial) state =
      if outcomes.works (.unlink serial) then (.ok true, state.unlinked key.description)
      else (.ok false, state) := by
  unfold unlink
  rw [attempt_act]
  cases works : outcomes.works (.unlink serial) with
  | false => rfl
  | true =>
      simp only [react, there, linked]
      rfl

/-! ### The new key and its file -/

theorem attempt_setperm (reached : state.reach serial = some key) :
    attempt outcomes (must (setperm serial)) state =
      if outcomes.works (.setperm serial) then (.ok (), state) else (.error 1, state) := by
  apply attempt_steady
  unfold setperm
  rw [attempt_act]
  cases works : outcomes.works (.setperm serial) with
  | false => rfl
  | true =>
      simp only [react, reached]
      rfl

/-- The state after a key was given its 18 hours. -/
def State.timed (state : State) (serial : Nat) (key : Key) : State :=
  state.store serial { key with expiry := some (state.clock + lifetime) }

theorem State.timed_reach (alive : key.Alive state.clock) :
    (state.timed serial key).reach serial =
      some { key with expiry := some (state.clock + lifetime) } := by
  apply State.reach_of_alive
  · exact State.store_keys state serial _
  · constructor
    · exact alive.1
    · intro expiry same
      cases same
      show state.clock < state.clock + lifetime
      unfold lifetime
      omega

theorem attempt_setTimeout (reached : state.reach serial = some key) :
    attempt outcomes (must (setTimeout serial)) state =
      if outcomes.works (.setTimeout serial) then (.ok (), state.timed serial key)
      else (.error 1, state) := by
  unfold must setTimeout
  rw [attempt_bind, attempt_act]
  cases works : outcomes.works (.setTimeout serial) with
  | false => rfl
  | true =>
      simp only [react, reached]
      rfl

theorem attempt_readKey (reached : state.reach serial = some key) :
    attempt outcomes (get (readKey serial)) state =
      if outcomes.works (.readKey serial) then (.ok key.payload, state)
      else (.error 1, state) := by
  unfold get readKey
  rw [attempt_bind, attempt_act]
  cases works : outcomes.works (.readKey serial) with
  | false => rfl
  | true =>
      simp only [react, reached]
      rfl

theorem attempt_now : attempt outcomes now state = (.ok state.clock, state) := by
  unfold now
  rw [attempt_act]
  cases works : outcomes.works .now <;> rfl

/-- The new key is as it was, in the same boot. -/
structure Held (serial : Nat) (description : String) (before after : State) : Prop where
  boot : after.boot = before.boot
  ring : after.ring = before.ring
  key : ∃ key, after.reach serial = some key ∧ key.description = description

theorem attempt_write (inode : Nat) (metadata : Metadata) :
    ∃ written inodes, attempt outcomes (write inode metadata) state =
      (.ok written, { state with inodes := inodes }) := by
  unfold write
  rw [attempt_act]
  cases works : outcomes.works (.write inode metadata) with
  | false => exact ⟨false, state.inodes, rfl⟩
  | true =>
      cases short : outcomes.short with
      | true =>
          have stops : (outcomes.fault (.write inode metadata)).short = true := short
          simp only [react, stops]
          exact ⟨true, state.inodes, rfl⟩
      | false =>
          have whole : (outcomes.fault (.write inode metadata)).short = false := short
          simp only [react, whole]
          exact ⟨true, _, rfl⟩

theorem attempt_close (inode : Nat) :
    attempt outcomes (close inode) state = (.ok (outcomes.works (.close inode)), state) := by
  unfold close
  rw [attempt_act]
  cases works : outcomes.works (.close inode) <;> rfl

theorem attempt_create {username : String} (absent : state.files username = none) :
    attempt outcomes (get (create username)) state =
      if outcomes.works (.create username) then
        (.ok state.nextInode, { state with
          files := Function.update state.files username (some state.nextInode)
          inodes := Function.update state.inodes state.nextInode none
          nextInode := state.nextInode + 1 })
      else (.error 1, state) := by
  unfold get create
  rw [attempt_bind, attempt_act]
  cases works : outcomes.works (.create username) with
  | false => rfl
  | true =>
      simp only [react, absent]
      rfl

/-- A file that was created stays, whatever raised after it. -/
theorem writeMetadata_raised {username : String} {metadata : Metadata} {status : Nat}
    {after : State} (absent : state.files username = none)
    (raised : attempt outcomes (writeMetadata username metadata) state = (.error status, after)) :
    status = 1 ∧ after.boot = state.boot ∧ after.ring = state.ring ∧ after.keys = state.keys ∧
      after.clock = state.clock ∧
      (after.files username = none ↔ outcomes.works (.create username) = false) := by
  unfold writeMetadata at raised
  rw [attempt_bind, attempt_create outcomes absent] at raised
  cases works : outcomes.works (.create username) with
  | false =>
      rw [works] at raised
      cases raised
      exact ⟨rfl, rfl, rfl, rfl, rfl, fun _ => rfl, fun _ => absent⟩
  | true =>
      rw [works] at raised
      have filed : Function.update state.files username (some state.nextInode) username ≠ none := by
        rw [Function.update_self]
        exact Option.some_ne_none _
      simp only [if_true] at raised
      rw [attempt_bind] at raised
      obtain ⟨written, inodes, wrote⟩ := @attempt_write outcomes
        { state with
          files := Function.update state.files username (some state.nextInode)
          inodes := Function.update state.inodes state.nextInode none
          nextInode := state.nextInode + 1 } state.nextInode metadata
      rw [wrote] at raised
      simp only [] at raised
      rw [attempt_bind, attempt_close] at raised
      simp only [] at raised
      cases both : written && outcomes.works (.close state.nextInode) with
      | true =>
          rw [both] at raised
          cases raised
      | false =>
          rw [both] at raised
          cases raised
          exact ⟨rfl, rfl, rfl, rfl, rfl, fun none => absurd none filed,
            fun other => by cases other⟩

/-- When publish raises, the key is there still, and the file is if it was
created. -/
theorem publish_raised {username : String} {nativeUid : Int} {input : Library.Bytes} {boot : String}
    {status : Nat} {after : State} (reached : state.reach serial = some key)
    (same : key.payload.bytes = input) (absent : state.files username = none)
    (raised : attempt outcomes (publish username nativeUid input boot serial) state =
      (.error status, after)) :
    status = 1 ∧ Held serial key.description state after ∧
      (after.files username = none ↔ outcomes.files username serial = false) := by
  unfold publish at raised
  unfold Outcomes.files
  have alive := (State.of_reach reached).2
  rw [attempt_seq, attempt_setperm outcomes reached] at raised
  cases first : outcomes.works (.setperm serial) with
  | false =>
      rw [first] at raised
      cases raised
      exact ⟨rfl, ⟨rfl, rfl, key, reached, rfl⟩, fun _ => rfl, fun _ => absent⟩
  | true =>
      rw [first] at raised
      simp only [if_true] at raised
      rw [attempt_seq, attempt_setTimeout outcomes reached] at raised
      cases second : outcomes.works (.setTimeout serial) with
      | false =>
          rw [second] at raised
          cases raised
          exact ⟨rfl, ⟨rfl, rfl, key, reached, rfl⟩, fun _ => rfl, fun _ => absent⟩
      | true =>
          rw [second] at raised
          simp only [if_true] at raised
          have timed : (state.timed serial key).reach serial =
              some { key with expiry := some (state.clock + lifetime) } := State.timed_reach alive
          rw [attempt_seq, attempt_readKey outcomes timed] at raised
          cases third : outcomes.works (.readKey serial) with
          | false =>
              rw [third] at raised
              cases raised
              exact ⟨rfl, ⟨rfl, rfl, _, timed, rfl⟩, fun _ => rfl, fun _ => absent⟩
          | true =>
              rw [third] at raised
              simp only [if_true, same] at raised
              rw [attempt_seq, attempt_now] at raised
              obtain ⟨status, boot, ring, keys, clock, files⟩ :=
                @writeMetadata_raised outcomes (state.timed serial key) _ _ _ _ absent raised
              refine ⟨status, ⟨boot, ring, { key with expiry := some (state.clock + lifetime) }, ?_,
                rfl⟩, ?_⟩
              · rw [← timed]
                unfold State.reach
                rw [keys, boot, clock]
              · rw [files, Bool.and_self, Bool.and_self, Bool.true_and]

/-- The handler: one of its two calls is enough. -/
theorem undo_leaves {status : Nat} (reached : state.reach serial = some key)
    (linked : state.ring key.description = some serial) :
    ∃ after, attempt outcomes (undo serial status) state = (.error status, after) ∧
      after.boot = state.boot ∧ after.files = state.files ∧
      (after.found key.description = none ↔
        outcomes.works (.revoke serial) = true ∨ outcomes.works (.unlink serial) = true) := by
  obtain ⟨there, alive⟩ := State.of_reach reached
  have gone : (state.unlinked key.description).ring key.description = none := by
    show Function.update state.ring key.description none key.description = none
    rw [Function.update_self]
  unfold undo
  rw [attempt_seq, attempt_revoke outcomes reached]
  cases first : outcomes.works (.revoke serial) with
  | false =>
      simp only [Bool.false_eq_true, if_false]
      rw [attempt_seq, attempt_unlink outcomes there linked]
      cases second : outcomes.works (.unlink serial) with
      | false =>
          refine ⟨state, rfl, rfl, rfl, fun none => ?_,
            fun other => by rcases other with h | h <;> cases h⟩
          rw [State.found_of_reach linked reached] at none
          cases none
      | true =>
          refine ⟨state.unlinked key.description, rfl, rfl, rfl, fun _ => Or.inr rfl, fun _ => ?_⟩
          exact State.found_unlinked gone
  | true =>
      simp only [if_true]
      have dead := State.store_keys state serial
        { key with revoked := some ⟨0, state.boot, state.clock⟩ }
      rw [attempt_seq, @attempt_unlink outcomes (state.revoked serial key) serial _ dead linked]
      cases second : outcomes.works (.unlink serial) with
      | false =>
          refine ⟨state.revoked serial key, rfl, rfl, rfl, fun _ => Or.inl trivial, fun _ => ?_⟩
          exact @State.found_revoked (state.revoked serial key) serial _ _ linked dead
            (Option.some_ne_none _)
      | true =>
          refine ⟨(state.revoked serial key).unlinked key.description, rfl, rfl, rfl,
            fun _ => Or.inl trivial, fun _ => ?_⟩
          exact State.found_unlinked gone

/-! ### From the search to the new key -/

/-- The new key as add_key leaves it. -/
structure Fresh (description : String) (input : Library.Bytes) (serial : Nat)
    (before after : State) : Prop where
  boot : after.boot = before.boot
  files : after.files = before.files
  linked : after.ring description = some serial
  key : ∃ key, after.reach serial = some key ∧ key.description = description ∧
    key.payload.bytes = input

/-- add_key where a key is still linked under the description. -/
theorem attempt_addKey_again {description : String} {input : Library.Bytes} {linked : Nat}
    (found : state.found description = some (linked, key)) (named : key.description = description) :
    outcomes.works (.addKey description input) = true →
    ∃ after, attempt outcomes (get (addKey description input)) state = (.ok linked, after) ∧
      Fresh description input linked state after := by
  intro works
  obtain ⟨ring, reached⟩ := State.of_found found
  obtain ⟨there, alive⟩ := State.of_reach reached
  unfold get addKey
  rw [attempt_bind, attempt_act, works, if_pos rfl]
  simp only [react, State.add, found]
  refine ⟨_, rfl, rfl, rfl, ring, { key with payload := ⟨input, 0⟩, expiry := none }, ?_, named,
    rfl⟩
  apply State.reach_of_alive
  · exact State.store_keys state linked _
  · constructor
    · exact alive.1
    · intro expiry none
      cases none

/-- add_key where none is. -/
theorem attempt_addKey_anew {description : String} {input : Library.Bytes}
    (found : state.found description = none) :
    outcomes.works (.addKey description input) = true →
    (∃ other, state.keys state.boot outcomes.serial = some other ∧
      attempt outcomes (get (addKey description input)) state = (.error 1, state)) ∨
    (state.keys state.boot outcomes.serial = none ∧
      ∃ after, attempt outcomes (get (addKey description input)) state =
        (.ok outcomes.serial, after) ∧ Fresh description input outcomes.serial state after) := by
  intro works
  unfold get addKey
  rw [attempt_bind, attempt_act, works, if_pos rfl]
  have serial : (outcomes.fault (.addKey description input)).serial = outcomes.serial := rfl
  cases used : state.keys state.boot outcomes.serial with
  | some other =>
      refine Or.inl ⟨other, rfl, ?_⟩
      simp only [react, State.add, found, serial, used]
      rfl
  | none =>
      refine Or.inr ⟨rfl, ?_⟩
      simp only [react, State.add, found, serial, used]
      refine ⟨_, rfl, rfl, rfl, ?_, ⟨description, ⟨input, 0⟩, none, none⟩, ?_, rfl, rfl⟩
      · exact Function.update_self description (some outcomes.serial) state.ring
      · apply State.reach_of_alive
        · exact State.store_keys state outcomes.serial _
        · constructor
          · rfl
          · intro expiry none
            cases none

theorem attempt_addKey_fails {description : String} {input : Library.Bytes}
    (fails : outcomes.works (.addKey description input) = false) :
    attempt outcomes (get (addKey description input)) state = (.error 1, state) := by
  unfold get addKey
  rw [attempt_bind, attempt_act, fails]
  rfl

/-- The key of an interrupted preparation is revoked and unlinked. -/
theorem clearStale_leaves (found : state.found key.description = some (serial, key)) :
    attempt outcomes (clearStale (some serial)) state =
      if outcomes.works (.revoke serial) then
        if outcomes.works (.unlink serial) then
          (.ok (), (state.revoked serial key).unlinked key.description)
        else (.error 1, state.revoked serial key)
      else (.error 1, state) := by
  obtain ⟨linked, reached⟩ := State.of_found found
  unfold clearStale must
  rw [attempt_bind, attempt_bind, attempt_revoke outcomes reached]
  cases first : outcomes.works (.revoke serial) with
  | false => rfl
  | true =>
      have dead := State.store_keys state serial
        { key with revoked := some ⟨0, state.boot, state.clock⟩ }
      simp only [if_true, attempt_done]
      rw [attempt_bind, @attempt_unlink outcomes (state.revoked serial key) serial _ dead linked]
      cases second : outcomes.works (.unlink serial) <;> rfl

end Calls

/-! ### The whole preparation -/

section Whole

variable (outcomes : Outcomes) (username : String) (nativeUid : Int) (input : Library.Bytes)
  (start : Start)

/-- Before the keyring is touched. -/
def Outcomes.enters (outcomes : Outcomes) (username : String) : Bool :=
  inScope username && outcomes.works .context && outcomes.works (.present username) &&
    outcomes.works .mlock

/-- How addInput ends: with the new key, or with what the condition says of the
old one. -/
inductive Ends (outcomes : Outcomes) (username : String) (input : Library.Bytes) (start : State) :
    Except Nat (String × Nat) × State → Prop where
  | added {serial : Nat} {after : State} (adds : outcomes.added username input start = some serial)
      (fresh : Fresh (describe start.boot username) input serial start after) :
      Ends outcomes username input start (.ok (start.boot, serial), after)
  | raised {after : State} (none : outcomes.added username input start = none)
      (boot : after.boot = start.boot) (files : after.files = start.files)
      (key : after.found (describe start.boot username) = Option.none ↔
        ∀ serial key, start.found (describe start.boot username) = some (serial, key) →
          outcomes.searches username start = true ∧
          outcomes.stale username start = some serial ∧ outcomes.works (.revoke serial) = true) :
      Ends outcomes username input start (.error 1, after)

/-- A call before the search fails. -/
theorem Ends.early {start : State} (searches : outcomes.searches username start = false) :
    Ends outcomes username input start (.error 1, start) := by
  apply Ends.raised
  · unfold Outcomes.added
    rw [searches, Bool.false_and, Bool.false_and]
    rfl
  · rfl
  · rfl
  · constructor
    · intro none serial key found
      rw [none] at found
      cases found
    · intro cleared
      cases found : start.found (describe start.boot username) with
      | none => rfl
      | some pair =>
          obtain ⟨never, _⟩ := cleared pair.1 pair.2 found
          rw [searches] at never
          cases never

/-- The stale key, if the search gave one, was taken away. -/
def Outcomes.clears (outcomes : Outcomes) (username : String) (start : State) : Bool :=
  (outcomes.stale username start).all
    (fun stale => outcomes.works (.revoke stale) && outcomes.works (.unlink stale))

/-- From add_key on, with no key linked under the description any more. -/
theorem addKey_ends {start after : State} (searches : outcomes.searches username start = true)
    (clears : outcomes.clears username start = true)
    (adds : outcomes.adds username start =
      if (start.keys start.boot outcomes.serial).isNone then some outcomes.serial else none)
    (boot : after.boot = start.boot) (files : after.files = start.files)
    (unused : (after.keys after.boot outcomes.serial).isNone =
      (start.keys start.boot outcomes.serial).isNone)
    (gone : after.found (describe start.boot username) = none)
    (cleared : ∀ serial key, start.found (describe start.boot username) = some (serial, key) →
      outcomes.searches username start = true ∧
      outcomes.stale username start = some serial ∧ outcomes.works (.revoke serial) = true) :
    Ends outcomes username input start
      (attempt outcomes ((get (addKey (describe start.boot username) input)) >>=
        (fun serial => pure (start.boot, serial))) after) := by
  rw [attempt_seq]
  unfold Outcomes.clears at clears
  cases works : outcomes.works (.addKey (describe start.boot username) input) with
  | false =>
      rw [attempt_addKey_fails outcomes works]
      apply Ends.raised
      · unfold Outcomes.added
        rw [works, Bool.and_false]
        rfl
      · exact boot
      · exact files
      · exact ⟨fun _ => cleared, fun _ => gone⟩
  | true =>
      have added : outcomes.added username input start = outcomes.adds username start := by
        unfold Outcomes.added
        rw [searches, clears, works]
        rfl
      rcases attempt_addKey_anew outcomes gone works with
        ⟨other, used, fails⟩ | ⟨none, later, goes, fresh⟩
      · rw [fails]
        apply Ends.raised
        · rw [added, adds, ← unused, used]
          rfl
        · exact boot
        · exact files
        · exact ⟨fun _ => cleared, fun _ => gone⟩
      · rw [goes]
        apply Ends.added
        · rw [added, adds, ← unused, none]
          rfl
        · exact ⟨fresh.boot.trans boot, fresh.files.trans files, fresh.linked, fresh.key⟩

/-- A description's key carries it. -/
theorem Start.named {description : String} {serial : Nat} {key : Key}
    (found : start.found description = some (serial, key)) : key.description = description := by
  obtain ⟨linked, reached⟩ := State.of_found found
  obtain ⟨same, there, named⟩ := start.linked _ _ linked
  rw [(State.of_reach reached).1] at there
  cases there
  exact named

/-- A search that failed: add_key takes the key that is still linked. -/
theorem missed_ends {serial : Nat} {key : Key}
    (searches : outcomes.searches username start.toState = true)
    (found : start.found (describe start.boot username) = some (serial, key))
    (missed : outcomes.works (.search (describe start.boot username)) = false) :
    Ends outcomes username input start.toState
      (attempt outcomes ((get (addKey (describe start.boot username) input)) >>=
        (fun serial => pure (start.boot, serial))) start.toState) := by
  have missing : outcomes.stale username start.toState = none := by
    unfold Outcomes.stale
    rw [missed]
    rfl
  have added : outcomes.added username input start.toState =
      if outcomes.works (.addKey (describe start.boot username) input) then some serial
      else none := by
    unfold Outcomes.added Outcomes.adds
    rw [searches, missing, found]
    rfl
  rw [attempt_seq]
  cases works : outcomes.works (.addKey (describe start.boot username) input) with
  | false =>
      rw [attempt_addKey_fails outcomes works]
      apply Ends.raised
      · rw [added, works]
        rfl
      · rfl
      · rfl
      · constructor
        · intro none
          rw [found] at none
          cases none
        · intro cleared
          have impossible := (cleared serial key found).2.1
          rw [missing] at impossible
          cases impossible
  | true =>
      obtain ⟨after, goes, fresh⟩ :=
        attempt_addKey_again outcomes found (start.named found) works
      rw [goes]
      apply Ends.added
      · rw [added, works]
        rfl
      · exact fresh

/-- A key that the search found. -/
theorem stale_ends {serial : Nat} {key : Key}
    (searches : outcomes.searches username start.toState = true)
    (found : start.found (describe start.boot username) = some (serial, key))
    (looks : outcomes.works (.search (describe start.boot username)) = true) :
    Ends outcomes username input start.toState
      (attempt outcomes (do
        clearStale (some serial)
        let serial ← get (addKey (describe start.boot username) input)
        pure (start.boot, serial)) start.toState) := by
  obtain ⟨linked, reached⟩ := State.of_found found
  have own := start.named found
  have stale : outcomes.stale username start.toState = some serial := by
    unfold Outcomes.stale
    rw [looks, found]
    rfl
  have clears : outcomes.clears username start.toState =
      (outcomes.works (.revoke serial) && outcomes.works (.unlink serial)) := by
    unfold Outcomes.clears
    rw [stale, Option.all_some]
  have unadded : outcomes.clears username start.toState = false →
      outcomes.added username input start.toState = none := by
    intro fails
    unfold Outcomes.clears at fails
    unfold Outcomes.added
    rw [fails, Bool.and_false, Bool.false_and]
    rfl
  have dead := State.store_keys start.toState serial
    { key with revoked := some ⟨0, start.boot, start.clock⟩ }
  rw [attempt_seq, clearStale_leaves outcomes (by rw [own]; exact found)]
  cases first : outcomes.works (.revoke serial) with
  | false =>
      apply Ends.raised
      · apply unadded
        rw [clears, first, Bool.false_and]
      · rfl
      · rfl
      · constructor
        · intro none
          rw [found] at none
          cases none
        · intro cleared
          have impossible := (cleared serial key found).2.2
          rw [first] at impossible
          cases impossible
  | true =>
      have cleared : ∀ other value, start.found (describe start.boot username) =
          some (other, value) → outcomes.searches username start.toState = true ∧
          outcomes.stale username start.toState = some other ∧
          outcomes.works (.revoke other) = true := by
        intro other value again
        rw [found] at again
        cases again
        exact ⟨searches, stale, first⟩
      cases second : outcomes.works (.unlink serial) with
      | false =>
          apply Ends.raised
          · apply unadded
            rw [clears, second, Bool.and_false]
          · rfl
          · rfl
          · constructor
            · intro _
              exact cleared
            · intro _
              exact @State.found_revoked (start.revoked serial key) serial _ _ linked dead
                (Option.some_ne_none _)
      | true =>
          apply addKey_ends outcomes username input searches
          · rw [clears, first, second]
            rfl
          · unfold Outcomes.adds
            rw [stale]
          · rfl
          · rfl
          · by_cases same : outcomes.serial = serial
            · rw [same]
              apply (congrArg Option.isNone dead).trans
              rw [(State.of_reach reached).1]
              rfl
            · exact congrArg Option.isNone (State.store_other start.toState serial _ _ same)
          · apply State.found_unlinked
            show Function.update start.ring key.description none _ = none
            rw [own, Function.update_self]
          · exact cleared

/-- From the search on. -/
theorem search_ends (searches : outcomes.searches username start.toState = true) :
    Ends outcomes username input start.toState
      (attempt outcomes (do
        let stale ← search (describe start.boot username)
        clearStale stale
        let serial ← get (addKey (describe start.boot username) input)
        pure (start.boot, serial)) start.toState) := by
  rw [attempt_seq, attempt_search]
  cases found : start.found (describe start.boot username) with
  | none =>
      have missing : outcomes.stale username start.toState = none := by
        unfold Outcomes.stale
        rw [found]
        split <;> rfl
      have nothing : (if outcomes.works (.search (describe start.boot username)) then
          Option.map Prod.fst (none : Option (Nat × Key)) else none) = none := by
        split <;> rfl
      rw [nothing]
      simp only []
      rw [attempt_seq]
      apply addKey_ends outcomes username input searches
      · unfold Outcomes.clears
        rw [missing]
        rfl
      · unfold Outcomes.adds
        rw [missing, found]
      · rfl
      · rfl
      · rfl
      · exact found
      · intro serial key other
        rw [found] at other
        cases other
  | some pair =>
      rcases pair with ⟨serial, key⟩
      cases looks : outcomes.works (.search (describe start.boot username)) with
      | false =>
          simp only [Bool.false_eq_true, if_false]
          rw [attempt_seq]
          simp only [clearStale, attempt_done]
          exact missed_ends outcomes username input start searches found looks
      | true =>
          simp only [if_true, Option.map_some]
          exact stale_ends outcomes username input start searches found looks

/-- How addInput ends once the calls before it worked. -/
theorem addInput_ends (entered : outcomes.enters username = true) :
    Ends outcomes username input start.toState
      (attempt outcomes (addInput username input) start.toState) := by
  have searches : outcomes.searches username start.toState =
      (outcomes.works .lseek && outcomes.works .read && outcomes.works .bootId &&
        ascii (describe start.boot username)) := by
    unfold Outcomes.enters at entered
    unfold Outcomes.searches
    rw [entered, Bool.true_and]
  unfold addInput
  rw [attempt_seq, attempt_lseek]
  cases first : outcomes.works .lseek with
  | false =>
      apply Ends.early
      rw [searches, first]
      rfl
  | true =>
      simp only [if_true]
      rw [attempt_seq, attempt_read]
      cases second : outcomes.works .read with
      | false =>
          apply Ends.early
          rw [searches, first, second]
          rfl
      | true =>
          simp only [if_true]
          rw [attempt_seq, attempt_bootId]
          cases third : outcomes.works .bootId with
          | false =>
              apply Ends.early
              rw [searches, first, second, third]
              rfl
          | true =>
              simp only [if_true]
              cases plain : ascii (describe start.boot username) with
              | false =>
                  apply Ends.early
                  rw [searches, plain, Bool.and_false]
              | true =>
                  simp only [if_true]
                  apply search_ends
                  rw [searches, first, second, third, plain]
                  rfl

/-- Raised before there was a key. -/
theorem Ends.clean {start after : State}
    (ends : Ends outcomes username input start (.error 1, after)) :
    Clean username after ↔ outcomes.Spotless username input start := by
  cases ends with
  | raised none boot files key =>
      unfold Clean Outcomes.Spotless
      rw [none, boot, files, key]

/-- Raised with the new key in the keyring. -/
theorem publish_clean {serial status : Nat} {later after : State}
    (added : outcomes.added username input start.toState = some serial)
    (fresh : Fresh (describe start.boot username) input serial start.toState later)
    (absent : start.files username = none)
    (raised : attempt outcomes ((publish username nativeUid input start.boot serial).onExit
      (undo serial)) later = (.error status, after)) :
    Clean username after ↔ outcomes.Spotless username input start.toState := by
  obtain ⟨key, reached, named, bytes⟩ := fresh.key
  have unfiled : later.files username = none := by
    rw [fresh.files]
    exact absent
  rw [attempt_onExit] at raised
  rcases goes : attempt outcomes (publish username nativeUid input start.boot serial) later with
    ⟨result, middle⟩
  rw [goes] at raised
  cases result with
  | ok value => cases raised
  | error failure =>
      obtain ⟨_, held, files⟩ := publish_raised outcomes reached bytes unfiled goes
      obtain ⟨last, there, still⟩ := held.key
      have linked : middle.ring last.description = some serial := by
        rw [held.ring, still, named]
        exact fresh.linked
      obtain ⟨final, undone, boot, same, taken⟩ :=
        @undo_leaves outcomes _ _ _ failure there linked
      simp only [undone] at raised
      cases raised
      rw [still, named] at taken
      unfold Clean Outcomes.Spotless
      rw [added, boot, held.boot, fresh.boot, same, files, taken]
      constructor
      · intro clean
        exact ⟨absent, clean⟩
      · intro spotless
        exact spotless.2

/-- A preparation that raises leaves nothing exactly when the calls that failed
are among those the handler makes up for. -/
theorem prepare_leaves_nothing {status : Nat} {after : State}
    (raised : attempt outcomes (prepare username nativeUid input) start.toState =
      (.error status, after)) :
    Clean username after ↔ outcomes.Spotless username input start.toState := by
  have early : outcomes.enters username = false →
      Ends outcomes username input start.toState (.error 1, start.toState) := by
    intro stops
    apply Ends.early
    unfold Outcomes.enters at stops
    unfold Outcomes.searches
    rw [stops]
    rfl
  unfold prepare at raised
  rw [attempt_seq, attempt_context] at raised
  cases first : inScope username && outcomes.works .context with
  | false =>
      rw [first] at raised
      cases raised
      apply Ends.clean
      apply early
      unfold Outcomes.enters
      rw [first]
      rfl
  | true =>
      rw [first] at raised
      simp only [if_true] at raised
      rw [attempt_seq, attempt_absent] at raised
      cases second : outcomes.works (.present username) with
      | false =>
          rw [second] at raised
          cases raised
          apply Ends.clean
          apply early
          unfold Outcomes.enters
          rw [second, Bool.and_false]
          rfl
      | true =>
          cases there : start.files username with
          | some inode =>
              rw [second, there] at raised
              cases raised
              constructor
              · intro clean
                have none := clean.1
                rw [there] at none
                cases none
              · intro spotless
                have none := spotless.1
                rw [there] at none
                cases none
          | none =>
              rw [second, there] at raised
              simp only [Option.isNone_none, Bool.and_self, if_true] at raised
              rw [attempt_seq, attempt_mlock] at raised
              cases third : outcomes.works .mlock with
              | false =>
                  rw [third] at raised
                  cases raised
                  apply Ends.clean
                  apply early
                  unfold Outcomes.enters
                  rw [third, Bool.and_false]
              | true =>
                  rw [third] at raised
                  simp only [if_true] at raised
                  have entered : outcomes.enters username = true := by
                    unfold Outcomes.enters
                    rw [first, second, third]
                    rfl
                  rw [attempt_seq] at raised
                  have ends := addInput_ends outcomes username input start entered
                  rcases goes : attempt outcomes (addInput username input) start.toState with
                    ⟨result, later⟩
                  rw [goes] at raised ends
                  cases ends with
                  | raised none boot files key =>
                      cases raised
                      exact Ends.clean outcomes username input
                        (Ends.raised none boot files key)
                  | @added serial later added fresh =>
                      simp only [] at raised
                      rw [attempt_seq] at raised
                      rcases published : attempt outcomes ((publish username nativeUid input
                        start.boot serial).onExit (undo serial)) later with ⟨ending, final⟩
                      rw [published] at raised
                      cases ending with
                      | ok value => cases raised
                      | error failure =>
                          cases raised
                          exact publish_clean outcomes username nativeUid input start added fresh
                            there published

end Whole

/-! ### A failed write -/

/-- A boot in which nothing was prepared yet. -/
def Start.empty : Start where
  boot := "9d1f"
  boots := ["9d1f"]
  clock := 1000
  keys := fun _ _ => none
  ring := fun _ => none
  files := fun _ => none
  inodes := fun _ => none
  nextInode := 0
  added := fun _ => none
  linked := by
    intro description serial linked
    cases linked

/-- Every call works but those of a kind. -/
def except (broken : Op → Bool) : Outcomes where
  works := fun operation => !broken operation
  serial := 41
  short := false

def writes : Op → Bool
  | .write _ _ => true
  | _ => false

def permissions : Op → Bool
  | .setperm _ => true
  | _ => false

theorem setperm_clean :
    Clean "alice" (attempt (except permissions) (prepare "alice" 7 (List.replicate 32 5))
      Start.empty.toState).2 := by
  have raised : (attempt (except permissions) (prepare "alice" 7 (List.replicate 32 5))
      Start.empty.toState).1 = .error 1 := by
    decide +kernel
  apply (prepare_leaves_nothing (except permissions) "alice" 7 (List.replicate 32 5) Start.empty
    (Prod.ext raised rfl)).mpr
  have added : (except permissions).added "alice" (List.replicate 32 5) Start.empty.toState =
      some 41 := by
    decide +kernel
  constructor
  · rfl
  · rw [added]
    exact ⟨rfl, Or.inl rfl⟩

/-- The write of the metadata fails: the file stays, and the next preparation,
with every call working, is refused. -/
theorem failed_write_blocks :
    (attempt (except writes) (prepare "alice" 7 (List.replicate 32 5)) Start.empty.toState).1 =
        .error 1 ∧
      ¬Clean "alice" (attempt (except writes) (prepare "alice" 7 (List.replicate 32 5))
        Start.empty.toState).2 ∧
      (attempt (except (fun _ => false)) (prepare "alice" 7 (List.replicate 32 5))
        (attempt (except writes) (prepare "alice" 7 (List.replicate 32 5))
          Start.empty.toState).2).1 = .error 1 := by
  constructor
  · decide +kernel
  · constructor
    · intro clean
      have left : (attempt (except writes) (prepare "alice" 7 (List.replicate 32 5))
          Start.empty.toState).2.files "alice" = some 0 := by
        decide +kernel
      rw [clean.1] at left
      cases left
    · decide +kernel

end Liuqin.Fingerprint.Acceptance
