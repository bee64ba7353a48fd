/-
Prepared input comes out at most once, and to the account it was prepared for.

Calls of prepare, consume and discard run side by side, die at any step and are
cut off by reboots.  What carries the argument is that a key is revoked once and
that its payload is the input of one call; the second needs that add_key never
finds a key that is still alive under its description.
-/

import Liuqin.Fingerprint.Acceptance

namespace Liuqin.Fingerprint.Acceptance

open Liuqin.Library Liuqin.Library.Program Liuqin.Library.Sharing

/-- add_key makes a key. -/
def AddsAnew (_ : Nat) (operation : Op) (state : State) : Prop :=
  match operation with
  | .addKey description _ => state.found description = none
  | _ => True

/-! ### What stays true -/

/-- Whose input lies under a key. -/
def Prepared (calls : Nat → Call) (payload : Payload) (username : String) (nativeUid : Int) :
    Prop :=
  calls payload.origin = .prepare username nativeUid payload.bytes

structure Inv (calls : Nat → Call) (state : State) : Prop where
  current : state.boot ∈ state.boots
  known : ∀ boot serial key, state.keys boot serial = some key → boot ∈ state.boots
  placed : ∀ boot serial key, state.keys boot serial = some key →
    state.added key.payload.origin = some (boot, serial)
  owned : ∀ boot serial key, state.keys boot serial = some key →
    ∃ username nativeUid, Prepared calls key.payload username nativeUid ∧
      key.description = describe boot username
  linked : ∀ description serial, state.ring description = some serial →
    ∃ key, state.keys state.boot serial = some key ∧ key.description = description
  timely : ∀ boot serial key revocation, state.keys boot serial = some key →
    key.revoked = some revocation →
      revocation.boot = boot ∧ ∀ expiry ∈ key.expiry, revocation.clock < expiry
  told : ∀ inode metadata, state.inodes inode = some metadata →
    ∃ key, state.keys metadata.bootId metadata.keySerial = some key ∧ key.expiry ≠ none ∧
      Prepared calls key.payload metadata.username metadata.nativeUid

/-- What becomes of a key: it gets its expiry, and it is revoked once. -/
structure Key.Ages (before after : Key) : Prop where
  description : after.description = before.description
  payload : after.payload = before.payload
  expiry : before.expiry ≠ none → after.expiry ≠ none
  revoked : ∀ revocation, before.revoked = some revocation → after = before

theorem Key.Ages.refl (key : Key) : key.Ages key where
  description := rfl
  payload := rfl
  expiry := id
  revoked := fun _ _ => rfl

theorem Key.Ages.trans {first second third : Key} (front : first.Ages second)
    (back : second.Ages third) : first.Ages third where
  description := back.description.trans front.description
  payload := back.payload.trans front.payload
  expiry := fun limited => back.expiry (front.expiry limited)
  revoked := by
    intro revocation revoked
    have same := front.revoked revocation revoked
    rw [← same] at revoked
    rw [back.revoked revocation revoked, same]

/-- What the calls do to the shared state between boots. -/
structure Grown (before after : State) : Prop where
  boot : after.boot = before.boot
  boots : after.boots = before.boots
  clock : before.clock ≤ after.clock
  keys : ∀ boot serial key, before.keys boot serial = some key →
    ∃ aged, after.keys boot serial = some aged ∧ key.Ages aged
  added : ∀ index place, before.added index = some place → after.added index = some place

theorem Grown.refl (state : State) : Grown state state where
  boot := rfl
  boots := rfl
  clock := Nat.le_refl _
  keys := fun _ _ key there => ⟨key, there, Key.Ages.refl key⟩
  added := fun _ _ => id

theorem Grown.trans {first second third : State} (front : Grown first second)
    (back : Grown second third) : Grown first third where
  boot := back.boot.trans front.boot
  boots := back.boots.trans front.boots
  clock := Nat.le_trans front.clock back.clock
  keys := by
    intro boot serial key there
    obtain ⟨middle, later, ages⟩ := front.keys boot serial key there
    obtain ⟨last, still, agesOn⟩ := back.keys boot serial middle later
    exact ⟨last, still, ages.trans agesOn⟩
  added := fun index place there => back.added index place (front.added index place there)

/-- What a thread relies on. -/
structure Moved (calls : Nat → Call) (index : Nat) (before after : State) : Prop where
  grown : Grown before after
  mine : after.added index = before.added index
  inv : Inv calls before → Inv calls after

/-- What a thread guarantees. -/
structure Does (calls : Nat → Call) (index : Nat) (before after : State) : Prop where
  grown : Grown before after
  theirs : ∀ other, other ≠ index → after.added other = before.added other
  inv : Inv calls before → Inv calls after

theorem Moved.refl (calls : Nat → Call) (index : Nat) (state : State) :
    Moved calls index state state := ⟨Grown.refl state, rfl, id⟩

theorem Moved.trans {calls : Nat → Call} {index : Nat} {first second third : State}
    (front : Moved calls index first second) (back : Moved calls index second third) :
    Moved calls index first third :=
  ⟨front.grown.trans back.grown, back.mine.trans front.mine, fun inv => back.inv (front.inv inv)⟩

/-! ### Calls that add nothing -/

/-- Neither a key nor the text of a file is added. -/
structure Quiet (calls : Nat → Call) (before after : State) : Prop where
  grown : Grown before after
  added : after.added = before.added
  inv : Inv calls before → Inv calls after

theorem Quiet.moved {calls : Nat → Call} {before after : State} (quiet : Quiet calls before after)
    (index : Nat) : Moved calls index before after :=
  ⟨quiet.grown, by rw [quiet.added], quiet.inv⟩

theorem Quiet.does {calls : Nat → Call} {before after : State} (quiet : Quiet calls before after)
    (index : Nat) : Does calls index before after :=
  ⟨quiet.grown, fun other _ => by rw [quiet.added], quiet.inv⟩

theorem Quiet.trans {calls : Nat → Call} {first second third : State}
    (front : Quiet calls first second) (back : Quiet calls second third) :
    Quiet calls first third :=
  ⟨front.grown.trans back.grown, back.added.trans front.added,
    fun inv => back.inv (front.inv inv)⟩

/-- Keys age in time, links and texts are lost at most. -/
theorem Quiet.of_aged {calls : Nat → Call} {before after : State}
    (boot : after.boot = before.boot) (boots : after.boots = before.boots)
    (clock : before.clock ≤ after.clock)
    (keys : ∀ boot serial, after.keys boot serial = before.keys boot serial ∨
      ∃ key aged, before.keys boot serial = some key ∧ after.keys boot serial = some aged ∧
        key.Ages aged ∧ ∀ revocation, aged.revoked = some revocation →
          revocation.boot = boot ∧ ∀ expiry ∈ aged.expiry, revocation.clock < expiry)
    (ring : ∀ description serial, after.ring description = some serial →
      before.ring description = some serial)
    (inodes : ∀ inode metadata, after.inodes inode = some metadata →
      before.inodes inode = some metadata)
    (added : after.added = before.added) : Quiet calls before after := by
  have forth : ∀ boot serial key, before.keys boot serial = some key →
      ∃ aged, after.keys boot serial = some aged ∧ key.Ages aged := by
    intro boot serial key there
    rcases keys boot serial with same | ⟨other, aged, here, later, ages, _⟩
    · exact ⟨key, same.trans there, Key.Ages.refl key⟩
    · rw [there] at here
      cases here
      exact ⟨aged, later, ages⟩
  have back : ∀ boot serial aged, after.keys boot serial = some aged →
      ∃ key, before.keys boot serial = some key ∧ key.Ages aged := by
    intro boot serial aged there
    rcases keys boot serial with same | ⟨key, other, here, later, ages, _⟩
    · exact ⟨aged, same.symm.trans there, Key.Ages.refl aged⟩
    · rw [there] at later
      cases later
      exact ⟨key, here, ages⟩
  refine ⟨⟨boot, boots, clock, forth, ?_⟩, added, fun inv => ?_⟩
  · intro index place there
    rw [added]
    exact there
  · constructor
    · rw [boot, boots]
      exact inv.current
    · intro boot serial aged there
      obtain ⟨key, here, _⟩ := back boot serial aged there
      rw [boots]
      exact inv.known boot serial key here
    · intro boot serial aged there
      obtain ⟨key, here, ages⟩ := back boot serial aged there
      rw [added, ages.payload]
      exact inv.placed boot serial key here
    · intro boot serial aged there
      obtain ⟨key, here, ages⟩ := back boot serial aged there
      rw [ages.payload, ages.description]
      exact inv.owned boot serial key here
    · intro description serial link
      obtain ⟨key, here, named⟩ := inv.linked description serial (ring description serial link)
      obtain ⟨aged, there, ages⟩ := forth before.boot serial key here
      rw [boot]
      exact ⟨aged, there, ages.description.trans named⟩
    · intro boot serial aged revocation there revoked
      rcases keys boot serial with same | ⟨key, other, here, later, _, timely⟩
      · exact inv.timely boot serial aged revocation (same.symm.trans there) revoked
      · rw [there] at later
        cases later
        exact timely revocation revoked
    · intro inode metadata text
      obtain ⟨key, here, limited, prepared⟩ := inv.told inode metadata (inodes inode metadata text)
      obtain ⟨aged, there, ages⟩ := forth metadata.bootId metadata.keySerial key here
      refine ⟨aged, there, ages.expiry limited, ?_⟩
      rw [ages.payload]
      exact prepared

theorem Quiet.refl (calls : Nat → Call) (state : State) : Quiet calls state state :=
  ⟨Grown.refl state, rfl, id⟩

theorem Quiet.passed (calls : Nat → Call) (state : State) (elapsed : Nat) :
    Quiet calls state (state.passed elapsed) := by
  apply Quiet.of_aged
  · rfl
  · rfl
  · exact Nat.le_add_right _ _
  · intro boot serial
    exact Or.inl rfl
  · intro description serial
    exact id
  · intro inode metadata
    exact id
  · rfl

/-- A key that the kernel answers for is aged. -/
theorem Quiet.stored {calls : Nat → Call} {state : State} {serial : Nat} {key aged : Key}
    (there : state.keys state.boot serial = some key) (ages : key.Ages aged)
    (timely : ∀ revocation, aged.revoked = some revocation →
      revocation.boot = state.boot ∧ ∀ expiry ∈ aged.expiry, revocation.clock < expiry) :
    Quiet calls state (state.store serial aged) := by
  apply Quiet.of_aged
  · rfl
  · rfl
  · exact Nat.le_refl _
  · intro boot other
    by_cases here : boot = state.boot
    · by_cases same : other = serial
      · refine Or.inr ⟨key, aged, ?_, ?_, ages, ?_⟩
        · rw [here, same]
          exact there
        · rw [here, same]
          exact State.store_keys state serial aged
        · rw [here]
          exact timely
      · apply Or.inl
        rw [here]
        exact State.store_other state serial other aged same
    · apply Or.inl
      show Function.update state.keys state.boot _ boot other = _
      rw [Function.update_of_ne here]
  · intro description other
    exact id
  · intro inode metadata
    exact id
  · rfl

/-- The calls that add neither a key nor a text. -/
def Op.adds : Op → Bool
  | .addKey _ _ | .write _ _ => true
  | _ => false

theorem react_revoke (calls : Nat → Call) (index : Nat) (fault : Fault) (state : State)
    (serial : Nat) : Quiet calls state (react index fault state (.revoke serial)).2 := by
  cases reached : state.reach serial with
  | none =>
      simp only [react, reached]
      exact Quiet.refl calls state
  | some key =>
      obtain ⟨there, alive⟩ := State.of_reach reached
      simp only [react, reached]
      apply Quiet.stored there
      · constructor
        · rfl
        · rfl
        · exact id
        · intro revocation revoked
          rw [alive.1] at revoked
          cases revoked
      · intro revocation revoked
        cases revoked
        exact ⟨rfl, alive.2⟩

theorem react_setTimeout (calls : Nat → Call) (index : Nat) (fault : Fault) (state : State)
    (serial : Nat) : Quiet calls state (react index fault state (.setTimeout serial)).2 := by
  cases reached : state.reach serial with
  | none =>
      simp only [react, reached]
      exact Quiet.refl calls state
  | some key =>
      obtain ⟨there, alive⟩ := State.of_reach reached
      simp only [react, reached]
      apply Quiet.stored there
      · constructor
        · rfl
        · rfl
        · intro _
          exact Option.some_ne_none _
        · intro revocation revoked
          rw [alive.1] at revoked
          cases revoked
      · intro revocation revoked
        have never := alive.1
        rw [show key.revoked = some revocation from revoked] at never
        cases never

/-- Links, names and texts that go. -/
theorem Quiet.lost {calls : Nat → Call} {before after : State}
    (boot : after.boot = before.boot) (boots : after.boots = before.boots)
    (clock : after.clock = before.clock) (keys : after.keys = before.keys)
    (ring : ∀ description serial, after.ring description = some serial →
      before.ring description = some serial)
    (inodes : ∀ inode metadata, after.inodes inode = some metadata →
      before.inodes inode = some metadata)
    (added : after.added = before.added) : Quiet calls before after := by
  apply Quiet.of_aged boot boots (Nat.le_of_eq clock.symm) _ ring inodes added
  intro boot serial
  rw [keys]
  exact Or.inl rfl

theorem react_unlink (calls : Nat → Call) (index : Nat) (fault : Fault) (state : State)
    (serial : Nat) : Quiet calls state (react index fault state (.unlink serial)).2 := by
  cases there : state.keys state.boot serial with
  | none =>
      simp only [react, there]
      exact Quiet.refl calls state
  | some key =>
      simp only [react, there]
      split
      · apply Quiet.lost
        · rfl
        · rfl
        · rfl
        · rfl
        · intro description other link
          change Function.update state.ring key.description none description = some other at link
          by_cases same : description = key.description
          · rw [same, Function.update_self] at link
            cases link
          · rw [Function.update_of_ne same] at link
            exact link
        · intro inode metadata
          exact id
        · rfl
      · exact Quiet.refl calls state

theorem react_create (calls : Nat → Call) (index : Nat) (fault : Fault) (state : State)
    (username : String) : Quiet calls state (react index fault state (.create username)).2 := by
  cases there : state.files username with
  | some inode =>
      simp only [react, there]
      exact Quiet.refl calls state
  | none =>
      simp only [react, there]
      apply Quiet.lost
      · rfl
      · rfl
      · rfl
      · rfl
      · intro description serial
        exact id
      · intro inode metadata text
        change Function.update state.inodes state.nextInode none inode = some metadata at text
        by_cases same : inode = state.nextInode
        · rw [same, Function.update_self] at text
          cases text
        · rw [Function.update_of_ne same] at text
          exact text
      · rfl

theorem react_remove (calls : Nat → Call) (index : Nat) (fault : Fault) (state : State)
    (username : String) : Quiet calls state (react index fault state (.remove username)).2 := by
  cases there : state.files username with
  | none =>
      simp only [react, there]
      exact Quiet.refl calls state
  | some inode =>
      simp only [react, there]
      apply Quiet.lost
      · rfl
      · rfl
      · rfl
      · rfl
      · intro description serial
        exact id
      · intro inode metadata
        exact id
      · rfl

theorem react_quiet (calls : Nat → Call) (index : Nat) (fault : Fault) (state : State)
    {operation : Op} (quiet : operation.adds = false) :
    Quiet calls state (react index fault state operation).2 := by
  cases operation with
  | addKey description bytes => cases quiet
  | write inode metadata => cases quiet
  | revoke serial => exact react_revoke calls index fault state serial
  | unlink serial => exact react_unlink calls index fault state serial
  | setTimeout serial => exact react_setTimeout calls index fault state serial
  | create username => exact react_create calls index fault state username
  | remove username => exact react_remove calls index fault state username
  | _ => exact Quiet.refl calls state

theorem perform_quiet (calls : Nat → Call) (index : Nat) (fault : Fault) (state : State)
    {operation : Op} (quiet : operation.adds = false) :
    Quiet calls state (perform index operation fault state).2 := by
  unfold perform
  split
  · exact Quiet.passed calls state fault.elapsed
  · exact (Quiet.passed calls state fault.elapsed).trans
      (react_quiet calls index fault (state.passed fault.elapsed) quiet)

/-! ### Calls that add -/

theorem Key.Alive.earlier {key : Key} {clock elapsed : Nat} (alive : key.Alive (clock + elapsed)) :
    key.Alive clock := by
  constructor
  · exact alive.1
  · intro expiry limited
    have later := alive.2 expiry limited
    omega

theorem State.reach_passed {state : State} {serial elapsed : Nat} {key : Key}
    (reached : (state.passed elapsed).reach serial = some key) :
    state.reach serial = some key := by
  obtain ⟨there, alive⟩ := State.of_reach reached
  exact State.reach_of_alive there alive.earlier

theorem State.found_passed {state : State} {description : String} (elapsed : Nat)
    (gone : state.found description = none) : (state.passed elapsed).found description = none := by
  cases found : (state.passed elapsed).found description with
  | none => rfl
  | some pair =>
      obtain ⟨linked, reached⟩ := State.of_found found
      have before : state.ring description = some pair.1 := linked
      rw [State.found_of_reach before (State.reach_passed reached)] at gone
      cases gone

/-- The state with a new key. -/
def State.made (state : State) (index : Nat) (description : String) (bytes : Library.Bytes)
    (serial : Nat) : State :=
  { state.store serial ⟨description, ⟨bytes, index⟩, none, none⟩ with
    ring := Function.update state.ring description (some serial)
    added := Function.update state.added index (some (state.boot, serial)) }

theorem State.made_keys (state : State) (index : Nat) (description : String) (bytes : Library.Bytes)
    (serial : Nat) (boot : String) (other : Nat) :
    (state.made index description bytes serial).keys boot other =
      if boot = state.boot ∧ other = serial then some ⟨description, ⟨bytes, index⟩, none, none⟩
      else state.keys boot other := by
  show Function.update state.keys state.boot _ boot other = _
  by_cases here : boot = state.boot
  · by_cases same : other = serial
    · rw [if_pos ⟨here, same⟩, here, same, Function.update_self, Function.update_self]
    · have apart : ¬(boot = state.boot ∧ other = serial) := fun both => same both.2
      rw [if_neg apart, here, Function.update_self, Function.update_of_ne same]
  · have apart : ¬(boot = state.boot ∧ other = serial) := fun both => here both.1
    rw [if_neg apart, Function.update_of_ne here]

section Adding

variable {calls : Nat → Call} {index : Nat} {state : State} {username : String} {nativeUid : Int}
  {bytes : Library.Bytes} {serial : Nat}

theorem Inv.made (inv : Inv calls state) (own : calls index = .prepare username nativeUid bytes)
    (unplaced : state.added index = none) (unused : state.keys state.boot serial = none) :
    Inv calls (state.made index (describe state.boot username) bytes serial) := by
  have old : ∀ boot other key,
      (state.made index (describe state.boot username) bytes serial).keys boot other = some key →
      (boot = state.boot ∧ other = serial ∧
        key = ⟨describe state.boot username, ⟨bytes, index⟩, none, none⟩) ∨
      state.keys boot other = some key := by
    intro boot other key there
    rw [State.made_keys] at there
    split at there
    · cases there
      exact Or.inl ⟨‹_ ∧ _›.1, ‹_ ∧ _›.2, rfl⟩
    · exact Or.inr there
  have kept : ∀ boot other key, state.keys boot other = some key →
      (state.made index (describe state.boot username) bytes serial).keys boot other =
        some key := by
    intro boot other key there
    have apart : ¬(boot = state.boot ∧ other = serial) := by
      intro both
      rw [both.1, both.2, unused] at there
      cases there
    rw [State.made_keys, if_neg apart]
    exact there
  constructor
  · exact inv.current
  · intro boot other key there
    rcases old boot other key there with ⟨here, _, _⟩ | before
    · rw [here]
      exact inv.current
    · exact inv.known boot other key before
  · intro boot other key there
    show Function.update state.added index _ key.payload.origin = _
    rcases old boot other key there with ⟨here, same, new⟩ | before
    · rw [new, here, same, Function.update_self]
    · have place := inv.placed boot other key before
      have apart : key.payload.origin ≠ index := by
        intro same
        rw [same, unplaced] at place
        cases place
      rw [Function.update_of_ne apart]
      exact place
  · intro boot other key there
    rcases old boot other key there with ⟨here, same, new⟩ | before
    · refine ⟨username, nativeUid, ?_, ?_⟩
      · rw [new]
        exact own
      · rw [new, here]
    · exact inv.owned boot other key before
  · intro description other link
    by_cases same : description = describe state.boot username
    · have newest : (state.made index (describe state.boot username) bytes serial).ring
          description = some serial := by
        rw [same]
        exact Function.update_self _ _ _
      rw [newest] at link
      cases link
      refine ⟨⟨describe state.boot username, ⟨bytes, index⟩, none, none⟩, ?_, same.symm⟩
      rw [State.made_keys]
      exact if_pos ⟨rfl, rfl⟩
    · have before : state.ring description = some other := by
        rw [← link]
        exact (Function.update_of_ne same _ _).symm
      obtain ⟨key, there, named⟩ := inv.linked description other before
      exact ⟨key, kept state.boot other key there, named⟩
  · intro boot other key revocation there revoked
    rcases old boot other key there with ⟨here, same, new⟩ | before
    · rw [new] at revoked
      cases revoked
    · exact inv.timely boot other key revocation before revoked
  · intro inode metadata text
    obtain ⟨key, there, limited, prepared⟩ := inv.told inode metadata text
    exact ⟨key, kept _ _ key there, limited, prepared⟩

theorem Does.made (own : calls index = .prepare username nativeUid bytes)
    (unplaced : state.added index = none) (unused : state.keys state.boot serial = none) :
    Does calls index state (state.made index (describe state.boot username) bytes serial) := by
  constructor
  · constructor
    · rfl
    · rfl
    · exact Nat.le_refl _
    · intro boot other key there
      refine ⟨key, ?_, Key.Ages.refl key⟩
      have apart : ¬(boot = state.boot ∧ other = serial) := by
        intro both
        rw [both.1, both.2, unused] at there
        cases there
      rw [State.made_keys, if_neg apart]
      exact there
    · intro other place there
      have apart : other ≠ index := by
        intro same
        rw [same, unplaced] at there
        cases there
      show Function.update state.added index _ other = _
      rw [Function.update_of_ne apart]
      exact there
  · intro other apart
    exact Function.update_of_ne apart _ _
  · intro inv
    exact inv.made own unplaced unused

/-- What add_key gives is a key with the input of this call. -/
structure Adds (index : Nat) (bytes : Library.Bytes) (before : State) (answer : Option Nat)
    (after : State) : Prop where
  boot : after.boot = before.boot
  key : ∀ serial, answer = some serial →
    ∃ key, after.keys before.boot serial = some key ∧ key.payload = ⟨bytes, index⟩

theorem Does.trans {first second third : State} (front : Quiet calls first second)
    (back : Does calls index second third) : Does calls index first third where
  grown := front.grown.trans back.grown
  theirs := fun other apart => by rw [back.theirs other apart, front.added]
  inv := fun inv => back.inv (front.inv inv)

theorem perform_addKey (own : calls index = .prepare username nativeUid bytes)
    (unplaced : state.added index = none)
    (anew : state.found (describe state.boot username) = none) (fault : Fault) :
    Does calls index state
        (perform index (.addKey (describe state.boot username) bytes) fault state).2 ∧
      Adds index bytes state
        (perform index (.addKey (describe state.boot username) bytes) fault state).1
        (perform index (.addKey (describe state.boot username) bytes) fault state).2 := by
  have passed := Quiet.passed calls state fault.elapsed
  unfold perform
  split
  · refine ⟨passed.does index, rfl, ?_⟩
    intro serial answer
    cases answer
  · have gone := State.found_passed fault.elapsed anew
    simp only [react, State.add, gone]
    cases used : (state.passed fault.elapsed).keys (state.passed fault.elapsed).boot
        fault.serial with
    | some other =>
        simp only []
        refine ⟨passed.does index, rfl, ?_⟩
        intro serial answer
        cases answer
    | none =>
        simp only []
        constructor
        · apply Does.trans passed
          exact Does.made own unplaced used
        · refine ⟨rfl, ?_⟩
          intro serial answer
          cases answer
          refine ⟨⟨describe state.boot username, ⟨bytes, index⟩, none, none⟩, ?_, rfl⟩
          exact State.store_keys (state.passed fault.elapsed) fault.serial _

/-- A text is written about a key that is there. -/
theorem perform_write {inode : Nat} {metadata : Metadata}
    (told : ∃ key, state.keys metadata.bootId metadata.keySerial = some key ∧
      key.expiry ≠ none ∧ Prepared calls key.payload metadata.username metadata.nativeUid)
    (fault : Fault) :
    Quiet calls state (perform index (.write inode metadata) fault state).2 := by
  have passed := Quiet.passed calls state fault.elapsed
  unfold perform
  split
  · exact passed
  · simp only [react]
    split
    · exact passed
    · apply passed.trans
      constructor
      · exact ⟨rfl, rfl, Nat.le_refl _, fun _ _ key there => ⟨key, there, Key.Ages.refl key⟩,
          fun _ _ => id⟩
      · rfl
      · intro inv
        constructor
        · exact inv.current
        · exact inv.known
        · exact inv.placed
        · exact inv.owned
        · exact inv.linked
        · exact inv.timely
        · intro other text there
          by_cases same : other = inode
          · have new : (Function.update (state.passed fault.elapsed).inodes inode (some metadata))
                other = some text := there
            rw [same, Function.update_self] at new
            cases new
            exact told
          · have old : (Function.update (state.passed fault.elapsed).inodes inode (some metadata))
                other = some text := there
            rw [Function.update_of_ne same] at old
            exact inv.told other text old

end Adding

/-! ### What comes back -/

/-- The payload came to this consume alone: it lay under one key, which this
call revoked in time, and it was prepared for the same account. -/
def Spent (calls : Nat → Call) (index : Nat) (payload : Payload) (state : State) : Prop :=
  ∃ username nativeUid boot serial key revocation expiry,
    calls index = .consume username nativeUid ∧ Prepared calls payload username nativeUid ∧
    state.added payload.origin = some (boot, serial) ∧
    state.keys boot serial = some key ∧ key.revoked = some revocation ∧
    revocation.thread = index ∧ revocation.boot = boot ∧
    key.expiry = some expiry ∧ revocation.clock < expiry

def Returned (calls : Nat → Call) (index : Nat) : Result → State → Prop
  | .consumed payload, state => Spent calls index payload state
  | _, _ => True

theorem Spent.grown {calls : Nat → Call} {index : Nat} {payload : Payload} {before after : State}
    (spent : Spent calls index payload before) (grown : Grown before after) :
    Spent calls index payload after := by
  obtain ⟨username, nativeUid, boot, serial, key, revocation, expiry, own, prepared, place, there,
    revoked, rest⟩ := spent
  obtain ⟨aged, still, ages⟩ := grown.keys boot serial key there
  rw [ages.revoked revocation revoked] at still
  exact ⟨username, nativeUid, boot, serial, key, revocation, expiry, own, prepared,
    grown.added _ _ place, still, revoked, rest⟩

/-- What a thread has of a key: it is there, with this payload. -/
def Holds (payload : Payload) (serial : Nat) (state : State) : Prop :=
  ∃ key, state.keys state.boot serial = some key ∧ key.payload = payload

/-- The key expires. -/
def Limited (payload : Payload) (serial : Nat) (state : State) : Prop :=
  ∃ key, state.keys state.boot serial = some key ∧ key.payload = payload ∧ key.expiry ≠ none

theorem Holds.grown {payload : Payload} {serial : Nat} {before after : State}
    (holds : Holds payload serial before) (grown : Grown before after) :
    Holds payload serial after := by
  obtain ⟨key, there, same⟩ := holds
  obtain ⟨aged, still, ages⟩ := grown.keys before.boot serial key there
  rw [← grown.boot] at still
  exact ⟨aged, still, ages.payload.trans same⟩

theorem Limited.grown {payload : Payload} {serial : Nat} {before after : State}
    (limited : Limited payload serial before) (grown : Grown before after) :
    Limited payload serial after := by
  obtain ⟨key, there, same, expires⟩ := limited
  obtain ⟨aged, still, ages⟩ := grown.keys before.boot serial key there
  rw [← grown.boot] at still
  exact ⟨aged, still, ages.payload.trans same, ages.expiry expires⟩

/-! ### One thread among the others -/

section Threads

variable {calls : Nat → Call} {index : Nat} {exited : Nat → State → Prop}
  (leaves : ∀ status state, exited status state)

/-- What a script does among the others. -/
abbrev Goes (calls : Nat → Call) (index : Nat) (exited : Nat → State → Prop) {α : Type}
    (script : Script α) (returned : α → State → Prop) (state : State) : Prop :=
  rg crew AddsAnew index (Moved calls index) (Does calls index) exited script returned state

theorem goes_act {α : Type} {operation : Op} {next : Answer operation → Script α}
    {returned : α → State → Prop} {state : State} (quiet : operation.adds = false)
    (behind : ∀ fault later, Moved calls index (perform index operation fault state).2 later →
      Moved calls index state later →
      Goes calls index exited (next (perform index operation fault state).1) returned later) :
    Goes calls index exited (.act operation next) returned state := by
  intro _ fault
  have still := perform_quiet calls index fault state quiet
  refine ⟨still.does index, fun later moved => ?_⟩
  exact behind fault later moved ((still.moved index).trans moved)

theorem goes_write {β : Type} {next : Bool → Script β} {returned : β → State → Prop}
    {state : State} {inode : Nat} {metadata : Metadata}
    (told : ∃ key, state.keys metadata.bootId metadata.keySerial = some key ∧
      key.expiry ≠ none ∧ Prepared calls key.payload metadata.username metadata.nativeUid)
    (behind : ∀ written later, Goes calls index exited (next written) returned later) :
    Goes calls index exited ((write inode metadata).bind next) returned state := by
  intro _ fault
  have quiet : Quiet calls state (perform index (.write inode metadata) fault state).2 :=
    perform_write told fault
  exact ⟨quiet.does index, fun later _ => behind _ later⟩

/-- A script of calls that add nothing. -/
def Calm {α : Type} (script : Script α) : Prop :=
  script.Only (fun operation => operation.adds = false) (fun _ => True)

theorem calm_call {operation : Op} (quiet : operation.adds = false) :
    Calm (.act operation .done : Script (Answer operation)) := ⟨quiet, fun _ => trivial⟩

theorem calm_raise {α : Type} : Calm (raise : Script α) := trivial

theorem calm_seq {α β : Type} {first : Script α} {next : α → Script β} (front : Calm first)
    (back : ∀ value, Calm (next value)) : Calm (first.bind next) := Prog.only_bind front back

theorem calm_must {call : Script Bool} (calm : Calm call) : Calm (must call) := by
  apply calm_seq calm
  intro worked
  cases worked
  · exact calm_raise
  · exact trivial

theorem calm_get {α : Type} {call : Script (Option α)} (calm : Calm call) : Calm (get call) := by
  apply calm_seq calm
  intro answer
  cases answer
  · exact calm_raise
  · exact trivial

theorem calm_context (username : String) : Calm (context username) := by
  unfold context
  split
  · exact calm_must (calm_call rfl)
  · exact calm_raise

theorem calm_absent (username : String) : Calm (absent username) := by
  apply calm_seq (calm_get (calm_call rfl))
  intro there
  cases there
  · exact trivial
  · exact calm_raise

theorem calm_clearStale (stale : Option Nat) : Calm (clearStale stale) := by
  cases stale with
  | none => exact trivial
  | some serial =>
      apply calm_seq (calm_must (calm_call rfl))
      intro _
      exact calm_must (calm_call rfl)

theorem calm_undo (serial status : Nat) : Calm (undo serial status) := by
  apply calm_seq (calm_call rfl)
  intro _
  apply calm_seq (calm_call rfl)
  intro _
  trivial

include leaves

theorem goes_calm {α : Type} {script : Script α} {returned : α → State → Prop} {state : State}
    (calm : Calm script)
    (behind : ∀ value later, Moved calls index state later → returned value later) :
    Goes calls index exited script returned state := by
  have steady : Goes calls index exited script
      (fun _ later => Moved calls index state later) state := by
    apply rg_of_only calm
    · intro operation quiet fault later _ (moved : Moved calls index state later)
      have still := perform_quiet calls index fault later quiet
      exact ⟨still.does index, moved.trans (still.moved index)⟩
    · intro first second moved more
      exact moved.trans more
    · intro status _ later _
      exact leaves status later
    · intro value later moved
      exact moved
    · exact Moved.refl calls index state
  exact rg_returned steady behind

theorem goes_calm_seq {α β : Type} {script : Script α} {next : α → Script β}
    {returned : β → State → Prop} {state : State} (calm : Calm script)
    (behind : ∀ value later, Moved calls index state later →
      Goes calls index exited (next value) returned later) :
    Goes calls index exited (script.bind next) returned state := by
  apply rg_seq
  exact goes_calm leaves calm behind

/-! ### Calls whose answer counts -/

section Answers

variable {β : Type} {returned : β → State → Prop} {state : State} {serial : Nat}
  {payload : Payload}

theorem goes_bootId {next : String → Script β}
    (behind : ∀ later, Moved calls index state later →
      Goes calls index exited (next state.boot) returned later) :
    Goes calls index exited ((get bootId).bind next) returned state := by
  apply goes_act
  · rfl
  · intro fault later _ moved
    unfold perform
    split
    · exact leaves 1 later
    · exact behind later moved

theorem goes_load {inode : Nat} {next : Metadata → Script β} (inv : Inv calls state)
    (behind : ∀ metadata later, Moved calls index state later →
      (∃ key, later.keys metadata.bootId metadata.keySerial = some key ∧ key.expiry ≠ none ∧
        Prepared calls key.payload metadata.username metadata.nativeUid) →
      Goes calls index exited (next metadata) returned later) :
    Goes calls index exited ((get (load inode)).bind next) returned state := by
  apply goes_act
  · rfl
  · intro fault later _ moved
    unfold perform
    split
    · exact leaves 1 later
    · cases text : state.inodes inode with
      | none =>
          have nothing : (state.passed fault.elapsed).inodes inode = none := text
          simp only [react, nothing]
          exact leaves 1 later
      | some metadata =>
          have there : (state.passed fault.elapsed).inodes inode = some metadata := text
          simp only [react, there]
          apply behind metadata later moved
          obtain ⟨key, here, limited, prepared⟩ := inv.told inode metadata text
          obtain ⟨aged, still, ages⟩ := moved.grown.keys _ _ key here
          refine ⟨aged, still, ages.expiry limited, ?_⟩
          rw [ages.payload]
          exact prepared

/-- keyctl_set_timeout worked: the key expires. -/
theorem goes_setTimeout {next : Unit → Script β} (holds : Holds payload serial state)
    (behind : ∀ later, Moved calls index state later → Limited payload serial later →
      Goes calls index exited (next ()) returned later) :
    Goes calls index exited ((must (setTimeout serial)).bind next) returned state := by
  apply goes_act
  · rfl
  · intro fault later after moved
    unfold perform at after ⊢
    split at after
    · rename_i fails
      rw [if_pos fails]
      exact leaves 1 later
    · rename_i works
      rw [if_neg works]
      cases reached : (state.passed fault.elapsed).reach serial with
      | none =>
          simp only [react, reached]
          exact leaves 1 later
      | some key =>
          simp only [react, reached] at after ⊢
          apply behind later moved
          obtain ⟨there, alive⟩ := State.of_reach reached
          obtain ⟨same, here, own⟩ := holds
          have one : same = key := Option.some.inj (here.symm.trans there)
          have timed : Limited payload serial ((state.passed fault.elapsed).store serial
              { key with expiry := some ((state.passed fault.elapsed).clock + lifetime) }) := by
            refine ⟨_, State.store_keys _ serial _, ?_, Option.some_ne_none _⟩
            rw [one] at own
            exact own
          exact timed.grown after.grown

/-- The payload that is read is the one the thread knows the key to have. -/
theorem goes_readKey {next : Payload → Script β} (limited : Limited payload serial state)
    (behind : ∀ later, Moved calls index state later →
      Goes calls index exited (next payload) returned later) :
    Goes calls index exited ((get (readKey serial)).bind next) returned state := by
  apply goes_act
  · rfl
  · intro fault later _ moved
    unfold perform
    split
    · exact leaves 1 later
    · cases reached : (state.passed fault.elapsed).reach serial with
      | none =>
          simp only [react, reached, Option.map_none]
          exact leaves 1 later
      | some key =>
          simp only [react, reached, Option.map_some]
          obtain ⟨there, alive⟩ := State.of_reach reached
          obtain ⟨same, here, own, _⟩ := limited
          have one : same = key := Option.some.inj (here.symm.trans there)
          rw [one] at own
          rw [own]
          exact behind later moved

/-- keyctl_revoke worked: the key was alive, and this call revoked it. -/
theorem goes_revoke {next : Unit → Script β} (limited : Limited payload serial state)
    (behind : ∀ later, Moved calls index state later →
      (∃ key revocation expiry, later.keys state.boot serial = some key ∧
        key.payload = payload ∧ key.revoked = some revocation ∧ revocation.thread = index ∧
        revocation.boot = state.boot ∧ key.expiry = some expiry ∧ revocation.clock < expiry) →
      Goes calls index exited (next ()) returned later) :
    Goes calls index exited ((must (revoke serial)).bind next) returned state := by
  apply goes_act
  · rfl
  · intro fault later after moved
    unfold perform at after ⊢
    split at after
    · rename_i fails
      rw [if_pos fails]
      exact leaves 1 later
    · rename_i works
      rw [if_neg works]
      cases reached : (state.passed fault.elapsed).reach serial with
      | none =>
          simp only [react, reached]
          exact leaves 1 later
      | some key =>
          simp only [react, reached] at after ⊢
          apply behind later moved
          obtain ⟨there, alive⟩ := State.of_reach reached
          obtain ⟨same, here, own, limits⟩ := limited
          have one : same = key := Option.some.inj (here.symm.trans there)
          rw [one] at own limits
          obtain ⟨expiry, expires⟩ := Option.ne_none_iff_exists'.mp limits
          obtain ⟨aged, still, ages⟩ := after.grown.keys _ _ _
            (State.store_keys (state.passed fault.elapsed) serial _)
          rw [ages.revoked _ rfl] at still
          exact ⟨_, _, expiry, still, own, rfl, rfl, rfl, expires, alive.2 expiry expires⟩

end Answers

/-! ### The three calls -/

theorem goes_addKey {β : Type} {next : Nat → Script β} {returned : β → State → Prop}
    {state : State} {username : String} {nativeUid : Int} {input : Library.Bytes}
    (own : calls index = .prepare username nativeUid input) (unplaced : state.added index = none)
    (behind : ∀ serial later, later.boot = state.boot → Holds ⟨input, index⟩ serial later →
      Goes calls index exited (next serial) returned later) :
    Goes calls index exited ((get (addKey (describe state.boot username) input)).bind next)
      returned state := by
  intro anew fault
  obtain ⟨does, adds⟩ := perform_addKey own unplaced anew fault
  refine ⟨does, fun later moved => ?_⟩
  cases answer : (perform index (.addKey (describe state.boot username) input) fault state).1 with
  | none =>
      rw [show (crew.perform index _ fault state).1 = none from answer]
      exact leaves 1 later
  | some serial =>
      rw [show (crew.perform index _ fault state).1 = some serial from answer]
      apply behind serial later (moved.grown.boot.trans adds.boot)
      obtain ⟨key, there, same⟩ := adds.key serial answer
      have holds : Holds ⟨input, index⟩ serial
          (perform index (.addKey (describe state.boot username) input) fault state).2 := by
        refine ⟨key, ?_, same⟩
        rw [adds.boot]
        exact there
      exact holds.grown moved.grown

theorem goes_publish {state : State} {username : String} {nativeUid : Int} {input : Library.Bytes}
    {serial : Nat} (own : calls index = .prepare username nativeUid input)
    (holds : Holds ⟨input, index⟩ serial state) :
    Goes calls index exited (publish username nativeUid input state.boot serial)
      (fun _ _ => True) state := by
  apply goes_calm_seq leaves (calm_must (calm_call rfl))
  intro _ permitted moved
  apply goes_setTimeout leaves (holds.grown moved.grown)
  intro timed movedOn limited
  apply goes_readKey leaves limited
  intro readBack moving
  simp only [if_true]
  apply goes_calm_seq leaves (calm_call rfl)
  intro clock later last
  apply goes_calm_seq leaves (calm_get (calm_call rfl))
  intro inode created moves
  have all := ((moved.trans movedOn).trans moving).trans (last.trans moves)
  have still := ((limited.grown moving.grown).grown last.grown).grown moves.grown
  apply goes_write
  · obtain ⟨key, there, same, limits⟩ := still
    rw [all.grown.boot] at there
    refine ⟨key, there, limits, ?_⟩
    rw [same]
    exact own
  · intro written final
    apply goes_calm leaves
    · apply calm_seq (calm_call rfl)
      intro closed
      cases written <;> cases closed <;> exact trivial
    · intro _ _ _
      trivial

theorem goes_addInput {state : State} {username : String} {nativeUid : Int} {input : Library.Bytes}
    (own : calls index = .prepare username nativeUid input)
    (unplaced : state.added index = none) :
    Goes calls index exited (addInput username input)
      (fun value later => value.1 = later.boot ∧ Holds ⟨input, index⟩ value.2 later) state := by
  apply goes_calm_seq leaves (calm_must (calm_call rfl))
  intro _ first one
  apply goes_calm_seq leaves (calm_must (calm_call rfl))
  intro _ second two
  apply goes_bootId leaves
  intro third three
  split
  · apply goes_calm_seq leaves (calm_call rfl)
    intro stale fourth four
    apply goes_calm_seq leaves (calm_clearStale stale)
    intro _ fifth five
    have all := ((one.trans two).trans three).trans (four.trans five)
    have boot : second.boot = fifth.boot :=
      ((three.grown.trans four.grown).trans five.grown).boot.symm
    rw [boot]
    apply goes_addKey leaves own (all.mine.trans unplaced)
    intro serial last same holds
    exact ⟨same.symm, holds⟩
  · exact leaves 1 third

theorem goes_prepare {state : State} {username : String} {nativeUid : Int} {input : Library.Bytes}
    (own : calls index = .prepare username nativeUid input)
    (unplaced : state.added index = none) :
    Goes calls index exited (prepare username nativeUid input) (Returned calls index) state := by
  apply goes_calm_seq leaves (calm_context username)
  intro _ first one
  apply goes_calm_seq leaves (calm_absent username)
  intro _ second two
  apply goes_calm_seq leaves (calm_must (calm_call rfl))
  intro _ third three
  have all := (one.trans two).trans three
  apply rg_seq
  apply rg_returned (goes_addInput leaves own (all.mine.trans unplaced))
  rintro ⟨boot, serial⟩ fourth ⟨same, holds⟩
  apply rg_seq
  rw [show boot = fourth.boot from same, rg_onExit]
  apply rg_returned (goes_publish _ own holds)
  · intro _ later _
    trivial
  · intro status later
    apply goes_calm leaves (calm_undo serial status)
    intro _ last _
    trivial

theorem goes_redeem {state : State} {username : String} {nativeUid : Int} {payload : Payload}
    {serial : Nat} (own : calls index = .consume username nativeUid)
    (prepared : Prepared calls payload username nativeUid) (inv : Inv calls state)
    (limited : Limited payload serial state) :
    Goes calls index exited (redeem username serial) (Returned calls index) state := by
  apply goes_readKey leaves limited
  intro first one
  apply goes_calm_seq leaves (calm_must (calm_call rfl))
  intro _ second two
  have moved := one.trans two
  apply goes_revoke leaves (limited.grown moved.grown)
  intro third three ⟨key, revocation, expiry, there, same, revoked, mine, here, expires, timely⟩
  have place := (three.inv (moved.inv inv)).placed second.boot serial key there
  have spent : Spent calls index payload third := by
    rw [same] at place
    exact ⟨username, nativeUid, second.boot, serial, key, revocation, expiry, own, prepared, place,
      there, revoked, mine, here, expires, timely⟩
  apply goes_calm_seq leaves (calm_call rfl)
  intro _ fourth four
  apply goes_calm_seq leaves (calm_must (calm_call rfl))
  intro _ fifth five
  exact spent.grown (four.grown.trans five.grown)

theorem goes_consume {state : State} {username : String} {nativeUid : Int}
    (own : calls index = .consume username nativeUid) (inv : Inv calls state) :
    Goes calls index exited (consume username nativeUid) (Returned calls index) state := by
  apply goes_calm_seq leaves (calm_context username)
  intro _ first one
  apply goes_calm_seq leaves (calm_get (calm_call rfl))
  intro inode second two
  apply goes_load leaves ((one.trans two).inv inv)
  intro metadata third three told
  apply goes_bootId leaves
  intro fourth four
  split
  · rename_i belongs
    apply goes_calm_seq leaves (calm_call rfl)
    intro clock fifth five
    split
    · exact leaves 1 fifth
    · apply goes_calm_seq leaves (calm_must (calm_call rfl))
      intro _ sixth six
      have all := (four.trans five).trans six
      unfold Metadata.belongs at belongs
      simp only [Bool.and_eq_true, decide_eq_true_eq] at belongs
      obtain ⟨⟨⟨_, user⟩, uid⟩, boot⟩ := belongs
      obtain ⟨key, there, expires, prepared⟩ := told
      rw [boot] at there
      rw [user, uid] at prepared
      have limited : Limited key.payload metadata.keySerial third :=
        ⟨key, there, rfl, expires⟩
      exact goes_redeem leaves own prepared
        ((((one.trans two).trans three).trans all).inv inv) (limited.grown all.grown)
  · exact leaves 1 fourth

theorem goes_discard {state : State} (username : String) :
    Goes calls index exited (discard username) (Returned calls index) state := by
  apply goes_calm_seq leaves (calm_get (calm_call rfl))
  intro there _ _
  cases there with
  | false => trivial
  | true =>
      apply goes_calm_seq leaves (calm_context username)
      intro _ _ _
      apply goes_calm_seq leaves (calm_get (calm_call rfl))
      intro still _ _
      cases still with
      | false => trivial
      | true =>
          apply goes_calm_seq leaves (calm_get (calm_call rfl))
          intro inode _ _
          apply goes_calm_seq leaves (calm_get (calm_call rfl))
          intro metadata _ _
          apply goes_calm_seq leaves (calm_call rfl)
          intro _ _ _
          apply goes_calm_seq leaves (calm_call rfl)
          intro _ _ _
          apply goes_calm_seq leaves (calm_must (calm_call rfl))
          intro _ _ _
          trivial

end Threads

/-! ### Every run -/

/-- A boot in which nothing was prepared yet. -/
def State.booted (boot : String) (clock : Nat) : State where
  boot := boot
  boots := [boot]
  clock := clock
  keys := fun _ _ => none
  ring := fun _ => none
  files := fun _ => none
  inodes := fun _ => none
  nextInode := 0
  added := fun _ => none

theorem Inv.booted (calls : Nat → Call) (boot : String) (clock : Nat) :
    Inv calls (State.booted boot clock) := by
  constructor
  · exact List.mem_singleton_self boot
  · intro _ _ _ there
    cases there
  · intro _ _ _ there
    cases there
  · intro _ _ _ there
    cases there
  · intro _ _ there
    cases there
  · intro _ _ _ _ there
    cases there
  · intro _ _ there
    cases there

/-- A reboot loses the links and starts under a new boot ID. -/
theorem Inv.rebooted {calls : Nat → Call} {before after : State} (inv : Inv calls before)
    (lost : Rebooted before after) : Inv calls after := by
  constructor
  · rw [lost.boots]
    exact List.mem_cons_self
  · intro boot serial key there
    rw [lost.keys] at there
    rw [lost.boots]
    exact List.mem_cons_of_mem _ (inv.known boot serial key there)
  · intro boot serial key there
    rw [lost.keys] at there
    rw [lost.added]
    exact inv.placed boot serial key there
  · intro boot serial key there
    rw [lost.keys] at there
    exact inv.owned boot serial key there
  · intro description serial link
    rw [lost.ring description] at link
    cases link
  · intro boot serial key revocation there
    rw [lost.keys] at there
    exact inv.timely boot serial key revocation there
  · intro inode metadata text
    rw [lost.inodes] at text
    rw [lost.keys]
    exact inv.told inode metadata text

theorem Spent.rebooted {calls : Nat → Call} {index : Nat} {payload : Payload}
    {before after : State} (spent : Spent calls index payload before)
    (lost : Rebooted before after) : Spent calls index payload after := by
  unfold Spent at spent ⊢
  rw [lost.keys, lost.added]
  exact spent

theorem Returned.grown {calls : Nat → Call} {index : Nat} {result : Result}
    {before after : State} (returned : Returned calls index result before)
    (grown : Grown before after) : Returned calls index result after := by
  cases result with
  | consumed payload => exact Spent.grown returned grown
  | prepared => trivial
  | discarded => trivial

theorem fits (calls : Nat → Call) :
    Fits crew (Moved calls) (Does calls) (fun _ _ _ => True) (Returned calls) (Inv calls)
      (fun index state => state.added index = none) where
  stutter := Moved.refl calls
  chain := fun _ _ _ _ => Moved.trans
  others := fun index other before after apart _ does =>
    ⟨does.grown, does.theirs other apart, does.inv⟩
  kept := fun _ _ _ does inv => does.inv inv
  relied := fun _ _ _ moved inv => moved.inv inv
  death := fun _ state inv => ⟨inv, fun other _ => Moved.refl calls other state⟩
  crash := fun _ _ lost inv => inv.rebooted lost
  unbegunLasts := fun _ _ _ unplaced moved => moved.mine.trans unplaced
  unbegunSurvives := fun index _ _ unplaced lost => (congrFun lost.added index).trans unplaced
  returnedLasts := fun _ _ _ _ returned moved => Returned.grown returned moved.grown
  exitedLasts := fun _ _ _ _ _ _ => trivial
  returnedSurvives := by
    intro index result before after returned lost
    cases result with
    | consumed payload => exact Spent.rebooted returned lost
    | prepared => trivial
    | discarded => trivial
  exitedSurvives := fun _ _ _ _ _ _ => trivial

theorem call_goes (calls : Nat → Call) (index : Nat) (state : State) (inv : Inv calls state)
    (unplaced : state.added index = none) :
    Goes calls index (fun _ _ => True) (calls index).script (Returned calls index) state := by
  have leaves : ∀ (status : Nat) (state : State), True := fun _ _ => trivial
  cases own : calls index with
  | prepare username nativeUid input => exact goes_prepare leaves own unplaced
  | consume username nativeUid => exact goes_consume leaves own inv
  | discard username => exact goes_discard leaves username

/-- In a run in which add_key never finds a living key under its description,
what a consume returns was prepared for the same account in the same boot, came
out before its key expired, and comes out of no other call. -/
theorem spent_once (calls : Nat → Call) (boot : String) (clock : Nat)
    {pool : Pool Answer Result State}
    (run : Runs crew AddsAnew (fun index => (calls index).script)
      (Pool.start (State.booted boot clock)) pool)
    {index : Nat} {payload : Payload}
    (ended : pool.thread index = .running (.done (.consumed payload))) :
    Spent calls index payload pool.state ∧
    ∀ other again, pool.thread other = .running (.done (.consumed again)) →
      again.origin = payload.origin → other = index := by
  obtain ⟨_, returned, _⟩ := pool_sound (fits calls) (call_goes calls) run
    (Inv.booted calls boot clock) (fun _ => rfl)
  have spent : Spent calls index payload pool.state := returned index _ ended
  refine ⟨spent, fun other again finished same => ?_⟩
  have too : Spent calls other again pool.state := returned other _ finished
  obtain ⟨_, _, boot, serial, key, revocation, _, _, _, place, there, revoked, mine, _⟩ := spent
  obtain ⟨_, _, boot', serial', key', revocation', _, _, _, place', there', revoked', mine', _⟩ :=
    too
  rw [same, place] at place'
  cases place'
  rw [there] at there'
  cases there'
  rw [revoked] at revoked'
  cases revoked'
  exact mine'.symm.trans mine

/-! ### Two runs -/

instance (index : Nat) (operation : Op) (state : State) :
    Decidable (AddsAnew index operation state) :=
  match operation with
  | .addKey description _ => inferInstanceAs (Decidable (state.found description = none))
  | .context | .present _ | .mlock | .lseek | .read | .bootId | .search _ | .revoke _ | .unlink _
  | .setperm _ | .setTimeout _ | .readKey _ | .now | .create _ | .write _ _ | .close _
  | .privateFile _ | .load _ | .memfd | .remove _ => .isTrue trivial

/-- Every call works, and a thread's key has a serial number of its own. -/
def works (index : Nat) (_ : Op) (_ : State) : Fault where
  fails := false
  elapsed := 0
  serial := index + 1
  short := false

/-- One preparation and one use. -/
def single : Nat → Call
  | 0 => .prepare "alice" 7 (List.replicate 32 5)
  | _ => .consume "alice" 7

theorem single_spent :
    Spent single 1 ⟨List.replicate 32 5, 0⟩
      (playPool crew AddsAnew (fun index => (single index).script) works
        (List.replicate 16 0 ++ List.replicate 12 1)
        (Pool.start (State.booted "9d1f" 1000))).state :=
  (spent_once single "9d1f" 1000
    (playPool_runs crew AddsAnew (fun index => (single index).script) works
      (List.replicate 16 0 ++ List.replicate 12 1) (Pool.start (State.booted "9d1f" 1000)))
    (Thread.of_returned (by decide +kernel))).1

/-- Three preparations, two discards and a use for one account name. -/
def crowd : Nat → Call
  | 0 => .prepare "alice" 1 (List.replicate 32 1)
  | 1 => .discard "alice"
  | 2 => .discard "alice"
  | 3 => .prepare "alice" 3 (List.replicate 32 3)
  | 4 => .prepare "alice" 2 (List.replicate 32 2)
  | _ => .consume "alice" 2

/-- The first discard stops before it removes the file, the third preparation
after its search, and the use before it reads the key. -/
def crowdSchedule : List Nat :=
  List.replicate 16 0 ++ List.replicate 8 1 ++ List.replicate 9 2 ++ List.replicate 8 3 ++
    List.replicate 16 4 ++ List.replicate 7 5 ++ List.replicate 1 1 ++ List.replicate 8 3 ++
    List.replicate 5 5

/-- With no call failing, a use for one native UID gets what was prepared for
another. -/
theorem other_uid_spends :
    ∃ pool, Runs crew (fun _ _ _ => True) (fun index => (crowd index).script)
        (Pool.start (State.booted "9d1f" 1000)) pool ∧
      crowd 3 = .prepare "alice" 3 (List.replicate 32 3) ∧
      pool.thread 3 = .running (.done .prepared) ∧
      crowd 5 = .consume "alice" 2 ∧
      pool.thread 5 = .running (.done (.consumed ⟨List.replicate 32 3, 3⟩)) := by
  have runs := playPool_runs crew (fun _ _ _ => True) (fun index => (crowd index).script) works
    crowdSchedule (Pool.start (State.booted "9d1f" 1000))
  refine ⟨_, runs, rfl, Thread.of_returned ?_, rfl, Thread.of_returned ?_⟩
  · decide +kernel
  · decide +kernel

end Liuqin.Fingerprint.Acceptance
