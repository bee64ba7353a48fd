/-
Prepared acceptance input
(device/fingerprint/oem/src/fingerprint/oem/acceptance_input.py).

The 32 bytes lie in the root user keyring, under a description that names the
boot and the account; a file under /run says which key is whose.  Calls of
prepare, consume and discard share the keyring and the files, and any of their
system calls can fail.

The keys of former boots stay in the model as a record of what became of them;
no system call reaches them.
-/

import Liuqin.Library.Bytes
import Liuqin.Library.Sharing

namespace Liuqin.Fingerprint.Acceptance

open Liuqin.Library Liuqin.Library.Program Liuqin.Library.Sharing

/-- 18 hours. -/
def lifetime : Nat := 18 * 3600

/-! ### The keyring and the files -/

/-- What lies under a key, with the number of the call that put it there. -/
structure Payload where
  bytes : Library.Bytes
  origin : Nat
  deriving DecidableEq, Repr

/-- Which call revoked a key, in which boot and when. -/
structure Revocation where
  thread : Nat
  boot : String
  clock : Nat
  deriving DecidableEq, Repr

structure Key where
  description : String
  payload : Payload
  expiry : Option Nat
  revoked : Option Revocation
  deriving DecidableEq, Repr

/-- The kernel answers for the key: it is neither revoked nor expired. -/
def Key.Alive (key : Key) (clock : Nat) : Prop :=
  key.revoked = none ∧ ∀ expiry ∈ key.expiry, clock < expiry

instance (key : Key) (clock : Nat) : Decidable (key.Alive clock) :=
  inferInstanceAs (Decidable (_ ∧ _))

/-- What the metadata file says. -/
structure Metadata where
  schema : Nat
  username : String
  nativeUid : Int
  bootId : String
  keySerial : Nat
  expires : Nat
  deriving DecidableEq, Repr

/-- `inodes` is none for a file without the whole text, and `added` tells where
a call put its input. -/
structure State where
  boot : String
  boots : List String
  clock : Nat
  keys : String → Nat → Option Key
  ring : String → Option Nat
  files : String → Option Nat
  inodes : Nat → Option Metadata
  nextInode : Nat
  added : Nat → Option (String × Nat)

def State.passed (state : State) (elapsed : Nat) : State :=
  { state with clock := state.clock + elapsed }

/-- The key of a serial number, while the kernel answers for it. -/
def State.reach (state : State) (serial : Nat) : Option Key :=
  match state.keys state.boot serial with
  | none => none
  | some key => if key.Alive state.clock then some key else none

/-- The key that the keyring links under a description. -/
def State.found (state : State) (description : String) : Option (Nat × Key) :=
  match state.ring description with
  | none => none
  | some serial =>
      match state.reach serial with
      | none => none
      | some key => some (serial, key)

def State.store (state : State) (serial : Nat) (key : Key) : State :=
  { state with
    keys := Function.update state.keys state.boot
      (Function.update (state.keys state.boot) serial (some key)) }

section Keyring

variable {state : State} {serial : Nat} {key : Key}

theorem State.reach_of_alive (there : state.keys state.boot serial = some key)
    (alive : key.Alive state.clock) : state.reach serial = some key := by
  unfold State.reach
  rw [there]
  exact if_pos alive

theorem State.of_reach (reached : state.reach serial = some key) :
    state.keys state.boot serial = some key ∧ key.Alive state.clock := by
  unfold State.reach at reached
  split at reached
  · cases reached
  · rename_i other there
    split at reached
    · cases reached
      exact ⟨there, ‹_›⟩
    · cases reached

theorem State.of_found {description : String}
    (found : state.found description = some (serial, key)) :
    state.ring description = some serial ∧ state.reach serial = some key := by
  unfold State.found at found
  split at found
  · cases found
  · rename_i other linked
    split at found
    · cases found
    · rename_i value reached
      cases found
      exact ⟨linked, reached⟩

theorem State.found_of_reach {description : String}
    (linked : state.ring description = some serial) (reached : state.reach serial = some key) :
    state.found description = some (serial, key) := by
  unfold State.found
  rw [linked]
  show (match state.reach serial with
    | none => none
    | some value => some (serial, value)) = some (serial, key)
  rw [reached]

theorem State.store_keys (state : State) (serial : Nat) (key : Key) :
    (state.store serial key).keys state.boot serial = some key := by
  show Function.update state.keys state.boot _ state.boot serial = some key
  rw [Function.update_self, Function.update_self]

theorem State.store_other (state : State) (serial other : Nat) (key : Key)
    (apart : other ≠ serial) :
    (state.store serial key).keys state.boot other = state.keys state.boot other := by
  show Function.update state.keys state.boot
    (Function.update (state.keys state.boot) serial (some key)) state.boot other = _
  rw [Function.update_self, Function.update_of_ne apart]

/-- A key that is revoked is not found. -/
theorem State.found_revoked {description : String}
    (linked : state.ring description = some serial)
    (there : state.keys state.boot serial = some key) (revoked : key.revoked ≠ none) :
    state.found description = none := by
  unfold State.found
  rw [linked]
  show (match state.reach serial with
    | none => none
    | some value => some (serial, value)) = none
  cases reached : state.reach serial with
  | none => rfl
  | some other =>
      obtain ⟨here, alive⟩ := State.of_reach reached
      rw [there] at here
      cases here
      exact absurd alive.1 revoked

theorem State.found_unlinked {description : String} (unlinked : state.ring description = none) :
    state.found description = none := by
  unfold State.found
  rw [unlinked]

end Keyring

/-! ### System calls -/

inductive Op where
  | context
  | present (username : String)
  | mlock
  | lseek
  | read
  | bootId
  | search (description : String)
  | revoke (serial : Nat)
  | unlink (serial : Nat)
  | addKey (description : String) (bytes : Library.Bytes)
  | setperm (serial : Nat)
  | setTimeout (serial : Nat)
  | readKey (serial : Nat)
  | now
  | create (username : String)
  | write (inode : Nat) (metadata : Metadata)
  | close (inode : Nat)
  | privateFile (username : String)
  | load (inode : Nat)
  | memfd
  | remove (username : String)

/-- An answer is false or none where the call fails. -/
@[reducible] def Answer : Op → Type
  | .present _ => Option Bool
  | .bootId => Option String
  | .search _ | .addKey _ _ | .create _ | .privateFile _ => Option Nat
  | .readKey _ => Option Payload
  | .now => Nat
  | .load _ => Option Metadata
  | _ => Bool

/-- How a call goes: whether it fails, how long it took to come, the serial
number of a key it makes, and whether a write stops short. -/
structure Fault where
  fails : Bool
  elapsed : Nat
  serial : Nat
  short : Bool

/-- A call that works at once. -/
def Fault.none : Fault where
  fails := false
  elapsed := 0
  serial := 0
  short := false

/-- add_key gives the key that is already linked a new payload and no expiry,
or makes a key. -/
def State.add (state : State) (index : Nat) (description : String) (bytes : Library.Bytes)
    (serial : Nat) : Option Nat × State :=
  match state.found description with
  | some (linked, key) =>
      (some linked, { state.store linked { key with payload := ⟨bytes, index⟩, expiry := none } with
        added := Function.update state.added index (some (state.boot, linked)) })
  | none =>
      match state.keys state.boot serial with
      | some _ => (none, state)
      | none =>
          (some serial, { state.store serial ⟨description, ⟨bytes, index⟩, none, none⟩ with
            ring := Function.update state.ring description (some serial)
            added := Function.update state.added index (some (state.boot, serial)) })

/-- The call of an index, when it does not fail. -/
def react (index : Nat) (fault : Fault) (state : State) :
    (operation : Op) → Answer operation × State
  | .context | .mlock | .lseek | .read | .memfd | .close _ => (true, state)
  | .present username => (some (state.files username).isSome, state)
  | .bootId => (some state.boot, state)
  | .search description => ((state.found description).map Prod.fst, state)
  | .revoke serial =>
      match state.reach serial with
      | none => (false, state)
      | some key =>
          (true, state.store serial { key with revoked := some ⟨index, state.boot, state.clock⟩ })
  | .unlink serial =>
      match state.keys state.boot serial with
      | none => (false, state)
      | some key =>
          if state.ring key.description = some serial then
            (true, { state with ring := Function.update state.ring key.description none })
          else (false, state)
  | .addKey description bytes => state.add index description bytes fault.serial
  | .setperm serial => ((state.reach serial).isSome, state)
  | .setTimeout serial =>
      match state.reach serial with
      | none => (false, state)
      | some key => (true, state.store serial { key with expiry := some (state.clock + lifetime) })
  | .readKey serial => ((state.reach serial).map Key.payload, state)
  | .now => (state.clock, state)
  | .create username =>
      match state.files username with
      | some _ => (none, state)
      | none =>
          (some state.nextInode, { state with
            files := Function.update state.files username (some state.nextInode)
            inodes := Function.update state.inodes state.nextInode none
            nextInode := state.nextInode + 1 })
  | .write inode metadata =>
      if fault.short then (true, state)
      else (true, { state with inodes := Function.update state.inodes inode (some metadata) })
  | .privateFile username => (state.files username, state)
  | .load inode => (state.inodes inode, state)
  | .remove username =>
      match state.files username with
      | none => (false, state)
      | some _ => (true, { state with files := Function.update state.files username none })

def failed (state : State) : (operation : Op) → Answer operation
  | .present _ => none
  | .bootId => none
  | .search _ | .addKey _ _ | .create _ | .privateFile _ => none
  | .readKey _ => none
  | .now => state.clock
  | .load _ => none
  | .context | .mlock | .lseek | .read | .revoke _ | .unlink _ | .setperm _ | .setTimeout _
  | .write _ _ | .close _ | .memfd | .remove _ => false

def perform (index : Nat) (operation : Op) (fault : Fault) (state : State) :
    Answer operation × State :=
  if fault.fails then (failed (state.passed fault.elapsed) operation, state.passed fault.elapsed)
  else react index fault (state.passed fault.elapsed) operation

/-- Between boots the keyring is forgotten; a file under /run is lost or left. -/
structure Rebooted (before after : State) : Prop where
  fresh : after.boot ∉ before.boots
  boots : after.boots = after.boot :: before.boots
  keys : after.keys = before.keys
  ring : ∀ description, after.ring description = none
  files : ∀ username, after.files username = none ∨ after.files username = before.files username
  inodes : after.inodes = before.inodes
  added : after.added = before.added

def crew : Crew Answer State where
  Fault := fun _ => Fault
  perform := perform
  died := fun _ state => state
  crashed := Rebooted

/-- One call alone, as the first. -/
def machine : Machine Answer State where
  Fault := fun _ => Fault
  perform := perform 0

/-! ### The calls -/

abbrev Script := Prog Answer

def possess : Script Bool := .act .context .done
def present (username : String) : Script (Option Bool) := .act (.present username) .done
def mlock : Script Bool := .act .mlock .done
def lseek : Script Bool := .act .lseek .done
def read : Script Bool := .act .read .done
def bootId : Script (Option String) := .act .bootId .done
def search (description : String) : Script (Option Nat) := .act (.search description) .done
def revoke (serial : Nat) : Script Bool := .act (.revoke serial) .done
def unlink (serial : Nat) : Script Bool := .act (.unlink serial) .done
def addKey (description : String) (bytes : Library.Bytes) : Script (Option Nat) :=
  .act (.addKey description bytes) .done
def setperm (serial : Nat) : Script Bool := .act (.setperm serial) .done
def setTimeout (serial : Nat) : Script Bool := .act (.setTimeout serial) .done
def readKey (serial : Nat) : Script (Option Payload) := .act (.readKey serial) .done
def now : Script Nat := .act .now .done
def create (username : String) : Script (Option Nat) := .act (.create username) .done
def write (inode : Nat) (metadata : Metadata) : Script Bool := .act (.write inode metadata) .done
def close (inode : Nat) : Script Bool := .act (.close inode) .done
def privateFile (username : String) : Script (Option Nat) := .act (.privateFile username) .done
def load (inode : Nat) : Script (Option Metadata) := .act (.load inode) .done
def memfd : Script Bool := .act .memfd .done
def remove (username : String) : Script Bool := .act (.remove username) .done

/-- A raised exception. -/
def raise {α : Type} : Script α := .exit 1

/-- The exception of a call that answers false. -/
def must (call : Script Bool) : Script Unit :=
  call.bind (fun worked => if worked then .done () else raise)

/-- The exception of a call that answers none. -/
def get {α : Type} (call : Script (Option α)) : Script α :=
  call.bind (fun answer => match answer with
    | some value => .done value
    | none => raise)

def inScope (username : String) : Bool :=
  username ≠ "" && !username.toList.contains '/' && username ≠ "." && username ≠ ".."

def context (username : String) : Script Unit :=
  if inScope username then must possess else raise

/-- metadata.exists() -/
def absent (username : String) : Script Unit :=
  (get (present username)).bind (fun there => if there then raise else .done ())

def describe (boot username : String) : String :=
  "liuqin-fpc-acceptance:" ++ boot ++ ":" ++ username

def ascii (text : String) : Bool := text.toList.all (fun char => char.toNat < 128)

/-- An interrupted preparation can leave a key without metadata. -/
def clearStale : Option Nat → Script Unit
  | none => .done ()
  | some stale => (must (revoke stale)).bind (fun _ => must (unlink stale))

/-- The file is closed whether or not the write worked. -/
def writeMetadata (username : String) (metadata : Metadata) : Script Unit :=
  (get (create username)).bind (fun inode =>
    (write inode metadata).bind (fun written =>
      (close inode).bind (fun closed => if written && closed then .done () else raise)))

/-- What prepare does with the key it added. -/
def publish (username : String) (nativeUid : Int) (input : Library.Bytes) (boot : String)
    (serial : Nat) :
    Script Unit := do
  must (setperm serial)
  must (setTimeout serial)
  let check ← get (readKey serial)
  if check.bytes = input then
    let clock ← now
    writeMetadata username ⟨1, username, nativeUid, boot, serial, clock + lifetime⟩
  else raise

/-- What the handler does once there is a serial number. -/
def undo (serial : Nat) (status : Nat) : Script Unit := do
  let _ ← revoke serial
  let _ ← unlink serial
  .exit status

inductive Result where
  | prepared
  | consumed (payload : Payload)
  | discarded
  deriving DecidableEq, Repr

/-- From the reading of the input to the key. -/
def addInput (username : String) (input : Library.Bytes) : Script (String × Nat) := do
  must lseek
  must read
  let boot ← get bootId
  if ascii (describe boot username) then
    let stale ← search (describe boot username)
    clearStale stale
    let serial ← get (addKey (describe boot username) input)
    pure (boot, serial)
  else raise

/-- `input` is what the descriptor holds. -/
def prepare (username : String) (nativeUid : Int) (input : Library.Bytes) : Script Result := do
  context username
  absent username
  must mlock
  let (boot, serial) ← addInput username input
  (publish username nativeUid input boot serial).onExit (undo serial)
  pure .prepared

/-- The metadata belongs to the account and to this boot. -/
def Metadata.belongs (metadata : Metadata) (username : String) (nativeUid : Int)
    (boot : String) : Bool :=
  metadata.schema = 1 && metadata.username = username && metadata.nativeUid = nativeUid &&
    metadata.bootId = boot

/-- From the key to its payload: read, kept in a sealed descriptor, revoked. -/
def redeem (username : String) (serial : Nat) : Script Result := do
  let payload ← get (readKey serial)
  must memfd
  must (revoke serial)
  let _ ← unlink serial
  must (remove username)
  pure (.consumed payload)

def consume (username : String) (nativeUid : Int) : Script Result := do
  context username
  let inode ← get (privateFile username)
  let metadata ← get (load inode)
  let boot ← get bootId
  if metadata.belongs username nativeUid boot then
    let clock ← now
    if metadata.expires ≤ clock then raise
    else
      must mlock
      redeem username metadata.keySerial
  else raise

/-- What discard does with the metadata file that is there. -/
def dispose (username : String) : Script Result := do
  let inode ← get (privateFile username)
  let metadata ← get (load inode)
  let _ ← revoke metadata.keySerial
  let _ ← unlink metadata.keySerial
  must (remove username)
  pure .discarded

def discard (username : String) : Script Result := do
  let there ← get (present username)
  if there then
    context username
    let still ← get (present username)
    if still then dispose username else pure .discarded
  else pure .discarded

/-- A call of one of the three functions. -/
inductive Call where
  | prepare (username : String) (nativeUid : Int) (input : Library.Bytes)
  | consume (username : String) (nativeUid : Int)
  | discard (username : String)
  deriving DecidableEq, Repr

def Call.script : Call → Script Result
  | .prepare username nativeUid input => Acceptance.prepare username nativeUid input
  | .consume username nativeUid => Acceptance.consume username nativeUid
  | .discard username => Acceptance.discard username

end Liuqin.Fingerprint.Acceptance
