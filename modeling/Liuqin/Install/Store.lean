/-
The switch store step of the installer (tools/lib/install-switch-store.sh).

The script runs under `set -e` in the RAM image while the root is mounted: any
command that fails ends it.  Sizes are numbers here; the host prints them in
decimal and the script compares them as printed.  Its u32_at and classify are
those of liuqin-switch to the letter, run by BusyBox, whose arithmetic is 64
bits wide.
-/

import Mathlib.Logic.Function.Basic
import Liuqin.Library.Checked
import Liuqin.Library.Program
import Liuqin.Switch.Machine

namespace Liuqin.Install

open Liuqin.Library.Checked
open Liuqin.Library.Program
open Liuqin.Switch (Bytes Line System Sha256 SetFiles Node Place Store classifyImage sumsLine
  hexDigit)

def busyboxBits : Nat := 64

def partitionBytes : Nat := 201326592

/-! ### Arguments -/

/-- SET URL SHA256 BYTES -/
structure StoreEntry where
  set : String
  url : Line
  sha256 : Line
  bytes : Nat
  deriving DecidableEq, Repr

def httpScheme : Line := ['h', 't', 't', 'p', ':', '/', '/']

def checkEntry (expected : System) (entry : StoreEntry) : Except String Unit := do
  let name := expected.name
  refuseIf (entry.set ≠ name)
    ("switch store: expected the " ++ name ++ " image, got '" ++ entry.set ++ "'")
  refuseIf (¬httpScheme.isPrefixOf entry.url)
    ("switch store: " ++ name ++ " URL is not http: " ++ String.ofList entry.url)
  refuseIf (entry.sha256 = [] ∨ ¬entry.sha256.all hexDigit)
    ("switch store: invalid " ++ name ++ " sha256")
  refuseIf (entry.sha256.length ≠ 64) ("switch store: invalid " ++ name ++ " sha256 length")
  refuseIf (¬(entry.bytes > 0 ∧ entry.bytes ≤ partitionBytes))
    ("switch store: the " ++ name ++ " image (" ++ toString entry.bytes ++
      " bytes) does not fit the 192 MiB boot_a")

def checkArguments (ubuntu android : StoreEntry) : Except String Unit := do
  checkEntry .ubuntu ubuntu
  checkEntry .android android

theorem checkEntry_fits {expected : System} {entry : StoreEntry}
    (accepted : checkEntry expected entry = .ok ()) : entry.bytes ≤ partitionBytes := by
  simp only [checkEntry, bind_eq_ok, refuseIf_eq_ok, not_not] at accepted
  obtain ⟨_, _, _, _, _, _, _, _, _, fits⟩ := accepted
  exact fits

theorem checkArguments_fits {ubuntu android : StoreEntry}
    (accepted : checkArguments ubuntu android = .ok ()) :
    ubuntu.bytes ≤ partitionBytes ∧ android.bytes ≤ partitionBytes := by
  simp only [checkArguments, bind_eq_ok] at accepted
  obtain ⟨_, first, second⟩ := accepted
  exact ⟨checkEntry_fits first, checkEntry_fits second⟩

/-! ### Commands -/

inductive StoreOp where
  | testRoot
  | makeStore
  | removeTree (place : Place)
  | makeTree (place : Place)
  | wget (place : Place) (url : Line)
  | stat (place : Place)
  | sha256sum (place : Place)
  | classify (place : Place)
  | writeSums (place : Place) (line : Line)
  | writeMeta (place : Place)
  | chmod (place : Place)
  | sync
  | move (source target : Place)
  | writeState (bootSha256 : Line)
  | print (text : String)

def StoreReply : StoreOp → Type
  | .stat _ => Nat
  | .sha256sum _ => Line
  | .classify _ => Option System
  | _ => Unit

/-- A reply, and whether the command succeeded. -/
abbrev StoreAnswer (operation : StoreOp) : Type := StoreReply operation × Bool

/-- What a command leaves behind that the script does not decide: the bytes
wget received, the rest of a tree whose removal failed, a torn file. -/
def StoreChoice : StoreOp → Type
  | .removeTree _ => Option Node
  | .wget _ _ => Bytes
  | .writeSums _ _ => Option (List Line)
  | _ => Unit

def putFiles (store : Store) (place : Place) (edit : SetFiles → SetFiles) : Store :=
  Function.update store place (Switch.editFiles store place edit)

/-- One command that succeeds or fails as the second argument says. -/
def storeReact (sha256 : Sha256) :
    (operation : StoreOp) → StoreChoice operation → Bool → Store → StoreReply operation × Store
  | .removeTree place, rest, works, store =>
      ((), Function.update store place (if works then none else rest))
  | .makeTree place, _, works, store =>
      ((), if works ∧ store place = none then
        Function.update store place (some (.directory { image := none, sums := none })) else store)
  | .wget place _, received, _, store =>
      ((), putFiles store place fun files => { files with image := some received })
  | .stat place, _, _, store => (((store.files place).image.getD []).length, store)
  | .sha256sum place, _, _, store => (sha256.digest ((store.files place).image.getD []), store)
  | .classify place, _, _, store =>
      (classifyImage busyboxBits ((store.files place).image.getD []), store)
  | .writeSums place line, torn, works, store =>
      ((), putFiles store place fun files =>
        { files with sums := if works then some [line] else torn })
  | .move source target, _, works, store =>
      -- fetch_set has removed the target
      ((), if works ∧ store target = none then
        Function.update (Function.update store target (store source)) source none else store)
  | .testRoot, _, _, store => ((), store)
  | .makeStore, _, _, store => ((), store)
  | .writeMeta _, _, _, store => ((), store)
  | .chmod _, _, _, store => ((), store)
  | .sync, _, _, store => ((), store)
  | .writeState _, _, _, store => ((), store)
  | .print _, _, _, store => ((), store)

def storeMachine (sha256 : Sha256) : Machine StoreAnswer Store where
  Fault := fun operation => StoreChoice operation × Bool
  perform := fun operation fault store =>
    let (reply, after) := storeReact sha256 operation fault.1 fault.2 store
    ((reply, fault.2), after)

/-! ### The script -/

abbrev StoreScript := Prog StoreAnswer

/-- `set -e`: a command that fails ends the script. -/
def command (operation : StoreOp) : StoreScript (StoreReply operation) :=
  .act operation fun (reply, works) => if works then .done reply else .exit 1

def fileSize (place : Place) : StoreScript Nat := command (.stat place)
def fileSha256 (place : Place) : StoreScript Line := command (.sha256sum place)
def fileKind (place : Place) : StoreScript (Option System) := command (.classify place)

def storeDie {α : Type} (text : String) : StoreScript α := do
  let _ ← command (.print ("liuqin-install: " ++ text))
  .exit 1

def storeOrDie (ok : Prop) [Decidable ok] (text : String) : StoreScript Unit :=
  if ok then pure () else storeDie text

def fetchSet (set : System) (entry : StoreEntry) : StoreScript Unit := do
  let _ ← command (.removeTree (.staging set))
  let _ ← command (.makeTree (.staging set))
  let _ ← command (.wget (.staging set) entry.url)
  let size ← fileSize (.staging set)
  storeOrDie (size = entry.bytes)
    ("switch store: the " ++ set.name ++ " image size does not match")
  let sha ← fileSha256 (.staging set)
  storeOrDie (sha = entry.sha256)
    ("switch store: the " ++ set.name ++ " image checksum does not match")
  let kind ← fileKind (.staging set)
  storeOrDie (kind = some set)
    ("switch store: the " ++ set.name ++ " image does not identify as a " ++ set.name ++
      " boot image")
  let _ ← command (.writeSums (.staging set) (sumsLine entry.sha256))
  let _ ← command (.writeMeta (.staging set))
  let _ ← command (.chmod (.staging set))
  let _ ← command .sync
  let _ ← command (.removeTree (.live set))
  let _ ← command (.move (.staging set) (.live set))
  return ()

/-- The whole step, for an absolute root directory. -/
def installSwitchStore (ubuntu android : StoreEntry) : StoreScript Unit := do
  match checkArguments ubuntu android with
  | .error reason => storeDie reason
  | .ok _ =>
      let _ ← command .testRoot
      let _ ← command .makeStore
      fetchSet .ubuntu ubuntu
      fetchSet .android android
      let _ ← command (.writeState ubuntu.sha256)
      let _ ← command .sync
      let _ ← command (.print "liuqin-install: SWITCH_STORE_READY")
      return ()

/-! ### What a completed step leaves -/

section Rules

variable {sha256 : Sha256} {store : Store}

/-- In every run: results as stated, anything else allowed. -/
abbrev Completes {α : Type} (sha256 : Sha256) (script : StoreScript α)
    (returned : α → Store → Prop) (store : Store) : Prop :=
  wp (storeMachine sha256) (fun _ _ => True) (fun _ _ => True) script returned store

theorem completes_command {operation : StoreOp}
    {returned : StoreReply operation → Store → Prop}
    (next : ∀ choice, returned (storeReact sha256 operation choice true store).1
      (storeReact sha256 operation choice true store).2) :
    Completes sha256 (command operation) returned store := by
  refine ⟨trivial, ?_⟩
  rintro ⟨choice, works⟩
  cases works with
  | true => exact next choice
  | false => trivial

theorem completes_die {α : Type} {returned : α → Store → Prop} (text : String) :
    Completes sha256 (storeDie text) returned store := by
  unfold Completes storeDie
  rw [Prog.bind_eq, wp_bind]
  exact completes_command fun _ => trivial

theorem completes_orDie {returned : Unit → Store → Prop} (ok : Prop) [Decidable ok]
    (text : String) (next : ok → returned () store) :
    Completes sha256 (storeOrDie ok text) returned store := by
  unfold Completes storeOrDie
  split
  · rename_i holds
    exact next holds
  · exact completes_die text

/-- A command that leaves the store alone. -/
theorem completes_idle {operation : StoreOp} {returned : StoreReply operation → Store → Prop}
    (idle : ∀ choice, (storeReact sha256 operation choice true store).2 = store)
    (next : ∀ reply, returned reply store) :
    Completes sha256 (command operation) returned store := by
  refine completes_command fun choice => ?_
  rw [idle choice]
  exact next _

theorem completes_removeTree {returned : Unit → Store → Prop} (place : Place)
    (next : returned () (Function.update store place none)) :
    Completes sha256 (command (.removeTree place)) returned store :=
  completes_command fun _ => next

theorem completes_makeTree {returned : Unit → Store → Prop} {place : Place}
    (absent : store place = none)
    (next : returned ()
      (Function.update store place (some (.directory { image := none, sums := none })))) :
    Completes sha256 (command (.makeTree place)) returned store := by
  refine completes_command fun _ => ?_
  simp only [storeReact, absent, and_self, if_true]
  exact next

theorem completes_move {returned : Unit → Store → Prop} {source target : Place}
    (absent : store target = none)
    (next : returned ()
      (Function.update (Function.update store target (store source)) source none)) :
    Completes sha256 (command (.move source target)) returned store := by
  refine completes_command fun _ => ?_
  simp only [storeReact, absent, and_self, if_true]
  exact next

section Directory

variable {place : Place} {files : SetFiles}

theorem putFiles_directory (edit : SetFiles → SetFiles)
    (present : store place = some (.directory files)) :
    putFiles store place edit = Function.update store place (some (.directory (edit files))) := by
  rw [putFiles, Switch.editFiles, present]

theorem files_directory (present : store place = some (.directory files)) :
    store.files place = files := by
  rw [Store.files, present]

theorem completes_wget {returned : Unit → Store → Prop}
    (present : store place = some (.directory files)) (url : Line)
    (next : ∀ received, returned () (Function.update store place
      (some (.directory { files with image := some received })))) :
    Completes sha256 (command (.wget place url)) returned store := by
  refine completes_command fun received => ?_
  simp only [storeReact, putFiles_directory _ present]
  exact next received

theorem completes_writeSums {returned : Unit → Store → Prop}
    (present : store place = some (.directory files)) (line : Line)
    (next : returned () (Function.update store place
      (some (.directory { files with sums := some [line] })))) :
    Completes sha256 (command (.writeSums place line)) returned store := by
  refine completes_command fun _ => ?_
  simp only [storeReact, putFiles_directory _ present]
  exact next

theorem completes_fileSize {returned : Nat → Store → Prop}
    (present : store place = some (.directory files))
    (next : returned (files.image.getD []).length store) :
    Completes sha256 (fileSize place) returned store := by
  refine completes_command fun _ => ?_
  simp only [storeReact, files_directory present]
  exact next

theorem completes_fileSha256 {returned : Line → Store → Prop}
    (present : store place = some (.directory files))
    (next : returned (sha256.digest (files.image.getD [])) store) :
    Completes sha256 (fileSha256 place) returned store := by
  refine completes_command fun _ => ?_
  simp only [storeReact, files_directory present]
  exact next

theorem completes_fileKind {returned : Option System → Store → Prop}
    (present : store place = some (.directory files))
    (next : returned (classifyImage busyboxBits (files.image.getD [])) store) :
    Completes sha256 (fileKind place) returned store := by
  refine completes_command fun _ => ?_
  simp only [storeReact, files_directory present]
  exact next

end Directory

/-- A set as the step leaves it. -/
structure Fetched (sha256 : Sha256) (entry : StoreEntry) (set : System) (store : Store)
    (image : Bytes) : Prop where
  stored : store (.live set) =
    some (.directory { image := some image, sums := some [sumsLine (sha256.digest image)] })
  size : image.length = entry.bytes
  digest : sha256.digest image = entry.sha256
  identifies : classifyImage busyboxBits image = some set

theorem Fetched.of_same {entry : StoreEntry} {set : System} {image : Bytes} {other : Store}
    (fetched : Fetched sha256 entry set store image)
    (same : other (.live set) = store (.live set)) : Fetched sha256 entry set other image :=
  { fetched with stored := same.trans fetched.stored }

/-- A completed fetch_set leaves the fetched set, and every other set alone. -/
theorem completes_fetchSet {returned : Unit → Store → Prop} (set : System) (entry : StoreEntry)
    (next : ∀ after image, Fetched sha256 entry set after image →
      (∀ place, place.set ≠ set → after place = store place) → returned () after) :
    Completes sha256 (fetchSet set entry) returned store := by
  have apart : Place.live set ≠ .staging set := by
    intro same
    cases same
  have present : ∀ (before : Store) (files : SetFiles),
      Function.update before (.staging set) (some (.directory files)) (.staging set) =
        some (.directory files) := fun before files => Function.update_self _ _ _
  unfold Completes fetchSet
  simp only [Prog.bind_eq, wp_bind, Prog.pure_eq, wp_done]
  refine completes_removeTree _ ?_
  refine completes_makeTree (Function.update_self _ _ _) ?_
  refine completes_wget (present _ _) _ fun image => ?_
  simp only [Function.update_idem]
  refine completes_fileSize (present _ _) ?_
  refine completes_orDie _ _ fun size => ?_
  refine completes_fileSha256 (present _ _) ?_
  refine completes_orDie _ _ fun digest => ?_
  refine completes_fileKind (present _ _) ?_
  refine completes_orDie _ _ fun identifies => ?_
  refine completes_writeSums (present _ _) _ ?_
  refine completes_idle (fun _ => rfl) fun _ => ?_
  refine completes_idle (fun _ => rfl) fun _ => ?_
  refine completes_idle (fun _ => rfl) fun _ => ?_
  refine completes_removeTree _ ?_
  refine completes_move (Function.update_self _ _ _) ?_
  apply next _ image
  · constructor
    · rw [Function.update_of_ne apart, Function.update_self, Function.update_of_ne apart.symm,
        Function.update_self, ← digest]
      rfl
    · exact size
    · exact digest
    · exact identifies
  · intro place other
    have notLive : place ≠ .live set := by
      rintro rfl
      exact other rfl
    have notStaging : place ≠ .staging set := by
      rintro rfl
      exact other rfl
    rw [Function.update_of_ne notStaging, Function.update_of_ne notLive,
      Function.update_of_ne notLive, Function.update_of_ne notStaging,
      Function.update_of_ne notStaging]

/-- What the store holds once the step printed SWITCH_STORE_READY. -/
structure StoreReady (sha256 : Sha256) (ubuntu android : StoreEntry) (store : Store)
    (ubuntuImage androidImage : Bytes) : Prop where
  ubuntu : Fetched sha256 ubuntu .ubuntu store ubuntuImage
  android : Fetched sha256 android .android store androidImage
  fits : ubuntuImage.length ≤ partitionBytes ∧ androidImage.length ≤ partitionBytes

theorem completes_installSwitchStore {returned : Unit → Store → Prop} (ubuntu android : StoreEntry)
    (next : ∀ after ubuntuImage androidImage,
      StoreReady sha256 ubuntu android after ubuntuImage androidImage → returned () after) :
    Completes sha256 (installSwitchStore ubuntu android) returned store := by
  unfold Completes installSwitchStore
  cases accepted : checkArguments ubuntu android with
  | error reason => exact completes_die reason
  | ok answer =>
      have bounds := checkArguments_fits accepted
      simp only [Prog.bind_eq, wp_bind, Prog.pure_eq, wp_done]
      refine completes_idle (fun _ => rfl) fun _ => ?_
      refine completes_idle (fun _ => rfl) fun _ => ?_
      refine completes_fetchSet .ubuntu ubuntu fun one ubuntuImage first _ => ?_
      refine completes_fetchSet .android android fun two androidImage second others => ?_
      have kept : two (.live .ubuntu) = one (.live .ubuntu) := others _ (by decide)
      refine completes_idle (fun _ => rfl) fun _ => ?_
      refine completes_idle (fun _ => rfl) fun _ => ?_
      refine completes_idle (fun _ => rfl) fun _ => ?_
      apply next _ ubuntuImage androidImage
      exact { ubuntu := first.of_same kept
              android := second
              fits := ⟨by rw [first.size]; exact bounds.1, by rw [second.size]; exact bounds.2⟩ }

/-- Every run that comes to its end has filled the store. -/
theorem storeReady_of_done {ubuntu android : StoreEntry} {after : Store}
    (completed : Reaches (storeMachine sha256) (installSwitchStore ubuntu android, store)
      (.done (), after)) :
    ∃ ubuntuImage androidImage, StoreReady sha256 ubuntu android after ubuntuImage androidImage := by
  have filled : Completes sha256 (installSwitchStore ubuntu android)
      (fun _ last => ∃ ubuntuImage androidImage,
        StoreReady sha256 ubuntu android last ubuntuImage androidImage) store :=
    completes_installSwitchStore ubuntu android fun _ ubuntuImage androidImage ready =>
      ⟨ubuntuImage, androidImage, ready⟩
  exact wp_reaches completed filled

end Rules

end Liuqin.Install
