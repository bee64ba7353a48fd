/-
What the commands and the reading functions of liuqin-switch do, as rules of
the weakest precondition.

A command that observes leaves everything but the record of the run alone.
Each reading function gets one rule: what it answers, and that the tablet was
only looked at.
-/

import Liuqin.Switch.Script

namespace Liuqin.Switch

open Liuqin.Library.Program

/-! ### Looking -/

/-- Only inputs of sha256sum were added to the record. -/
def Seen {size : Nat} (before after : Tablet size) : Prop :=
  ∃ more, after = before.note fun history => { history with hashed := more ++ history.hashed }

/-- Nothing changed but the record, and the record lost nothing. -/
structure Looked {size : Nat} (before after : Tablet size) : Prop where
  shell : after.shell = before.shell
  boot : after.boot = before.boot
  store : after.store = before.store
  partRo : after.partRo = before.partRo
  diskRo : after.diskRo = before.diskRo
  hashed : before.history.hashed ⊆ after.history.hashed
  writes : after.history.writes = before.history.writes
  written : after.history.written = before.history.written
  firstStore : after.history.firstStore = before.history.firstStore
  rebooted : after.history.rebooted = before.history.rebooted
  restoreFailed : after.history.restoreFailed = before.history.restoreFailed
  sumsFailed : after.history.sumsFailed = before.history.sumsFailed
  readShort : before.history.readShort = true → after.history.readShort = true
  forwardFailed : before.history.forwardFailed = true → after.history.forwardFailed = true
  flagFailed : before.history.flagFailed = true → after.history.flagFailed = true
  rollbackRefused : before.history.rollbackRefused = true → after.history.rollbackRefused = true
  early : before.history.writes = 0 →
    after.history.forwardFailed = before.history.forwardFailed ∧
      after.history.rollbackRefused = before.history.rollbackRefused

section Looking

variable {size : Nat} {first second third : Tablet size}

theorem Seen.refl (tablet : Tablet size) : Seen tablet tablet := ⟨[], rfl⟩

theorem Seen.trans (one : Seen first second) (two : Seen second third) : Seen first third := by
  obtain ⟨more, rfl⟩ := one
  obtain ⟨most, rfl⟩ := two
  refine ⟨most ++ more, ?_⟩
  simp only [Tablet.note, List.append_assoc]

theorem Looked.refl (tablet : Tablet size) : Looked tablet tablet := by
  constructor <;> simp

theorem Looked.trans (one : Looked first second) (two : Looked second third) :
    Looked first third where
  shell := two.shell.trans one.shell
  boot := two.boot.trans one.boot
  store := two.store.trans one.store
  partRo := two.partRo.trans one.partRo
  diskRo := two.diskRo.trans one.diskRo
  hashed := List.Subset.trans one.hashed two.hashed
  writes := two.writes.trans one.writes
  written := two.written.trans one.written
  firstStore := two.firstStore.trans one.firstStore
  rebooted := two.rebooted.trans one.rebooted
  restoreFailed := two.restoreFailed.trans one.restoreFailed
  sumsFailed := two.sumsFailed.trans one.sumsFailed
  readShort := two.readShort ∘ one.readShort
  forwardFailed := two.forwardFailed ∘ one.forwardFailed
  flagFailed := two.flagFailed ∘ one.flagFailed
  rollbackRefused := two.rollbackRefused ∘ one.rollbackRefused
  early := by
    intro unwritten
    obtain ⟨forward, refused⟩ := one.early unwritten
    obtain ⟨forward', refused'⟩ := two.early (one.writes.trans unwritten)
    exact ⟨forward'.trans forward, refused'.trans refused⟩

theorem Seen.looked (seen : Seen first second) : Looked first second := by
  obtain ⟨more, rfl⟩ := seen
  constructor <;> simp [Tablet.note]

end Looking

/-- Commands that change neither boot_a nor the store, the flags or the shell. -/
def Op.Observes : Op → Prop
  | .assign _ => False
  | .ignoreSignals _ => False
  | .writeBoot _ => False
  | .setro _ _ => False
  | .removeTree _ => False
  | .makeTree _ => False
  | .move _ _ => False
  | .archive _ _ => False
  | .copyIn _ _ => False
  | .writeSums _ _ => False
  | .reboot => False
  | _ => True

theorem looked_note {size : Nat} (tablet : Tablet size) (edit : History → History)
    (hashed : tablet.history.hashed ⊆ (edit tablet.history).hashed)
    (same : (edit tablet.history).writes = tablet.history.writes ∧
      (edit tablet.history).written = tablet.history.written ∧
      (edit tablet.history).firstStore = tablet.history.firstStore ∧
      (edit tablet.history).rebooted = tablet.history.rebooted ∧
      (edit tablet.history).restoreFailed = tablet.history.restoreFailed ∧
      (edit tablet.history).sumsFailed = tablet.history.sumsFailed)
    (grows : (tablet.history.readShort = true → (edit tablet.history).readShort = true) ∧
      (tablet.history.forwardFailed = true → (edit tablet.history).forwardFailed = true) ∧
      (tablet.history.flagFailed = true → (edit tablet.history).flagFailed = true) ∧
      (tablet.history.rollbackRefused = true → (edit tablet.history).rollbackRefused = true))
    (early : tablet.history.writes = 0 →
      (edit tablet.history).forwardFailed = tablet.history.forwardFailed ∧
        (edit tablet.history).rollbackRefused = tablet.history.rollbackRefused) :
    Looked tablet (tablet.note edit) where
  shell := rfl
  boot := rfl
  store := rfl
  partRo := rfl
  diskRo := rfl
  hashed := hashed
  writes := same.1
  written := same.2.1
  firstStore := same.2.2.1
  rebooted := same.2.2.2.1
  restoreFailed := same.2.2.2.2.1
  sumsFailed := same.2.2.2.2.2
  readShort := grows.1
  forwardFailed := grows.2.1
  flagFailed := grows.2.2.1
  rollbackRefused := grows.2.2.2
  early := early

theorem looked_flagRequest {size : Nat} (tablet : Tablet size) (ok : Bool) :
    Looked tablet (tablet.note (History.flagRequest ok)) := by
  apply looked_note
  · simp [History.flagRequest]
  · simp [History.flagRequest]
  · refine ⟨id, id, ?_, id⟩
    intro failed
    simp [History.flagRequest, failed]
  · intro unwritten
    simp [History.flagRequest, unwritten]

theorem looked_readBack {size : Nat} (tablet : Tablet size) (wanted got : Bytes)
    (skip count : Nat) : Looked tablet (tablet.note (History.readBack wanted got skip count)) := by
  apply looked_note
  · simp [History.readBack]
  · simp [History.readBack]
  · refine ⟨?_, ?_, id, ?_⟩
    · intro short
      simp [History.readBack, short]
    · intro failed
      simp [History.readBack, failed]
    · intro refused
      simp [History.readBack, refused]
  · intro unwritten
    simp [History.readBack, unwritten]

theorem looked_hashing {size : Nat} (tablet : Tablet size) (data : Bytes) :
    Seen tablet
      (tablet.note fun history => { history with hashed := data :: history.hashed }) :=
  ⟨[data], rfl⟩

theorem Op.Observes.looked {device : Device} {operation : Op} (observes : operation.Observes)
    (choice : Choice device.size operation) (tablet : Tablet device.size) :
    Looked tablet (react device operation choice tablet).2 := by
  cases operation
  case assign => exact observes.elim
  case ignoreSignals => exact observes.elim
  case writeBoot => exact observes.elim
  case setro => exact observes.elim
  case removeTree => exact observes.elim
  case makeTree => exact observes.elim
  case move => exact observes.elim
  case archive => exact observes.elim
  case copyIn => exact observes.elim
  case writeSums => exact observes.elim
  case reboot => exact observes.elim
  case sha256sum data => exact (looked_hashing tablet data).looked
  case readBoot skip count => exact looked_readBack tablet _ _ skip count
  case parentDisk => exact looked_flagRequest tablet _
  case getro flag => exact looked_flagRequest tablet _
  all_goals exact Looked.refl tablet

/-! ### What a function performs -/

/-- Commands that leave boot_a, the flags and the variables alone, and in the
store every directory but those of one set. -/
def Op.Stores (set : System) : Op → Prop
  | .assign _ => False
  | .writeBoot _ => False
  | .setro _ _ => False
  | .reboot => False
  | .removeTree place => place.set = set
  | .makeTree place => place.set = set
  | .move source target => source.set = set ∧ target.set = set
  | .archive place _ => place.set = set
  | .copyIn place _ => place.set = set
  | .writeSums place _ => place.set = set
  | _ => True

theorem Op.Observes.stores {operation : Op} (observes : operation.Observes) (set : System) :
    operation.Stores set := by
  cases operation <;> trivial

/-- Nothing changed but the store, the signals' disposition and the record. -/
structure Stored {size : Nat} (before after : Tablet size) : Prop where
  shell : after.shell = { before.shell with ignoring := after.shell.ignoring }
  boot : after.boot = before.boot
  partRo : after.partRo = before.partRo
  diskRo : after.diskRo = before.diskRo
  hashed : before.history.hashed ⊆ after.history.hashed
  writes : after.history.writes = before.history.writes
  rebooted : after.history.rebooted = before.history.rebooted
  restoreFailed : after.history.restoreFailed = before.history.restoreFailed
  sumsFailed : before.history.sumsFailed = true → after.history.sumsFailed = true
  readShort : before.history.readShort = true → after.history.readShort = true
  early : before.history.writes = 0 →
    after.history.forwardFailed = before.history.forwardFailed ∧
      after.history.rollbackRefused = before.history.rollbackRefused

theorem Looked.stored {size : Nat} {before after : Tablet size} (looked : Looked before after) :
    Stored before after where
  shell := by rw [looked.shell]
  boot := looked.boot
  partRo := looked.partRo
  diskRo := looked.diskRo
  hashed := looked.hashed
  writes := looked.writes
  rebooted := looked.rebooted
  restoreFailed := looked.restoreFailed
  sumsFailed := looked.sumsFailed.trans
  readShort := looked.readShort
  early := looked.early

theorem stored_place {size : Nat} (tablet : Tablet size) (place : Place) (node : Option Node) :
    Stored tablet (tablet.place place node) := by
  constructor <;> simp [Tablet.place]

theorem stored_sums {size : Nat} (tablet : Tablet size) (ok : Bool) :
    Stored tablet (tablet.note fun history =>
      { history with sumsFailed := history.sumsFailed || !ok }) := by
  constructor <;> simp [Tablet.note]
  exact Or.inl

theorem Stored.trans {size : Nat} {first second third : Tablet size} (one : Stored first second)
    (two : Stored second third) : Stored first third where
  shell := by rw [two.shell, one.shell]
  boot := two.boot.trans one.boot
  partRo := two.partRo.trans one.partRo
  diskRo := two.diskRo.trans one.diskRo
  hashed := List.Subset.trans one.hashed two.hashed
  writes := two.writes.trans one.writes
  rebooted := two.rebooted.trans one.rebooted
  restoreFailed := two.restoreFailed.trans one.restoreFailed
  sumsFailed := two.sumsFailed ∘ one.sumsFailed
  readShort := two.readShort ∘ one.readShort
  early := by
    intro unwritten
    obtain ⟨forward, refused⟩ := one.early unwritten
    obtain ⟨forward', refused'⟩ := two.early (one.writes.trans unwritten)
    exact ⟨forward'.trans forward, refused'.trans refused⟩

theorem stored_move {device : Device} (source target : Place) (works : Bool)
    (tablet : Tablet device.size) :
    Stored tablet (react device (.move source target) works tablet).2 := by
  simp only [react]
  split
  · exact stored_place tablet _ _
  · exact (stored_place tablet _ _).trans (stored_place _ _ _)
  · exact (stored_place tablet _ _).trans (stored_place _ _ _)
  · exact (Looked.refl tablet).stored

theorem stored_makeTree {device : Device} (place : Place) (works : Bool)
    (tablet : Tablet device.size) :
    Stored tablet (react device (.makeTree place) works tablet).2 := by
  simp only [react]
  split
  · exact (Looked.refl tablet).stored
  · exact (Looked.refl tablet).stored
  · cases works with
    | true => exact stored_place tablet _ _
    | false => exact (Looked.refl tablet).stored

theorem Op.Stores.stored {device : Device} {operation : Op} {set : System}
    (stores : operation.Stores set)
    (choice : Choice device.size operation) (tablet : Tablet device.size) :
    Stored tablet (react device operation choice tablet).2 := by
  cases operation
  case assign => exact stores.elim
  case writeBoot => exact stores.elim
  case setro => exact stores.elim
  case reboot => exact stores.elim
  case ignoreSignals ignore =>
    exact ⟨rfl, rfl, rfl, rfl, fun _ => id, rfl, rfl, rfl, id, id, fun _ => ⟨rfl, rfl⟩⟩
  case removeTree place => exact stored_place tablet place _
  case makeTree place => exact stored_makeTree place choice tablet
  case move source target => exact stored_move source target choice tablet
  case archive place count => exact stored_place tablet place _
  case copyIn place data => exact stored_place tablet place _
  case writeSums place line => exact (stored_place tablet place _).trans (stored_sums _ _)
  all_goals exact Looked.stored (Op.Observes.looked (by trivial) choice tablet)

/-- The other set's directories stay as they are. -/
theorem Op.Stores.other {device : Device} {operation : Op} {set : System}
    (stores : operation.Stores set) (choice : Choice device.size operation)
    (tablet : Tablet device.size) {place : Place} (other : place.set ≠ set) :
    (react device operation choice tablet).2.store place = tablet.store place := by
  have apart : ∀ touched : Place, touched.set = set → place ≠ touched := by
    rintro touched inside rfl
    exact other inside
  have placed : ∀ (before : Tablet device.size) (touched : Place) (node : Option Node),
      touched.set = set → (before.place touched node).store place = before.store place := by
    intro before touched node inside
    simp only [Tablet.place, Function.update_of_ne (apart touched inside)]
  cases operation
  case assign => exact stores.elim
  case writeBoot => exact stores.elim
  case setro => exact stores.elim
  case reboot => exact stores.elim
  case removeTree touched => exact placed tablet touched _ stores
  case makeTree touched =>
    simp only [react]
    split
    · rfl
    · rfl
    · cases choice with
      | true => exact placed tablet touched _ stores
      | false => rfl
  case move source target =>
    simp only [react]
    split
    · exact placed tablet source _ stores.1
    · rw [placed _ source _ stores.1, placed tablet target _ stores.2]
    · rw [placed _ source _ stores.1, placed tablet target _ stores.2]
    · rfl
  case archive touched count => exact placed tablet touched _ stores
  case copyIn touched data => exact placed tablet touched _ stores
  case writeSums touched line => exact placed tablet touched _ stores
  all_goals rfl

def Fails (status : Nat) : Prop := status ≠ 0

section Performs

variable {allowed : Op → Prop}

theorem only_run {operation : Op} (holds : allowed operation) :
    (run operation).Only allowed Fails := by
  refine ⟨holds, ?_⟩
  rintro ⟨reply, interrupted⟩
  cases interrupted with
  | true => exact (by decide : 130 ≠ 0)
  | false => trivial

theorem only_say (holds : ∀ text, allowed (.print text)) (text : String) :
    (say text).Only allowed Fails := only_run (holds _)

theorem only_warn (holds : ∀ text, allowed (.print text)) (text : String) :
    (warn text).Only allowed Fails := only_run (holds _)

theorem only_die {α : Type} (holds : ∀ text, allowed (.print text)) (text : String) :
    (die text : Script α).Only allowed Fails :=
  Prog.only_bind (only_run (holds _)) fun _ => (by decide : 1 ≠ 0)

theorem only_orDie (holds : ∀ text, allowed (.print text)) (ok : Prop) [Decidable ok]
    (text : String) : (orDie ok text).Only allowed Fails :=
  Prog.only_ite trivial (only_die holds text)

end Performs

theorem only_commitSet (set : System) : (commitSet set).Only (Op.Stores set) Fails := by
  unfold commitSet criticalBegin criticalEnd
  refine Prog.only_bind (only_run trivial) fun _ => ?_
  refine Prog.only_bind (only_run trivial) fun _ => ?_
  refine Prog.only_bind (only_run rfl) fun _ => ?_
  refine Prog.only_bind (only_run trivial) fun present => ?_
  refine Prog.only_bind (Prog.only_ite (only_run ⟨rfl, rfl⟩) trivial) fun aside => ?_
  refine Prog.only_bind (only_orDie (fun _ => trivial) _ _) fun _ => ?_
  refine Prog.only_bind (only_run ⟨rfl, rfl⟩) fun placed => ?_
  refine Prog.only_bind (only_orDie (fun _ => trivial) _ _) fun _ => ?_
  refine Prog.only_bind (only_run rfl) fun _ => ?_
  refine Prog.only_bind (only_run trivial) fun _ => ?_
  exact only_run trivial

theorem only_requireWritableStore (session : Session) :
    (requireWritableStore session).Only Op.Observes Fails := by
  unfold requireWritableStore
  refine Prog.only_bind (only_orDie (fun _ => trivial) _ _) fun _ => ?_
  refine Prog.only_bind (only_run trivial) fun made => ?_
  exact only_orDie (fun _ => trivial) _ _

theorem only_stashLive (session : Session) (live : Live) :
    (stashLive session live).Only (Op.Stores .android) Fails := by
  unfold stashLive
  refine Prog.only_ite (only_say (fun _ => trivial) _) ?_
  refine Prog.only_bind (Prog.only_mono (only_requireWritableStore session)
    (fun _ observes => observes.stores .android) (fun _ => id)) fun _ => ?_
  refine Prog.only_bind (only_run rfl) fun _ => ?_
  refine Prog.only_bind (only_run rfl) fun made => ?_
  refine Prog.only_bind (only_orDie (fun _ => trivial) _ _) fun _ => ?_
  refine Prog.only_bind (only_run rfl) fun copied => ?_
  refine Prog.only_bind (only_orDie (fun _ => trivial) _ _) fun _ => ?_
  refine Prog.only_bind (only_run trivial) fun image => ?_
  refine Prog.only_bind (only_run trivial) fun sha => ?_
  refine Prog.only_bind (only_orDie (fun _ => trivial) _ _) fun _ => ?_
  refine Prog.only_bind (only_orDie (fun _ => trivial) _ _) fun _ => ?_
  refine Prog.only_bind (only_run rfl) fun _ => ?_
  refine Prog.only_bind (only_run trivial) fun _ => ?_
  refine Prog.only_bind (only_commitSet .android) fun _ => ?_
  exact only_say (fun _ => trivial) _

theorem only_cmdImportAndroid (session : Session) (file : Option Bytes) :
    (cmdImportAndroid session file).Only (Op.Stores .android) Fails := by
  unfold cmdImportAndroid
  cases file with
  | none => exact only_die (fun _ => trivial) _
  | some image =>
      refine Prog.only_bind (only_orDie (fun _ => trivial) _ _) fun _ => ?_
      refine Prog.only_bind (only_orDie (fun _ => trivial) _ _) fun _ => ?_
      refine Prog.only_ite (Prog.only_bind (only_say (fun _ => trivial) _) fun _ => trivial) ?_
      refine Prog.only_bind (Prog.only_mono (only_requireWritableStore session)
        (fun _ observes => observes.stores .android) (fun _ => id)) fun _ => ?_
      refine Prog.only_bind (only_run rfl) fun _ => ?_
      refine Prog.only_bind (only_run rfl) fun made => ?_
      refine Prog.only_bind (only_orDie (fun _ => trivial) _ _) fun _ => ?_
      refine Prog.only_bind (only_run rfl) fun copied => ?_
      refine Prog.only_bind (only_orDie (fun _ => trivial) _ _) fun _ => ?_
      refine Prog.only_bind (only_run trivial) fun staged => ?_
      refine Prog.only_bind (only_run trivial) fun sha => ?_
      refine Prog.only_bind (only_run trivial) fun source => ?_
      refine Prog.only_bind (only_orDie (fun _ => trivial) _ _) fun _ => ?_
      refine Prog.only_bind (only_run rfl) fun _ => ?_
      refine Prog.only_bind (only_run trivial) fun _ => ?_
      refine Prog.only_bind (only_commitSet .android) fun _ => ?_
      exact Prog.only_bind (only_say (fun _ => trivial) _) fun _ => trivial

/-- Commands of write_image. -/
def Op.Writes (operation : Op) : Prop :=
  operation.Observes ∨ ∃ data, operation = .writeBoot data

theorem only_writeImage (device : Device) (place : Place) :
    (writeImage device place).Only Op.Writes Fails := by
  have observed : ∀ {operation : Op}, operation.Observes → operation.Writes := Or.inl
  have writes : (writable device).Only Op.Writes Fails := by
    unfold writable
    refine Prog.only_ite ?_ trivial
    refine Prog.only_bind (only_run (observed trivial)) fun part => ?_
    refine Prog.only_ite trivial ?_
    refine Prog.only_bind (only_run (observed trivial)) fun found => ?_
    refine Prog.only_ite ?_ trivial
    exact Prog.only_bind (only_run (observed trivial)) fun disk => trivial
  unfold writeImage
  refine Prog.only_bind (only_run (observed trivial)) fun image => ?_
  refine Prog.only_ite trivial ?_
  refine Prog.only_bind writes fun may => ?_
  refine Prog.only_ite trivial ?_
  refine Prog.only_bind (only_run (Or.inr ⟨_, rfl⟩)) fun wrote => ?_
  refine Prog.only_ite trivial ?_
  refine Prog.only_bind (only_run (observed trivial)) fun _ => ?_
  refine Prog.only_bind (Prog.only_ite trivial (only_run (observed trivial))) fun _ => ?_
  trivial

/-! ### Rules -/

section Rules

variable {device : Device} {during : Op → Tablet device.size → Prop}
  {exited : Nat → Tablet device.size → Prop} {tablet : Tablet device.size}

/-- A command's rule.  An arriving signal runs `exit 130`. -/
theorem wp_run (operation : Op) (returned : Reply operation → Tablet device.size → Prop)
    (ongoing : during operation tablet)
    (signalled : tablet.shell.ignoring = false → ∀ choice : Choice device.size operation,
      exited 130 (react device operation choice tablet).2)
    (next : ∀ choice : Choice device.size operation,
      returned (react device operation choice tablet).1 (react device operation choice tablet).2) :
    wp (machine device) during exited (run operation) returned tablet := by
  refine ⟨ongoing, ?_⟩
  rintro ⟨choice, signal⟩
  cases ignoring : tablet.shell.ignoring with
  | true =>
      simp only [machine, ignoring, Bool.not_true, Bool.and_false]
      exact next choice
  | false =>
      cases signal with
      | true =>
          simp only [machine, ignoring, Bool.not_false, Bool.and_true]
          exact signalled ignoring choice
      | false =>
          simp only [machine, Bool.false_and]
          exact next choice

/-- Looking at the tablet is harmless here, and so is a signal. -/
def Watches (during : Op → Tablet device.size → Prop) (exited : Nat → Tablet device.size → Prop)
    (tablet : Tablet device.size) : Prop :=
  ∀ after, Looked tablet after →
    (∀ operation : Op, operation.Observes → during operation after) ∧
      (after.shell.ignoring = false → exited 130 after)

theorem Watches.later {after : Tablet device.size} (watches : Watches during exited tablet)
    (looked : Looked tablet after) : Watches during exited after :=
  fun last further => watches last (looked.trans further)

theorem Watches.seen {after : Tablet device.size} (watches : Watches during exited tablet)
    (seen : Seen tablet after) : Watches during exited after :=
  watches.later seen.looked

/-- Looking at the tablet and leaving with a failure are both harmless here. -/
def Bears (during : Op → Tablet device.size → Prop) (exited : Nat → Tablet device.size → Prop)
    (tablet : Tablet device.size) : Prop :=
  ∀ after, Looked tablet after →
    (∀ operation : Op, operation.Observes → during operation after) ∧
      ∀ status, status ≠ 0 → exited status after

theorem Bears.watches (bears : Bears during exited tablet) : Watches during exited tablet :=
  fun after looked => ⟨(bears after looked).1, fun _ => (bears after looked).2 130 (by decide)⟩

instance : Coe (Bears during exited tablet) (Watches during exited tablet) := ⟨Bears.watches⟩

theorem Bears.later {after : Tablet device.size} (bears : Bears during exited tablet)
    (looked : Looked tablet after) : Bears during exited after :=
  fun last further => bears last (looked.trans further)

theorem Bears.seen {after : Tablet device.size} (bears : Bears during exited tablet)
    (seen : Seen tablet after) : Bears during exited after :=
  bears.later seen.looked

theorem wp_observe {operation : Op} {returned : Reply operation → Tablet device.size → Prop}
    (observes : operation.Observes) (watches : Watches during exited tablet)
    (next : ∀ choice : Choice device.size operation,
      returned (react device operation choice tablet).1 (react device operation choice tablet).2) :
    wp (machine device) during exited (run operation) returned tablet := by
  apply wp_run operation returned
  · exact (watches tablet (Looked.refl tablet)).1 operation observes
  · intro open_ choice
    have looked := observes.looked choice tablet
    exact (watches _ looked).2 (by rw [looked.shell, open_])
  · exact next

theorem wp_say {returned : Unit → Tablet device.size → Prop} (watches : Watches during exited tablet)
    (text : String) (next : returned () tablet) :
    wp (machine device) during exited (say text) returned tablet :=
  wp_observe trivial watches fun _ => next

theorem wp_warn {returned : Unit → Tablet device.size → Prop}
    (watches : Watches during exited tablet) (text : String) (next : returned () tablet) :
    wp (machine device) during exited (warn text) returned tablet :=
  wp_observe trivial watches fun _ => next

theorem wp_warnIf {returned : Unit → Tablet device.size → Prop}
    (watches : Watches during exited tablet) (told : Prop) [Decidable told] (text : String)
    (next : returned () tablet) :
    wp (machine device) during exited (warnIf told text) returned tablet := by
  rw [warnIf]
  split
  · exact wp_warn watches text next
  · exact next

theorem wp_die {α : Type} {returned : α → Tablet device.size → Prop}
    (bears : Bears during exited tablet) (text : String) :
    wp (machine device) during exited (die text) returned tablet := by
  rw [die, Prog.bind_eq, wp_bind]
  refine wp_observe trivial bears fun _ => ?_
  exact (bears tablet (Looked.refl tablet)).2 1 (by decide)

theorem wp_orDie {returned : Unit → Tablet device.size → Prop}
    (bears : Bears during exited tablet) (ok : Prop) [Decidable ok] (text : String)
    (next : ok → returned () tablet) :
    wp (machine device) during exited (orDie ok text) returned tablet := by
  rw [orDie]
  split
  · rename_i holds
    exact next holds
  · exact wp_die bears text

theorem wp_shell {returned : Shell → Tablet device.size → Prop}
    (watches : Watches during exited tablet) (next : returned tablet.shell tablet) :
    wp (machine device) during exited shell returned tablet :=
  wp_observe trivial watches fun _ => next

theorem wp_sha256sum {returned : Line → Tablet device.size → Prop}
    (watches : Watches during exited tablet) (data : Bytes)
    (next : returned (device.sha256.digest data)
      (tablet.note fun history => { history with hashed := data :: history.hashed })) :
    wp (machine device) during exited (sha256sum data) returned tablet :=
  wp_observe trivial watches fun _ => next

theorem wp_readBoot {returned : Bytes → Tablet device.size → Prop}
    (watches : Watches during exited tablet) (skip count : Nat)
    (next : ∀ delivered, returned ((range tablet.boot.toList skip count).take delivered)
      (tablet.note (History.readBack (range tablet.boot.toList skip count)
        ((range tablet.boot.toList skip count).take delivered) skip count))) :
    wp (machine device) during exited (readBoot skip count) returned tablet :=
  wp_observe trivial watches next

theorem wp_testDirectory {returned : Bool → Tablet device.size → Prop}
    (watches : Watches during exited tablet) (place : Place)
    (next : returned (tablet.store.isDirectory place) tablet) :
    wp (machine device) during exited (testDirectory place) returned tablet :=
  wp_observe trivial watches fun _ => next

theorem wp_testSums {returned : Bool → Tablet device.size → Prop}
    (watches : Watches during exited tablet) (place : Place)
    (next : returned (tablet.store.files place).sums.isSome tablet) :
    wp (machine device) during exited (testSums place) returned tablet :=
  wp_observe trivial watches fun _ => next

theorem wp_testImage {returned : Bool → Tablet device.size → Prop}
    (watches : Watches during exited tablet) (place : Place)
    (next : returned (tablet.store.files place).image.isSome tablet) :
    wp (machine device) during exited (testImage place) returned tablet :=
  wp_observe trivial watches fun _ => next

theorem wp_catSums {returned : List Line → Tablet device.size → Prop}
    (watches : Watches during exited tablet) (place : Place)
    (next : returned ((tablet.store.files place).sums.getD []) tablet) :
    wp (machine device) during exited (catSums place) returned tablet :=
  wp_observe trivial watches fun _ => next

theorem wp_catImage {returned : Bytes → Tablet device.size → Prop}
    (watches : Watches during exited tablet) (place : Place)
    (next : returned ((tablet.store.files place).image.getD []) tablet) :
    wp (machine device) during exited (catImage place) returned tablet :=
  wp_observe trivial watches fun _ => next

theorem wp_makeLock {returned : Bool → Tablet device.size → Prop}
    (watches : Watches during exited tablet) (next : ∀ free, returned free tablet) :
    wp (machine device) during exited makeLock returned tablet :=
  wp_observe trivial watches next

theorem wp_partBytes {returned : Bool → Tablet device.size → Prop}
    (watches : Watches during exited tablet) (next : ∀ sized, returned sized tablet) :
    wp (machine device) during exited partBytes returned tablet :=
  wp_observe trivial watches next

theorem wp_testStore {returned : Bool → Tablet device.size → Prop}
    (watches : Watches during exited tablet) (next : ∀ present, returned present tablet) :
    wp (machine device) during exited testStore returned tablet :=
  wp_observe trivial watches next

theorem wp_mountStore {returned : Option Bool → Tablet device.size → Prop}
    (watches : Watches during exited tablet) (next : ∀ mount, returned mount tablet) :
    wp (machine device) during exited mountStore returned tablet :=
  wp_observe trivial watches next

/-! ### Checking a set -/

/-- check_set as a predicate on the store. -/
structure Usable (device : Device) (store : Store) (set : System) (image : Bytes) : Prop where
  stored : ∃ sums, store (.live set) = some (.directory { image := some image, sums := some sums }) ∧
    sumsLookup sums = some (device.sha256.digest image)
  fits : image.length ≤ device.size
  identifies : classifyImage device.shellBits image = some set

theorem Usable.files {store : Store} {set : System} {image : Bytes}
    (usable : Usable device store set image) : (store.files (.live set)).image.getD [] = image := by
  obtain ⟨sums, stored, _⟩ := usable.stored
  simp [Store.files, stored]

theorem Usable.unique {store : Store} {set : System} {image other : Bytes}
    (one : Usable device store set image) (two : Usable device store set other) :
    image = other := by
  rw [← one.files, two.files]

theorem Usable.of_same {store other : Store} {set : System} {image : Bytes}
    (usable : Usable device store set image) (same : other (.live set) = store (.live set)) :
    Usable device other set image := by
  refine ⟨?_, usable.fits, usable.identifies⟩
  rw [same]
  exact usable.stored

theorem wp_checkSetWhy {returned : Option String → Tablet device.size → Prop}
    (watches : Watches during exited tablet) (set : System)
    (next : ∀ why after, Seen tablet after →
      (why = none ↔ ∃ image, Usable device tablet.store set image) → returned why after) :
    wp (machine device) during exited (checkSetWhy device set) returned tablet := by
  have refused : ∀ (why : String) (after : Tablet device.size), Seen tablet after →
      (∀ image, ¬Usable device tablet.store set image) → returned (some why) after := by
    intro why after seen unusable
    apply next _ _ seen
    simp [unusable]
  simp only [checkSetWhy, Prog.bind_eq, wp_bind]
  refine wp_testDirectory watches _ ?_
  split
  · rename_i absent
    refine refused _ _ (Seen.refl tablet) fun image usable => absent ?_
    obtain ⟨sums, stored, _⟩ := usable.stored
    simp [Store.isDirectory, stored]
  rename_i present
  simp only [wp_bind]
  refine wp_testSums watches _ ?_
  split
  · rename_i absent
    refine refused _ _ (Seen.refl tablet) fun image usable => absent ?_
    obtain ⟨sums, stored, _⟩ := usable.stored
    simp [Store.files, stored]
  rename_i hasSums
  simp only [wp_bind]
  refine wp_testImage watches _ ?_
  split
  · rename_i absent
    refine refused _ _ (Seen.refl tablet) fun image usable => absent ?_
    obtain ⟨sums, stored, _⟩ := usable.stored
    simp [Store.files, stored]
  rename_i hasImage
  -- the set's directory with both files in it
  obtain ⟨image, sums, stored⟩ : ∃ image sums, tablet.store (.live set) =
      some (.directory { image := some image, sums := some sums }) := by
    cases node : tablet.store (.live set) with
    | none => simp [Store.isDirectory, node] at present
    | some node' =>
        cases node' with
        | other => simp [Store.isDirectory, node] at present
        | directory files =>
            rcases files with ⟨_ | image, _ | sums⟩
            · simp [Store.files, node] at hasImage
            · simp [Store.files, node] at hasImage
            · simp [Store.files, node] at hasSums
            · exact ⟨image, sums, rfl⟩
  have unique : ∀ other, Usable device tablet.store set other → other = image := by
    intro other usable
    obtain ⟨_, same, _⟩ := usable.stored
    rw [stored] at same
    simp at same
    exact same.1.symm
  simp only [wp_bind]
  refine wp_catSums watches _ ?_
  refine wp_catImage watches _ ?_
  simp only [Store.files, stored, Option.getD_some]
  split
  · rename_i unlisted
    refine refused _ _ (Seen.refl tablet) fun other usable => ?_
    obtain ⟨list, same, listed⟩ := usable.stored
    rw [stored] at same
    simp at same
    rw [← same.2, unlisted] at listed
    cases listed
  rename_i listed
  simp only [wp_bind]
  refine wp_sha256sum watches _ ?_
  have seen := looked_hashing tablet image
  split
  · rename_i different
    refine refused _ _ seen fun other usable => different ?_
    obtain ⟨list, same, found⟩ := usable.stored
    rw [stored] at same
    simp at same
    rw [same.2, found, same.1]
  rename_i same
  split
  · rename_i large
    refine refused _ _ seen fun other usable => ?_
    have fits := usable.fits
    rw [unique other usable] at fits
    omega
  rename_i fits
  split
  · rename_i other
    refine refused _ _ seen fun candidate usable => other ?_
    rw [← unique candidate usable]
    exact usable.identifies
  rename_i identifies
  apply next none _ seen
  refine ⟨fun _ => ⟨image, ⟨sums, stored, ?_⟩, not_lt.mp fits, not_not.mp identifies⟩, fun _ => rfl⟩
  exact (not_not.mp same).symm

theorem wp_checkSet {returned : Bool → Tablet device.size → Prop}
    (watches : Watches during exited tablet) (set : System) (quiet : Bool)
    (next : ∀ passed after, Seen tablet after →
      (passed = true ↔ ∃ image, Usable device tablet.store set image) → returned passed after) :
    wp (machine device) during exited (checkSet device set quiet) returned tablet := by
  simp only [checkSet, Prog.bind_eq, wp_bind]
  refine wp_checkSetWhy watches set fun why after seen meaning => ?_
  cases why with
  | none =>
      apply next true after seen
      simpa using meaning
  | some why =>
      have failed : returned false after := by
        apply next false after seen
        simpa using meaning
      simp only
      split
      · exact failed
      · simp only [wp_bind]
        exact wp_warn (watches.seen seen) _ failed

theorem wp_paddedSha {returned : Line → Tablet device.size → Prop}
    (watches : Watches during exited tablet) {set : System} {image : Bytes}
    (usable : Usable device tablet.store set image)
    (next : returned (device.sha256.digest (padded device.size image))
      (tablet.note fun history =>
        { history with hashed := padded device.size image :: history.hashed })) :
    wp (machine device) during exited (paddedSha device (.live set)) returned tablet := by
  simp only [paddedSha, Prog.bind_eq, wp_bind]
  refine wp_catImage watches _ ?_
  rw [usable.files]
  exact wp_sha256sum watches _ next

/-- live_is_set, with the padded image among the hashed data when it holds. -/
theorem wp_liveIsSet {returned : Bool → Tablet device.size → Prop}
    (watches : Watches during exited tablet) (live : Live) (set : System)
    (next : ∀ same after, Seen tablet after →
      (same = true ↔ ∃ image, Usable device tablet.store set image ∧
        device.sha256.digest (padded device.size image) = live.full) →
      (∀ image, same = true → Usable device tablet.store set image →
        padded device.size image ∈ after.history.hashed) → returned same after) :
    wp (machine device) during exited (liveIsSet device live set) returned tablet := by
  simp only [liveIsSet, Prog.bind_eq, wp_bind]
  refine wp_checkSet watches set true fun passed after seen meaning => ?_
  cases passed with
  | false =>
      apply next false after seen
      · constructor
        · intro absurdity
          cases absurdity
        · rintro ⟨image, usable, _⟩
          exact meaning.mpr ⟨image, usable⟩
      · intro image absurdity
        cases absurdity
  | true =>
      obtain ⟨image, usable⟩ := meaning.mp rfl
      have store : after.store = tablet.store := seen.looked.store
      simp only [if_true, wp_bind]
      refine wp_paddedSha (watches.seen seen) (store ▸ usable) ?_
      apply next _ _ (seen.trans (looked_hashing after _))
      · rw [decide_eq_true_iff]
        constructor
        · intro same
          exact ⟨image, usable, same⟩
        · rintro ⟨other, otherUsable, same⟩
          rw [usable.unique otherUsable]
          exact same
      · intro other _ otherUsable
        rw [usable.unique otherUsable]
        exact List.mem_cons_self

end Rules

end Liuqin.Switch
