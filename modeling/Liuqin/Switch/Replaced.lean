/-
The replacement of a store set by two renames.

Between the renames no directory has the set's name, and no later run looks at
the one that was moved aside.  Everywhere else the name belongs to the old set
or to a complete new one, and the new one's data is on disk if the sync before
the renames worked.
-/

import Liuqin.Switch.Crash

namespace Liuqin.Switch.Replaced

open Liuqin.Library.Program

section Replaced

variable {device : Device} {set : System} {old : Bytes} {disk : Disk device.size}

/-! ### What holds of the disk -/

/-- No SHA256SUMS failed to be written and no two inputs of sha256sum collide. -/
structure Fair (disk : Disk device.size) : Prop where
  sums : disk.tablet.history.sumsFailed = false
  injective : Set.InjOn device.sha256.digest {data | data ∈ disk.tablet.history.hashed}

theorem Fair.before {operation : Op} {choice : Choice device.size operation} {works : Bool}
    (fair : Fair (disk.after operation choice works)) : Fair disk := by
  have remembers := remembers_react operation choice disk.tablet
  obtain ⟨sums, injective⟩ := fair
  rw [after_tablet] at sums injective
  constructor
  · cases failed : disk.tablet.history.sumsFailed with
    | false => rfl
    | true =>
        rw [remembers.sumsFailed failed] at sums
        cases sums
  · exact injective.mono (fun _ member => remembers.hashed member)

/-- The set's data is on disk unless a sync failed. -/
def Synced (set : System) (disk : Disk device.size) : Prop :=
  disk.syncFailed = false → disk.unsynced (.live set) = false

/-- The set's name belongs to a directory with this image. -/
structure Named (set : System) (image : Bytes) (disk : Disk device.size) : Prop where
  usable : Usable device disk.tablet.store set image
  present : disk.aside set = false
  synced : Synced set disk

/-- It belongs to none. -/
structure Gone (set : System) (disk : Disk device.size) : Prop where
  absent : disk.tablet.store (.live set) = none
  aside : disk.aside set = true
  synced : Synced set disk

/-- The old set is in its place. -/
def Old (set : System) (old : Bytes) (disk : Disk device.size) : Prop :=
  Fair disk → Named set old disk

/-- The old set or the one copied in this run is in its place. -/
def Settled (set : System) (old : Bytes) (disk : Disk device.size) : Prop :=
  Fair disk → ∃ image, (image = old ∨ disk.copied = some image) ∧ Named set image disk

/-- So it is, or none is. -/
def Rests (set : System) (old : Bytes) (disk : Disk device.size) : Prop :=
  Fair disk → (∃ image, (image = old ∨ disk.copied = some image) ∧ Named set image disk) ∨
    Gone set disk

/-- Whether a crash leaves a usable set. -/
structure Recoverable (set : System) (old : Bytes) (disk : Disk device.size) : Prop where
  usable : disk.Usable device set (fun image => image = old ∨ disk.copied = some image) ↔
    disk.aside set = false ∧ disk.unsynced (.live set) = false
  synced : Synced set disk

theorem Old.settled (held : Old set old disk) : Settled set old disk :=
  fun fair => ⟨old, Or.inl rfl, held fair⟩

theorem Settled.rests (settled : Settled set old disk) : Rests set old disk :=
  fun fair => Or.inl (settled fair)

theorem Old.rests (held : Old set old disk) : Rests set old disk := held.settled.rests

theorem usable_named {store : Store} {image : Bytes} (usable : Usable device store set image) :
    store (.live set) ≠ none := by
  obtain ⟨sums, stored, _⟩ := usable.stored
  rw [stored]
  exact Option.some_ne_none _

theorem Rests.recoverable (rests : Rests set old disk) (fair : Fair disk) :
    Recoverable set old disk := by
  rcases rests fair with ⟨image, accepted, named⟩ | gone
  · constructor
    · constructor
      · intro usable
        refine ⟨named.present, ?_⟩
        cases cached : disk.unsynced (.live set) with
        | false => rfl
        | true =>
            -- the data in the cache is lost
            have survives : disk.Survives
                (Function.update disk.tablet.store (.live set) none) := by
              intro place synced
              have different : place ≠ .live set := by
                intro same
                rw [same, cached] at synced
                cases synced
              rw [Function.update_of_ne different]
            obtain ⟨lost, usable, _⟩ := usable _ survives
            exact absurd (Function.update_self ..) (usable_named usable)
      · rintro ⟨_, synced⟩ store survives
        exact ⟨image, named.usable.of_same (survives _ synced), accepted⟩
    · exact named.synced
  · constructor
    · constructor
      · intro usable
        obtain ⟨image, usable, _⟩ := usable _ disk.survives_self
        exact absurd gone.absent (usable_named usable)
      · rintro ⟨present, _⟩
        rw [gone.aside] at present
        cases present
    · exact gone.synced

/-! ### What commands keep -/

section Steps

variable {operation : Op} (untouched : ¬ operation.Touches (.live set))
  (choice : Choice device.size operation) (works : Bool)

include untouched

theorem Synced.step (synced : Synced set disk) : Synced set (disk.after operation choice works) := by
  intro fine
  exact unsynced_untouched untouched choice works
    (synced (syncFailed_after disk operation choice works fine))

theorem Named.step {image : Bytes} (named : Named set image disk) :
    Named set image (disk.after operation choice works) := by
  constructor
  · rw [after_tablet]
    exact named.usable.of_same (store_untouched untouched choice disk.tablet)
  · rw [aside_untouched untouched]
    exact named.present
  · exact named.synced.step untouched choice works

theorem Gone.step (gone : Gone set disk) : Gone set (disk.after operation choice works) := by
  constructor
  · rw [after_tablet, store_untouched untouched choice disk.tablet]
    exact gone.absent
  · rw [aside_untouched untouched]
    exact gone.aside
  · exact gone.synced.step untouched choice works

theorem Old.step (held : Old set old disk) : Old set old (disk.after operation choice works) :=
  fun fair => (held fair.before).step untouched choice works

theorem Settled.step (uncopied : ¬ operation.Copies) (settled : Settled set old disk) :
    Settled set old (disk.after operation choice works) := by
  intro fair
  obtain ⟨image, accepted, named⟩ := settled fair.before
  refine ⟨image, ?_, named.step untouched choice works⟩
  rw [copied_after uncopied]
  exact accepted

theorem Rests.step (uncopied : ¬ operation.Copies) (rests : Rests set old disk) :
    Rests set old (disk.after operation choice works) := by
  intro fair
  rcases rests fair.before with ⟨image, accepted, named⟩ | gone
  · refine Or.inl ⟨image, ?_, named.step untouched choice works⟩
    rw [copied_after uncopied]
    exact accepted
  · exact Or.inr (gone.step untouched choice works)

end Steps

/-! ### Running commands -/

variable (set old) in
/-- At every command and at every exit the disk rests. -/
def Resting {α : Type} (program : Script α) (returned : α → Disk device.size → Prop)
    (disk : Disk device.size) : Prop :=
  wp (crashMachine device) (fun _ => Rests set old) (fun _ => Rests set old) program returned disk

section Rules

variable {α β : Type}

theorem resting_pure {value : α} {returned : α → Disk device.size → Prop}
    (holds : returned value disk) : Resting set old (pure value) returned disk := holds

theorem resting_bind {first : Script α} {next : α → Script β}
    {returned : β → Disk device.size → Prop}
    (holds : Resting set old first (fun value => Resting set old (next value) returned) disk) :
    Resting set old (first >>= next) returned disk :=
  wp_seq holds

theorem resting_run {operation : Op} {returned : Reply operation → Disk device.size → Prop}
    (now : Rests set old disk)
    (kept : ∀ choice works, Rests set old (disk.after operation choice works))
    (next : ∀ choice works, returned (react device operation choice disk.tablet).1
      (disk.after operation choice works)) :
    Resting set old (run operation) returned disk :=
  wp_onDisk operation returned now kept next

/-- A command that leaves the set alone. -/
theorem resting_step {operation : Op} {returned : Reply operation → Disk device.size → Prop}
    (now : Rests set old disk) (untouched : ¬ operation.Touches (.live set))
    (uncopied : ¬ operation.Copies)
    (next : ∀ choice works, returned (react device operation choice disk.tablet).1
      (disk.after operation choice works)) :
    Resting set old (run operation) returned disk := by
  apply resting_run now
  · intro choice works
    exact now.step untouched choice works uncopied
  · exact next

theorem resting_orDie {ok : Prop} {decided : Decidable ok} {text : String}
    {returned : Unit → Disk device.size → Prop} (now : Rests set old disk)
    (holds : ok → returned () disk) : Resting set old (@orDie ok decided text) returned disk := by
  unfold orDie
  by_cases fine : ok
  · rw [if_pos fine]
    exact holds fine
  · rw [if_neg fine]
    apply resting_bind
    apply resting_step now
    · exact id
    · exact id
    · intro _ _
      exact now

/-- A program whose commands all keep something at which the disk rests. -/
theorem resting_frame {allowed : Op → Prop} {leaves : Nat → Prop} {program : Script α}
    {phase : Disk device.size → Prop} {returned : α → Disk device.size → Prop}
    (only : program.Only allowed leaves) (start : phase disk)
    (rests : ∀ disk, phase disk → Rests set old disk)
    (kept : ∀ operation, allowed operation → ∀ (disk : Disk device.size) choice works, phase disk →
      phase (disk.after operation choice works))
    (next : ∀ value after, phase after → returned value after) :
    Resting set old program returned disk := by
  have steps : ∀ operation, allowed operation → ∀ fault disk, phase disk →
      phase ((crashMachine device).perform operation fault disk).2 :=
    fun operation holds fault disk now => kept operation holds disk fault.1.1 fault.2 now
  apply wp_of_only only steps
  · intro operation _ disk now
    exact rests disk now
  · intro status _ disk now
    exact rests disk now
  · exact next
  · exact start

theorem resting_old {leaves : Nat → Prop} {program : Script α}
    {returned : α → Disk device.size → Prop} (only : program.Only Op.Apart leaves)
    (held : Old set old disk) (next : ∀ value after, Old set old after → returned value after) :
    Resting set old program returned disk := by
  apply resting_frame only held
  · intro disk held
    exact held.rests
  · intro operation apart disk choice works held
    exact held.step (apart.untouched _) choice works
  · exact next

theorem resting_settled {leaves : Nat → Prop} {program : Script α}
    {returned : α → Disk device.size → Prop} (only : program.Only Op.Apart leaves)
    (settled : Settled set old disk)
    (next : ∀ value after, Settled set old after → returned value after) :
    Resting set old program returned disk := by
  apply resting_frame only settled
  · intro disk settled
    exact settled.rests
  · intro operation apart disk choice works settled
    exact settled.step (apart.untouched _) choice works apart.uncopied
  · exact next

end Rules

/-! ### The renames -/

/-- A complete new set waits in the staging directory. -/
structure Staged (set : System) (image : Bytes) (disk : Disk device.size) : Prop where
  stored : ∃ sums, disk.tablet.store (.staging set) =
      some (.directory { image := some image, sums := some sums }) ∧
    sumsLookup sums = some (device.sha256.digest image)
  fits : image.length ≤ device.size
  identifies : classifyImage device.shellBits image = some set
  copied : disk.copied = some image

theorem Staged.step {image : Bytes} {operation : Op}
    (untouched : ¬ operation.Touches (.staging set)) (uncopied : ¬ operation.Copies)
    (choice : Choice device.size operation) (works : Bool) (staged : Staged set image disk) :
    Staged set image (disk.after operation choice works) := by
  constructor
  · rw [after_tablet, store_untouched untouched choice disk.tablet]
    exact staged.stored
  · exact staged.fits
  · exact staged.identifies
  · rw [copied_after uncopied]
    exact staged.copied

/-- Before the renames, the data synced. -/
structure Ready (set : System) (old image : Bytes) (disk : Disk device.size) : Prop where
  named : Named set old disk
  staged : Staged set image disk
  synced : disk.syncFailed = false → disk.unsynced (.staging set) = false

/-- Between the renames. -/
structure Between (set : System) (image : Bytes) (disk : Disk device.size) : Prop where
  gone : Gone set disk
  staged : Staged set image disk
  synced : disk.syncFailed = false → disk.unsynced (.staging set) = false

theorem Ready.step {image : Bytes} {operation : Op} (ready : Ready set old image disk)
    (untouched : ¬ operation.Touches (.live set)) (apart : ¬ operation.Touches (.staging set))
    (uncopied : ¬ operation.Copies) (choice : Choice device.size operation) (works : Bool) :
    Ready set old image (disk.after operation choice works) := by
  constructor
  · exact ready.named.step untouched choice works
  · exact ready.staged.step apart uncopied choice works
  · intro fine
    exact unsynced_untouched apart choice works
      (ready.synced (syncFailed_after disk operation choice works fine))

/-- The old set is moved aside. -/
theorem Ready.aside {image : Bytes} {works : Choice device.size (.move (.live set) (.old set))}
    {written : Bool} (ready : Ready set old image disk)
    (moved : (react device (.move (.live set) (.old set)) works disk.tablet).1 = true) :
    Between set image (disk.after (.move (.live set) (.old set)) works written) := by
  have unstaged : ¬ (Op.move (.live set) (.old set)).Touches (.staging set) := by
    rintro (same | same)
    · cases same
    · cases same
  have renamed : disk.after (.move (.live set) (.old set)) works written =
      { disk with tablet := (react device (.move (.live set) (.old set)) works disk.tablet).2 }.rename
        (.live set) (.old set) := by
    rw [Disk.after]
    simp only [Disk.record, moved, cond_true]
  constructor
  · constructor
    · rw [after_tablet]
      exact move_away moved
    · rw [renamed]
      simp [Disk.rename]
    · intro _
      rw [renamed]
      simp [Disk.rename]
  · exact ready.staged.step unstaged id works written
  · intro fine
    exact unsynced_untouched unstaged works written
      (ready.synced (syncFailed_after disk _ works written fine))

/-- The new one takes its name. -/
theorem Between.placed {image : Bytes}
    {works : Choice device.size (.move (.staging set) (.live set))} {written : Bool} (between : Between set image disk)
    (moved : (react device (.move (.staging set) (.live set)) works disk.tablet).1 = true) :
    Named set image (disk.after (.move (.staging set) (.live set)) works written) ∧
      (disk.after (.move (.staging set) (.live set)) works written).copied = some image := by
  have renamed : disk.after (.move (.staging set) (.live set)) works written =
      { disk with
        tablet := (react device (.move (.staging set) (.live set)) works disk.tablet).2 }.rename
        (.staging set) (.live set) := by
    rw [Disk.after]
    simp only [Disk.record, moved, cond_true]
  obtain ⟨sums, stored, found⟩ := between.staged.stored
  have free : disk.tablet.store.isDirectory (.live set) = false := by
    rw [Store.isDirectory, between.gone.absent]
  constructor
  · constructor
    · rw [after_tablet]
      constructor
      · exact ⟨sums, move_into (by simp) stored free moved, found⟩
      · exact between.staged.fits
      · exact between.staged.identifies
    · rw [renamed]
      simp [Disk.rename]
    · intro fine
      have before := syncFailed_after disk _ works written fine
      rw [renamed]
      simp [Disk.rename, between.gone.synced before, between.synced before]
  · rw [copied_after id]
    exact between.staged.copied

/-- A move that fails changes nothing. -/
theorem move_failed {source target : Place} {works : Choice device.size (.move source target)}
    {written : Bool}
    (failed : (react device (.move source target) works disk.tablet).1 = false) :
    disk.after (.move source target) works written = disk := by
  have same : (react device (.move source target) works disk.tablet).2 = disk.tablet := by
    simp only [react] at failed ⊢
    split at failed
    · cases failed
    · cases failed
    · cases failed
    · rfl
  rw [Disk.after]
  simp only [Disk.record, failed, cond_false, same]

theorem Between.rests {image : Bytes} (between : Fair disk → Between set image disk) :
    Rests set old disk :=
  fun fair => Or.inr (between fair).gone

theorem Ready.rests {image : Bytes} (ready : Fair disk → Ready set old image disk) :
    Rests set old disk :=
  fun fair => Or.inl ⟨old, Or.inl rfl, (ready fair).named⟩

/-- A command of the staging or of the old directory. -/
theorem resting_elsewhere {operation : Op} {image : Bytes}
    {returned : Reply operation → Disk device.size → Prop}
    (ready : Fair disk → Ready set old image disk) (untouched : ¬ operation.Touches (.live set))
    (apart : ¬ operation.Touches (.staging set)) (uncopied : ¬ operation.Copies)
    (next : ∀ choice works,
      (Fair (disk.after operation choice works) → Ready set old image (disk.after operation choice works)) →
        returned (react device operation choice disk.tablet).1 (disk.after operation choice works)) :
    Resting set old (run operation) returned disk := by
  apply resting_step (Ready.rests ready) untouched uncopied
  intro choice works
  apply next
  intro fair
  exact (ready fair.before).step untouched apart uncopied choice works

theorem resting_placed {image : Bytes} {returned : Unit → Disk device.size → Prop}
    (between : Fair disk → Between set image disk)
    (next : ∀ after, Settled set old after → returned () after) :
    Resting set old (do
      let placed ← move (.staging set) (.live set)
      orDie placed ("cannot move store/." ++ set.name ++ ".new into place")
      removeTree (.old set)
      sync
      criticalEnd) returned disk := by
  apply resting_bind
  have outcome : ∀ choice works,
      (react device (.move (.staging set) (.live set)) choice disk.tablet).1 = true →
        Settled set old (disk.after (.move (.staging set) (.live set)) choice works) := by
    intro choice works moved fair
    obtain ⟨named, copied⟩ := (between fair.before).placed moved
    exact ⟨image, Or.inr copied, named⟩
  apply resting_run (Between.rests between)
  · intro choice works
    cases moved : (react device (.move (.staging set) (.live set)) choice disk.tablet).1 with
    | true => exact (outcome choice works moved).rests
    | false =>
        rw [move_failed moved]
        exact Between.rests between
  · intro choice works
    cases moved : (react device (.move (.staging set) (.live set)) choice disk.tablet).1 with
    | false =>
        rw [move_failed moved]
        apply resting_bind
        apply resting_orDie (Between.rests between)
        intro impossible
        cases impossible
    | true =>
        have settled := outcome choice works moved
        apply resting_bind
        apply resting_orDie settled.rests
        intro _
        have apart : ¬ (Op.removeTree (.old set)).Touches (.live set) := by
          intro same
          cases same
        apply resting_bind
        apply resting_step settled.rests apart id
        intro torn written
        have calm : (sync >>= fun _ => criticalEnd).Only Op.Apart Fails :=
          Prog.only_bind (only_run trivial) fun _ => only_run trivial
        apply resting_settled calm (settled.step apart torn written id)
        intro _ after settled
        exact next after settled

/-- A complete new set waits and the old one is in its place. -/
def Waiting (set : System) (old image : Bytes) (disk : Disk device.size) : Prop :=
  Fair disk → Named set old disk ∧ Staged set image disk

theorem Waiting.rests {image : Bytes} (waiting : Waiting set old image disk) :
    Rests set old disk :=
  fun fair => Or.inl ⟨old, Or.inl rfl, (waiting fair).1⟩

theorem Waiting.step {image : Bytes} {operation : Op} (waiting : Waiting set old image disk)
    (apart : operation.Apart) (choice : Choice device.size operation) (works : Bool) :
    Waiting set old image (disk.after operation choice works) := by
  intro fair
  obtain ⟨named, staged⟩ := waiting fair.before
  constructor
  · exact named.step (apart.untouched _) choice works
  · exact staged.step (apart.untouched _) apart.uncopied choice works

theorem resting_waiting {α : Type} {image : Bytes} {program : Script α}
    {returned : α → Disk device.size → Prop} (only : program.Only Op.Apart Fails)
    (waiting : Waiting set old image disk)
    (next : ∀ value after, Waiting set old image after → returned value after) :
    Resting set old program returned disk := by
  apply resting_frame only waiting
  · intro disk waiting
    exact waiting.rests
  · intro operation apart disk choice works waiting
    exact waiting.step apart choice works
  · exact next

/-- The sync before the renames. -/
theorem resting_sync {image : Bytes} {returned : Unit → Disk device.size → Prop}
    (waiting : Waiting set old image disk)
    (next : ∀ after, (Fair after → Ready set old image after) → returned () after) :
    Resting set old sync returned disk := by
  have calm : Op.Apart .sync := trivial
  apply resting_run waiting.rests
  · intro choice works
    exact (waiting.step calm choice works).rests
  · intro choice works
    apply next
    intro fair
    obtain ⟨named, staged⟩ := waiting.step calm choice works fair
    constructor
    · exact named
    · exact staged
    · intro fine
      cases works with
      | true => rfl
      | false => cases fine

theorem resting_aside {image : Bytes} {rest : Script Unit}
    {returned : Unit → Disk device.size → Prop} (ready : Fair disk → Ready set old image disk)
    (next : ∀ after, (Fair after → Between set image after) → Resting set old rest returned after) :
    Resting set old (do
      let present ← testDirectory (.live set)
      let aside ← (if present then move (.live set) (.old set) else pure true)
      orDie aside ("cannot move store/" ++ set.name ++ " aside")
      rest) returned disk := by
  apply resting_bind
  apply resting_elsewhere ready id id id
  intro choice works ready
  change Resting set old (do
    let aside ← (if disk.tablet.store.isDirectory (.live set) then
      move (.live set) (.old set) else pure true)
    orDie aside ("cannot move store/" ++ set.name ++ " aside")
    rest) returned disk
  change Fair disk → Ready set old image disk at ready
  apply resting_bind
  cases present : disk.tablet.store.isDirectory (.live set) with
  | false =>
      -- a usable set is a directory
      apply resting_bind
      apply resting_orDie (Ready.rests ready)
      intro _
      apply next
      intro fair
      obtain ⟨sums, stored, _⟩ := (ready fair).named.usable.stored
      rw [(isDirectory_iff _ _).mpr ⟨_, stored⟩] at present
      cases present
  | true =>
      have outcome : ∀ choice works,
          (react device (.move (.live set) (.old set)) choice disk.tablet).1 = true →
            Fair (disk.after (.move (.live set) (.old set)) choice works) →
              Between set image (disk.after (.move (.live set) (.old set)) choice works) :=
        fun choice works moved fair => (ready fair.before).aside moved
      apply resting_run (Ready.rests ready)
      · intro choice works
        cases moved : (react device (.move (.live set) (.old set)) choice disk.tablet).1 with
        | true => exact Between.rests (outcome choice works moved)
        | false =>
            rw [move_failed moved]
            exact Ready.rests ready
      · intro choice works
        apply resting_bind
        cases moved : (react device (.move (.live set) (.old set)) choice disk.tablet).1 with
        | true =>
            apply resting_orDie (Between.rests (outcome choice works moved))
            intro _
            exact next _ (outcome choice works moved)
        | false =>
            rw [move_failed moved]
            apply resting_orDie (Ready.rests ready)
            intro impossible
            cases impossible

theorem resting_commitSet {image : Bytes} {returned : Unit → Disk device.size → Prop}
    (waiting : Waiting set old image disk)
    (next : ∀ after, Settled set old after → returned () after) :
    Resting set old (commitSet set) returned disk := by
  have begins : criticalBegin.Only Op.Apart Fails := only_run trivial
  apply resting_bind
  apply resting_waiting begins waiting
  intro _ disk waiting
  apply resting_bind
  apply resting_sync waiting
  intro disk ready
  apply resting_bind
  apply resting_elsewhere ready
  · intro same
    cases same
  · intro same
    cases same
  · exact id
  · intro choice works ready
    apply resting_aside ready
    intro after between
    exact resting_placed between next

/-! ### The staging directory -/

/-- An image has been copied into the staging directory. -/
structure Filled (set : System) (old image : Bytes) (disk : Disk device.size) : Prop where
  held : Old set old disk
  stored : ∃ sums, disk.tablet.store (.staging set) =
    some (.directory { image := some image, sums := sums })
  copied : disk.copied = some image

theorem Filled.step {image : Bytes} {operation : Op} (filled : Filled set old image disk)
    (apart : operation.Apart) (choice : Choice device.size operation) (works : Bool) :
    Filled set old image (disk.after operation choice works) := by
  constructor
  · exact filled.held.step (apart.untouched _) choice works
  · rw [after_tablet, store_untouched (apart.untouched _) choice disk.tablet]
    exact filled.stored
  · rw [copied_after apart.uncopied]
    exact filled.copied

theorem staging_apart {operation : Op} (stages : operation = .removeTree (.staging set) ∨
    operation = .makeTree (.staging set)) : ¬ operation.Touches (.live set) ∧ ¬ operation.Copies := by
  rcases stages with rfl | rfl
  · constructor
    · intro same
      cases same
    · exact id
  · constructor
    · intro same
      cases same
    · exact id

/-- A fresh staging directory. -/
theorem resting_staging {α : Type} {rest : Script α} {returned : α → Disk device.size → Prop}
    {text : String} (held : Old set old disk)
    (next : ∀ after, Old set old after →
      (∃ files, after.tablet.store (.staging set) = some (.directory files)) →
        Resting set old rest returned after) :
    Resting set old (do
      removeTree (.staging set)
      let made ← makeTree (.staging set)
      orDie made text
      rest) returned disk := by
  obtain ⟨notRemoved, notCopied⟩ : ¬ (Op.removeTree (.staging set)).Touches (.live set) ∧
      ¬ (Op.removeTree (.staging set)).Copies := staging_apart (Or.inl rfl)
  apply resting_bind
  apply resting_step held.rests notRemoved notCopied
  intro torn written
  have held := held.step notRemoved torn written
  obtain ⟨notMade, notCopied⟩ : ¬ (Op.makeTree (.staging set)).Touches (.live set) ∧
      ¬ (Op.makeTree (.staging set)).Copies := staging_apart (Or.inr rfl)
  apply resting_bind
  apply resting_step held.rests notMade notCopied
  intro choice works
  have held := held.step notMade choice works
  apply resting_bind
  apply resting_orDie held.rests
  intro made
  apply next _ held
  rw [after_tablet]
  exact makeTree_directory made

/-- A disk with an image copied into the staging directory. -/
theorem filled_copy {tablet : Tablet device.size} {stored : Bytes} {files : SetFiles}
    {after : Disk device.size} (held : Old set old after)
    (directory : tablet.store (.staging set) = some (.directory files))
    (copies : after.tablet = tablet.place (.staging set)
      (editFiles tablet.store (.staging set) fun files => { files with image := some stored }))
    (copied : after.copied = (after.tablet.store.files (.staging set)).image) :
    Filled set old stored after := by
  have filled : after.tablet.store (.staging set) =
      some (.directory { image := some stored, sums := files.sums }) := by
    rw [copies]
    simp [Tablet.place, editFiles, directory]
  constructor
  · exact held
  · exact ⟨files.sums, filled⟩
  · rw [copied, Store.files, filled]

theorem archive_apart {count : Nat} : ¬ (Op.archive (.staging set) count).Touches (.live set) := by
  intro same
  cases same

theorem copyIn_apart {data : Bytes} : ¬ (Op.copyIn (.staging set) data).Touches (.live set) := by
  intro same
  cases same

/-- dd from boot_a. -/
theorem resting_archive {count : Nat} {files : SetFiles}
    {returned : Bool → Disk device.size → Prop} (held : Old set old disk)
    (directory : disk.tablet.store (.staging set) = some (.directory files))
    (next : ∀ image ok after, Filled set old image after →
      (ok = true → image.length = (range disk.tablet.boot.toList 0 count).length) →
        returned ok after) :
    Resting set old (archive (.staging set) count) returned disk := by
  have fills : ∀ (choice : Nat × Bytes × Bool) works,
      Filled set old choice.2.1 (disk.after (.archive (.staging set) count) choice works) := by
    intro choice works
    have apart : ¬ (Op.archive (.staging set) count).Touches (.live set) := archive_apart
    have after := held.step apart choice works
    exact filled_copy after directory rfl rfl
  apply resting_run held.rests
  · intro choice works
    exact (fills choice works).held.rests
  · rintro ⟨delivered, stored, complete⟩ works
    apply next _ _ _ (fills (delivered, stored, complete) works)
    intro ok
    simp only [react, Bool.and_eq_true, beq_iff_eq] at ok
    exact ok.2

/-- cp from a file. -/
theorem resting_copyIn {data : Bytes} {files : SetFiles}
    {returned : Bool → Disk device.size → Prop} (held : Old set old disk)
    (directory : disk.tablet.store (.staging set) = some (.directory files))
    (next : ∀ image ok after, Filled set old image after →
      (ok = true → image.length = data.length) → returned ok after) :
    Resting set old (copyIn (.staging set) data) returned disk := by
  have fills : ∀ (choice : Bytes × Bool) works,
      Filled set old choice.1 (disk.after (.copyIn (.staging set) data) choice works) := by
    intro choice works
    have apart : ¬ (Op.copyIn (.staging set) data).Touches (.live set) := copyIn_apart
    have after := held.step apart choice works
    exact filled_copy after directory rfl rfl
  apply resting_run held.rests
  · intro choice works
    exact (fills choice works).held.rests
  · rintro ⟨stored, complete⟩ works
    apply next _ _ _ (fills (stored, complete) works)
    intro ok
    simp only [react, Bool.and_eq_true, beq_iff_eq] at ok
    exact ok.2

theorem resting_catStaged {image : Bytes} {returned : Bytes → Disk device.size → Prop}
    (filled : Filled set old image disk)
    (next : ∀ after, Filled set old image after →
      disk.tablet.history.hashed ⊆ after.tablet.history.hashed → returned image after) :
    Resting set old (catImage (.staging set)) returned disk := by
  apply resting_step filled.held.rests id id
  intro choice works
  obtain ⟨sums, stored⟩ := filled.stored
  have calm : Op.Apart (.catImage (.staging set)) := trivial
  have found : (react device (.catImage (.staging set)) choice disk.tablet).1 = image := by
    change (disk.tablet.store.files (.staging set)).image.getD [] = image
    rw [Store.files, stored]
    rfl
  rw [found]
  apply next
  · exact filled.step calm choice works
  · rw [after_tablet]
    exact (remembers_react _ choice disk.tablet).hashed

theorem resting_hash {image data : Bytes} {returned : Line → Disk device.size → Prop}
    (filled : Filled set old image disk)
    (next : ∀ after, Filled set old image after →
      disk.tablet.history.hashed ⊆ after.tablet.history.hashed →
      data ∈ after.tablet.history.hashed → returned (device.sha256.digest data) after) :
    Resting set old (sha256sum data) returned disk := by
  have calm : Op.Apart (.sha256sum data) := trivial
  apply resting_step filled.held.rests id id
  intro choice works
  apply next
  · exact filled.step calm choice works
  · rw [after_tablet]
    exact (remembers_react _ choice disk.tablet).hashed
  · rw [after_tablet]
    exact List.mem_cons_self

theorem writeSums_stored {place : Place} {line : Line} {choice : Bool × Option (List Line)}
    {tablet : Tablet device.size} {image : Bytes} {sums : Option (List Line)}
    (stored : tablet.store place = some (.directory { image := some image, sums := sums }))
    (fine : (react device (.writeSums place line) choice tablet).2.history.sumsFailed = false) :
    (react device (.writeSums place line) choice tablet).2.store place =
      some (.directory { image := some image, sums := some [line] }) := by
  obtain ⟨ok, leftover⟩ := choice
  simp only [react, Tablet.note, Bool.or_eq_false_iff, Bool.not_eq_false'] at fine
  simp [react, Tablet.place, Tablet.note, editFiles, stored, fine.2]

/-- SHA256SUMS, meta.json and the renames. -/
theorem resting_sums {α : Type} {image : Bytes} {rest : Script α}
    {returned : α → Disk device.size → Prop} (filled : Filled set old image disk) (fits : image.length ≤ device.size)
    (identifies : Fair disk → classifyImage device.shellBits image = some set)
    (next : ∀ after, Settled set old after → Resting set old rest returned after) :
    Resting set old (do
      writeSums (.staging set) (sumsLine (device.sha256.digest image))
      writeMeta (.staging set)
      commitSet set
      rest) returned disk := by
  have apart : ¬ (Op.writeSums (.staging set) (sumsLine (device.sha256.digest image))).Touches
      (.live set) := by
    intro same
    cases same
  apply resting_bind
  apply resting_step filled.held.rests apart id
  intro choice works
  have waiting : Waiting set old image (disk.after (.writeSums (.staging set)
      (sumsLine (device.sha256.digest image))) choice works) := by
    intro fair
    have named := filled.held.step apart choice works fair
    refine ⟨named, ?_⟩
    have fine := fair.sums
    rw [after_tablet] at fine
    obtain ⟨earlier, stored⟩ := filled.stored
    constructor
    · refine ⟨[sumsLine (device.sha256.digest image)], ?_, sumsLookup_sumsLine device.sha256 image⟩
      rw [after_tablet]
      exact writeSums_stored stored fine
    · exact fits
    · exact identifies fair.before
    · rw [copied_after id]
      exact filled.copied
  have describes : (writeMeta (.staging set)).Only Op.Apart Fails := only_run trivial
  apply resting_bind
  apply resting_waiting describes waiting
  intro _ disk waiting
  apply resting_bind
  apply resting_commitSet waiting
  exact next

/-! ### The commands -/

theorem resting_stash {session : Session} (same : session.device = device) {live : Live}
    {returned : Unit → Disk device.size → Prop} (held : Old .android old disk)
    (next : ∀ after, Settled .android old after → returned () after) :
    Resting .android old (stashLive session live) returned disk := by
  subst same
  unfold stashLive
  have tells : ∀ text, (say text).Only Op.Apart Fails := fun _ => only_run trivial
  by_cases dry : session.dryRun = true
  · rw [if_pos dry]
    apply resting_old (tells _) held
    intro _ after held
    exact next after held.settled
  · rw [if_neg dry]
    have opens : (requireWritableStore session).Only Op.Apart Fails :=
      Prog.only_mono (only_requireWritableStore session) (fun _ observes => observes.apart)
        (fun _ => id)
    apply resting_bind
    apply resting_old opens held
    intro _ disk held
    apply resting_staging held
    rintro disk held ⟨files, directory⟩
    apply resting_bind
    apply resting_archive held directory
    intro image copied disk filled full
    apply resting_bind
    apply resting_orDie filled.held.rests
    intro isCopied
    apply resting_bind
    apply resting_catStaged filled
    intro disk filled _
    apply resting_bind
    apply resting_hash filled
    intro disk filled _ _
    apply resting_bind
    apply resting_orDie filled.held.rests
    intro _
    apply resting_bind
    apply resting_orDie filled.held.rests
    intro identifies
    apply resting_sums filled
    · rw [full isCopied, archive_length]
      exact Nat.div_mul_le_self _ _
    · intro _
      exact identifies
    · intro disk settled
      apply resting_settled (tells _) settled
      intro _ after settled
      exact next after settled

theorem resting_import {session : Session} (same : session.device = device) {file : Option Bytes}
    {returned : Bool → Disk device.size → Prop} (held : Old .android old disk)
    (next : ∀ ended after, Settled .android old after → returned ended after) :
    Resting .android old (cmdImportAndroid session file) returned disk := by
  subst same
  unfold cmdImportAndroid
  have tells : ∀ text, (say text).Only Op.Apart Fails := fun _ => only_run trivial
  cases file with
  | none =>
      have dies : (die "no such file" : Script Bool).Only Op.Apart Fails :=
        only_die (fun _ => trivial) _
      apply resting_old dies held
      intro _ after held
      exact next _ after held.settled
  | some data =>
      apply resting_bind
      apply resting_orDie held.rests
      intro identifies
      apply resting_bind
      apply resting_orDie held.rests
      intro fits
      split
      · apply resting_bind
        apply resting_old (tells _) held
        intro _ after held
        exact next true after held.settled
      · have opens : (requireWritableStore session).Only Op.Apart Fails :=
          Prog.only_mono (only_requireWritableStore session) (fun _ observes => observes.apart)
            (fun _ => id)
        apply resting_bind
        apply resting_old opens held
        intro _ disk held
        apply resting_staging held
        rintro disk held ⟨files, directory⟩
        apply resting_bind
        apply resting_copyIn held directory
        intro image copied disk filled full
        apply resting_bind
        apply resting_orDie filled.held.rests
        intro isCopied
        apply resting_bind
        apply resting_catStaged filled
        intro disk filled _
        apply resting_bind
        apply resting_hash filled
        intro disk filled _ staged
        apply resting_bind
        apply resting_hash filled
        intro disk filled kept source
        apply resting_bind
        apply resting_orDie filled.held.rests
        intro digest
        apply resting_sums filled
        · rw [full isCopied]
          exact fits
        · intro fair
          have same : image = data := fair.injective (kept staged) source digest
          rw [same]
          exact identifies
        · intro disk settled
          apply resting_bind
          apply resting_settled (tells _) settled
          intro _ after settled
          exact next true after settled

end Replaced

end Liuqin.Switch.Replaced
