/-
What stash_live leaves in the store.

Up to the renames nothing but the staging directory changes.  An archive that
gets as far as the renames is as long as the partition's whole MiB and has the
digest compute_live found; when stash_live comes back it is the live set.
-/

import Liuqin.Switch.Reading

namespace Liuqin.Switch

open Liuqin.Library.Program

section Archive

variable {device : Device} {during : Op → Tablet device.size → Prop}
  {exited : Nat → Tablet device.size → Prop}

/-- Commands on the Android set, and failing, are harmless where this holds. -/
def Endures (during : Op → Tablet device.size → Prop)
    (exited : Nat → Tablet device.size → Prop) (phase : Tablet device.size → Prop) : Prop :=
  ∀ after, phase after →
    (∀ operation : Op, operation.Stores .android → during operation after) ∧
      ∀ status, status ≠ 0 → exited status after

section Phase

variable {phase : Tablet device.size → Prop} {tablet : Tablet device.size}

theorem wp_stage {operation : Op} {returned : Reply operation → Tablet device.size → Prop}
    (endures : Endures during exited phase) (stores : operation.Stores .android)
    (now : phase tablet) (kept : ∀ choice, phase (react device operation choice tablet).2)
    (next : ∀ choice, phase (react device operation choice tablet).2 →
      returned (react device operation choice tablet).1 (react device operation choice tablet).2) :
    wp (machine device) during exited (run operation) returned tablet := by
  apply wp_run operation returned
  · exact (endures tablet now).1 operation stores
  · exact fun _ choice => (endures _ (kept choice)).2 130 (by decide)
  · exact fun choice => next choice (kept choice)

theorem wp_stageOrDie {returned : Unit → Tablet device.size → Prop}
    (endures : Endures during exited phase) (now : phase tablet) (ok : Prop) [Decidable ok]
    (text : String) (next : ok → returned () tablet) :
    wp (machine device) during exited (orDie ok text) returned tablet := by
  rw [orDie]
  split
  · rename_i holds
    exact next holds
  · rw [die, Prog.bind_eq, wp_bind]
    refine wp_stage endures trivial now (fun _ => now) fun _ _ => ?_
    exact (endures tablet now).2 1 (by decide)

end Phase

/-! ### Directories -/

theorem isDirectory_iff (store : Store) (place : Place) :
    store.isDirectory place = true ↔ ∃ files, store place = some (.directory files) := by
  unfold Store.isDirectory
  split
  · rename_i files found
    simp [found]
  · rename_i other
    simp only [Bool.false_eq_true, false_iff]
    rintro ⟨files, found⟩
    exact other files found

theorem live_ne_staging (set : System) : Place.live set ≠ .staging .android := by
  simp

theorem place_elsewhere {size : Nat} (tablet : Tablet size) {place other : Place}
    (node : Option Node) (different : other ≠ place) :
    (tablet.place place node).store other = tablet.store other := by
  simp only [Tablet.place, Function.update_of_ne different]

/-- A directory moved away leaves its place empty. -/
theorem move_away {source target : Place} {works : Bool} {tablet : Tablet device.size}
    (ok : (react device (.move source target) works tablet).1 = true) :
    (react device (.move source target) works tablet).2.store source = none := by
  simp only [react] at ok ⊢
  split at ok
  · simp [Tablet.place]
  · simp [Tablet.place]
  · simp [Tablet.place]
  · cases ok

/-- A directory moved to a place without one is there afterwards. -/
theorem move_into {source target : Place} {works : Bool} {tablet : Tablet device.size}
    {files : SetFiles} (different : target ≠ source)
    (found : tablet.store source = some (.directory files))
    (free : tablet.store.isDirectory target = false)
    (ok : (react device (.move source target) works tablet).1 = true) :
    (react device (.move source target) works tablet).2.store target =
      some (.directory files) := by
  have noDirectory : ∀ other, tablet.store target ≠ some (.directory other) := by
    intro other present
    have directory := (isDirectory_iff tablet.store target).mpr ⟨other, present⟩
    rw [free] at directory
    cases directory
  simp only [react, found] at ok ⊢
  split at ok
  · rename_i other present
    exact absurd present (noDirectory _)
  · rename_i impossible _
    cases impossible
  · rename_i node same _
    cases same
    simp [Tablet.place, Function.update_of_ne different]
  · cases ok

theorem move_elsewhere {source target other : Place} (works : Bool) (tablet : Tablet device.size)
    (notSource : other ≠ source) (notTarget : other ≠ target) :
    (react device (.move source target) works tablet).2.store other = tablet.store other := by
  simp only [react]
  split <;> simp [Tablet.place, Function.update_of_ne notSource, Function.update_of_ne notTarget]

theorem move_history (source target : Place) (works : Bool) (tablet : Tablet device.size) :
    (react device (.move source target) works tablet).2.history = tablet.history := by
  simp only [react]
  split <;> rfl

theorem makeTree_elsewhere {place other : Place} (works : Bool) (tablet : Tablet device.size)
    (different : other ≠ place) :
    (react device (.makeTree place) works tablet).2.store other = tablet.store other := by
  simp only [react]
  split
  · rfl
  · rfl
  · cases works with
    | false => rfl
    | true => simp [Tablet.place, Function.update_of_ne different]

theorem makeTree_directory {place : Place} {works : Bool} {tablet : Tablet device.size}
    (ok : (react device (.makeTree place) works tablet).1 = true) :
    ∃ files, (react device (.makeTree place) works tablet).2.store place =
      some (.directory files) := by
  simp only [react] at ok ⊢
  split at ok
  · rename_i files found
    exact ⟨files, found⟩
  · cases ok
  · cases works with
    | false => cases ok
    | true => exact ⟨{ image := none, sums := none }, by simp [Tablet.place]⟩

section Rules

variable {phase : Tablet device.size → Prop} {tablet : Tablet device.size}

theorem wp_removeTree {place : Place} {returned : Unit → Tablet device.size → Prop}
    (endures : Endures during exited phase) (android : place.set = .android) (now : phase tablet)
    (kept : ∀ choice, phase (react device (.removeTree place) choice tablet).2)
    (next : ∀ after, phase after → after.history = tablet.history →
      (∀ other, other ≠ place → after.store other = tablet.store other) → returned () after) :
    wp (machine device) during exited (removeTree place) returned tablet := by
  refine wp_stage endures android now kept fun choice later => ?_
  exact next _ later rfl fun other different => place_elsewhere tablet _ different

theorem wp_makeTree {place : Place} {returned : Bool → Tablet device.size → Prop}
    (endures : Endures during exited phase) (android : place.set = .android) (now : phase tablet)
    (kept : ∀ choice, phase (react device (.makeTree place) choice tablet).2)
    (next : ∀ ok after, phase after →
      (ok = true → ∃ files, after.store place = some (.directory files)) → returned ok after) :
    wp (machine device) during exited (makeTree place) returned tablet :=
  wp_stage endures android now kept fun _ later => next _ _ later makeTree_directory

theorem wp_move {source target : Place} {returned : Bool → Tablet device.size → Prop}
    (endures : Endures during exited phase) (android : source.set = .android ∧ target.set = .android)
    (different : target ≠ source) (now : phase tablet)
    (kept : ∀ choice, phase (react device (.move source target) choice tablet).2)
    (next : ∀ ok after, phase after → after.history = tablet.history →
      (∀ other, other ≠ source → other ≠ target → after.store other = tablet.store other) →
      (ok = true → after.store source = none) →
      (ok = true → ∀ files, tablet.store source = some (.directory files) →
        tablet.store.isDirectory target = false → after.store target = some (.directory files)) →
      returned ok after) :
    wp (machine device) during exited (move source target) returned tablet := by
  refine wp_stage endures android now kept fun works later => ?_
  apply next _ _ later (move_history source target works tablet)
  · exact fun other notSource notTarget => move_elsewhere works tablet notSource notTarget
  · exact move_away
  · exact fun ok files found free => move_into different found free ok

end Rules

/-! ### The phases -/

/-- Before the renames: boot_a and the live sets are as they were. -/
structure Staged (before after : Tablet device.size) : Prop where
  stored : Stored before after
  live : ∀ set, after.store (.live set) = before.store (.live set)

/-- A full-length archive with the digest compute_live found. -/
structure Matches (live : Live) (image : Bytes) (tablet : Tablet device.size) : Prop where
  length : image.length = device.size / 1048576 * 1048576
  digest : device.sha256.digest image = live.full
  hashed : image ∈ tablet.history.hashed
  identifies : classifyImage device.shellBits image = some .android

/-- From the renames on: boot_a is as it was, and the archive matched. -/
structure Committing (before : Tablet device.size) (live : Live) (image : Bytes)
    (after : Tablet device.size) : Prop where
  stored : Stored before after
  ubuntu : after.store (.live .ubuntu) = before.store (.live .ubuntu)
  archive : Matches live image after

/-- The archive in a directory; its SHA256SUMS names it unless the write of
that file failed. -/
def Filed (place : Place) (image : Bytes) (tablet : Tablet device.size) : Prop :=
  ∃ sums, tablet.store place = some (.directory { image := some image, sums := sums }) ∧
    (tablet.history.sumsFailed = false →
      sums = some [sumsLine (device.sha256.digest image)])

section Steps

variable {before tablet : Tablet device.size} {live : Live} {image : Bytes}

theorem Staged.refl (tablet : Tablet device.size) : Staged tablet tablet :=
  ⟨(Looked.refl tablet).stored, fun _ => rfl⟩

theorem Staged.looked (staged : Staged before tablet) {after : Tablet device.size}
    (looked : Looked tablet after) : Staged before after :=
  ⟨staged.stored.trans looked.stored, fun set => by rw [looked.store, staged.live]⟩

theorem Staged.place (staged : Staged before tablet) (node : Option Node) :
    Staged before (tablet.place (.staging .android) node) :=
  ⟨staged.stored.trans (stored_place tablet _ node), fun set => by
    rw [place_elsewhere tablet node (live_ne_staging set), staged.live]⟩

theorem Staged.sums (staged : Staged before tablet) (ok : Bool) :
    Staged before (tablet.note fun history =>
      { history with sumsFailed := history.sumsFailed || !ok }) :=
  ⟨staged.stored.trans (stored_sums tablet ok), staged.live⟩

theorem Staged.makeTree (staged : Staged before tablet) (works : Bool) :
    Staged before (react device (.makeTree (.staging .android)) works tablet).2 :=
  ⟨staged.stored.trans (stored_makeTree _ works tablet), fun set => by
    rw [makeTree_elsewhere works tablet (live_ne_staging set), staged.live]⟩

theorem Matches.later {after : Tablet device.size} (archive : Matches live image tablet)
    (hashed : tablet.history.hashed ⊆ after.history.hashed) : Matches live image after :=
  ⟨archive.length, archive.digest, hashed archive.hashed, archive.identifies⟩

theorem Committing.step {operation : Op} (committing : Committing before live image tablet)
    (stores : operation.Stores .android) (choice : Choice device.size operation) :
    Committing before live image (react device operation choice tablet).2 := by
  have stored := stores.stored choice tablet
  refine ⟨committing.stored.trans stored, ?_, committing.archive.later stored.hashed⟩
  rw [stores.other choice tablet (by decide)]
  exact committing.ubuntu

/-- commit_set makes the staged directory the live one. -/
theorem wp_commitSet {returned : Unit → Tablet device.size → Prop}
    (endures : Endures during exited (Committing before live image))
    (committing : Committing before live image tablet)
    (filed : Filed (.staging .android) image tablet)
    (next : ∀ after, Committing before live image after → Filed (.live .android) image after →
      returned () after) :
    wp (machine device) during exited (commitSet .android) returned tablet := by
  obtain ⟨sums, staged, named⟩ := filed
  have step : ∀ {after : Tablet device.size} {operation : Op}, Committing before live image after →
      operation.Stores .android → ∀ choice,
      Committing before live image (react device operation choice after).2 :=
    fun now stores choice => now.step stores choice
  simp only [commitSet, criticalBegin, criticalEnd, Prog.bind_eq, Prog.pure_eq, wp_bind]
  refine wp_stage endures trivial committing (step committing trivial) fun _ one => ?_
  refine wp_stage endures trivial one (step one trivial) fun _ one => ?_
  refine wp_removeTree endures rfl one (step one rfl) fun two twoNow history others => ?_
  have stagedTwo : two.store (.staging .android) = some (.directory { image := some image, sums := sums }) :=
    (others _ (by decide)).trans staged
  have namedTwo : two.history.sumsFailed = false →
      sums = some [sumsLine (device.sha256.digest image)] := by
    rw [history]
    exact named
  refine wp_stage endures trivial twoNow (step twoNow trivial) fun _ _ => ?_
  -- whatever becomes of the old set, its place is free of a directory
  have placing : ∀ (aside : Bool) (three : Tablet device.size), Committing before live image three →
      three.history.sumsFailed = two.history.sumsFailed →
      three.store (.staging .android) = some (.directory { image := some image, sums := sums }) →
      (aside = true → three.store.isDirectory (.live .android) = false) →
      wp (machine device) during exited (orDie (aside = true)
        ("cannot move store/" ++ System.android.name ++ " aside"))
        (fun _ => wp (machine device) during exited (move (.staging .android) (.live .android))
          fun placed => wp (machine device) during exited
            (orDie (placed = true) ("cannot move store/." ++ System.android.name ++ ".new into place"))
            fun _ => wp (machine device) during exited (removeTree (.old .android))
              fun _ => wp (machine device) during exited sync
                fun _ => wp (machine device) during exited (ignoreSignals false) returned) three := by
    intro aside three threeNow sameSums stagedThree free
    refine wp_stageOrDie endures threeNow _ _ fun isAside => ?_
    refine wp_move endures ⟨rfl, rfl⟩ (by decide) threeNow (step threeNow ⟨rfl, rfl⟩)
      fun placed four fourNow history _ _ into => ?_
    refine wp_stageOrDie endures fourNow _ _ fun isPlaced => ?_
    have liveFour := into isPlaced _ stagedThree (free isAside)
    refine wp_removeTree endures rfl fourNow (step fourNow rfl) fun five fiveNow history' others => ?_
    have liveFive := (others (.live .android) (by decide)).trans liveFour
    refine wp_stage endures trivial fiveNow (step fiveNow trivial) fun _ _ => ?_
    refine wp_stage endures trivial fiveNow (step fiveNow trivial) fun _ six => ?_
    refine next _ six ⟨sums, liveFive, fun fine => namedTwo ?_⟩
    rw [← sameSums, ← history, ← history']
    exact fine
  change wp (machine device) during exited
    (if two.store.isDirectory (.live .android) = true then move (.live .android) (.old .android)
      else Prog.done true) _ two
  cases present : two.store.isDirectory (.live .android) with
  | false =>
      simp only [Bool.false_eq_true, if_false, wp_done]
      exact placing true two twoNow rfl stagedTwo fun _ => present
  | true =>
      simp only [if_true]
      refine wp_move endures ⟨rfl, rfl⟩ (by decide) twoNow (step twoNow ⟨rfl, rfl⟩)
        fun aside three threeNow history' others away _ => ?_
      refine placing aside three threeNow (by rw [history']) ?_ fun isAside => ?_
      · exact (others _ (by decide) (by decide)).trans stagedTwo
      · simp only [Store.isDirectory, away isAside]

theorem archive_length (tablet : Tablet device.size) :
    (range tablet.boot.toList 0 (device.size / 1048576 * 1048576)).length =
      device.size / 1048576 * 1048576 := by
  have fits := Nat.div_mul_le_self device.size 1048576
  rw [range, List.drop_zero, List.length_take, List.Vector.toList_length]
  omega

/-- The staged boot.img after dd. -/
theorem wp_archive {returned : Bool → Tablet device.size → Prop} {files : SetFiles}
    (endures : Endures during exited (Staged before)) (staged : Staged before tablet)
    (directory : tablet.store (.staging .android) = some (.directory files))
    (next : ∀ ok after image, Staged before after →
      after.store (.staging .android) =
        some (.directory { image := some image, sums := files.sums }) →
      (ok = true → image.length = device.size / 1048576 * 1048576) → returned ok after) :
    wp (machine device) during exited
      (archive (.staging .android) (device.size / 1048576 * 1048576)) returned tablet := by
  refine wp_stage endures rfl staged (fun choice => staged.place _) fun choice later => ?_
  obtain ⟨delivered, stored, works⟩ := choice
  apply next _ _ stored later
  · simp [react, Tablet.place, editFiles, directory]
  · intro ok
    simp only [react, archive_length, Bool.and_eq_true, beq_iff_eq] at ok
    exact ok.2

theorem wp_catStaged {returned : Bytes → Tablet device.size → Prop} {sums : Option (List Line)}
    (endures : Endures during exited (Staged before)) (staged : Staged before tablet)
    (directory : tablet.store (.staging .android) =
      some (.directory { image := some image, sums := sums }))
    (next : returned image tablet) :
    wp (machine device) during exited (catImage (.staging .android)) returned tablet := by
  refine wp_stage endures trivial staged (fun _ => staged) fun _ _ => ?_
  change returned ((tablet.store.files (.staging .android)).image.getD []) tablet
  simpa only [Store.files, directory, Option.getD_some] using next

theorem wp_hashStaged {returned : Line → Tablet device.size → Prop}
    (endures : Endures during exited (Staged before)) (staged : Staged before tablet)
    (next : ∀ after, Staged before after → after.store = tablet.store →
      image ∈ after.history.hashed → returned (device.sha256.digest image) after) :
    wp (machine device) during exited (sha256sum image) returned tablet := by
  have later := staged.looked (looked_hashing tablet image).looked
  exact wp_stage endures trivial staged (fun _ => later) fun _ _ =>
    next _ later rfl List.mem_cons_self

theorem wp_writeSums {returned : Unit → Tablet device.size → Prop} {sums : Option (List Line)}
    (endures : Endures during exited (Staged before)) (staged : Staged before tablet)
    (directory : tablet.store (.staging .android) =
      some (.directory { image := some image, sums := sums }))
    (next : ∀ after, Staged before after →
      tablet.history.hashed ⊆ after.history.hashed → Filed (.staging .android) image after →
      returned () after) :
    wp (machine device) during exited
      (writeSums (.staging .android) (sumsLine (device.sha256.digest image))) returned tablet := by
  refine wp_stage endures rfl staged (fun choice => (staged.place _).sums _) fun choice later => ?_
  obtain ⟨ok, leftover⟩ := choice
  refine next _ later (fun _ => id) ⟨if ok then some [sumsLine (device.sha256.digest image)]
    else leftover, ?_, ?_⟩
  · simp [react, Tablet.place, Tablet.note, editFiles, directory]
  · intro fine
    simp only [react, Tablet.note, Bool.or_eq_false_iff, Bool.not_eq_false'] at fine
    rw [fine.2]
    rfl

/-- stash_live comes back only with the archive as the live Android set. -/
theorem wp_stashLive {session : Session} (same : session.device = device)
    (wet : session.dryRun = false) {returned : Unit → Tablet device.size → Prop}
    (early : Endures during exited (Staged tablet))
    (late : ∀ image, Endures during exited (Committing tablet live image))
    (next : ∀ after image, Committing tablet live image after →
      Filed (.live .android) image after → returned () after) :
    wp (machine device) during exited (stashLive session live) returned tablet := by
  subst same
  simp only [stashLive, wet, Prog.bind_eq, Bool.false_eq_true, if_false,
    wp_bind]
  have start := Staged.refl tablet
  have opening : wp (machine session.device) during exited (requireWritableStore session)
      (fun _ => Staged tablet) tablet := by
    refine wp_of_only (only_requireWritableStore session) ?_ ?_ ?_ (fun _ _ => id) start
    · exact fun _ observes fault after staged => staged.looked (observes.looked fault.1 after)
    · exact fun operation observes after staged =>
        (early after staged).1 operation (observes.stores .android)
    · exact fun status failure after staged => (early after staged).2 status failure
  refine wp_returned opening fun _ zero zeroNow => ?_
  refine wp_removeTree early rfl zeroNow (fun _ => zeroNow.place _) fun one oneNow _ _ => ?_
  refine wp_makeTree early rfl oneNow oneNow.makeTree fun made two twoNow created => ?_
  refine wp_stageOrDie early twoNow _ _ fun isMade => ?_
  obtain ⟨files, directory⟩ := created isMade
  refine wp_archive early twoNow directory fun copied three image threeNow directory full => ?_
  refine wp_stageOrDie early threeNow _ _ fun isCopied => ?_
  refine wp_catStaged early threeNow directory ?_
  refine wp_hashStaged early threeNow fun four fourNow sameStore isHashed => ?_
  refine wp_stageOrDie early fourNow _ _ fun digest => ?_
  refine wp_stageOrDie early fourNow _ _ fun identifies => ?_
  rw [← sameStore] at directory
  refine wp_writeSums early fourNow directory fun five fiveNow hashed filed => ?_
  have archive : Matches live image five :=
    ⟨full isCopied, digest, hashed isHashed, identifies⟩
  have committing : Committing tablet live image five := ⟨fiveNow.stored, fiveNow.live .ubuntu, archive⟩
  refine wp_stage (late image) trivial committing (fun _ => committing) fun _ _ => ?_
  refine wp_commitSet (late image) committing filed fun six sixNow liveSet => ?_
  exact wp_stage (late image) trivial sixNow (fun _ => sixNow) fun _ _ => next six image sixNow liveSet

end Steps

end Archive

end Liuqin.Switch
