/-
What may be published: the invariant of the pending directory.

A marker beside a database vouches for it.  It does so truly as long as no
enrol child leaves a database to a marker that was there before it and is not
its own; a crash between the two removals at the end of a run leaves such a
marker.
-/

import Liuqin.Fingerprint.Publish

namespace Liuqin.Fingerprint.Publish

open Liuqin.Library.Program

/-! ### The invariant -/

/-- The child that created the database returned success for this user and
finger. -/
def Accepted (vault : Vault) (database : Database) (metadata : Metadata) : Prop :=
  (database.child, metadata) ∈ vault.history.accepted

structure Vouched (vault : Vault) : Prop where
  marked : ∀ database metadata, vault.database = some database →
    vault.ready = some (.whole metadata) → Accepted vault database metadata
  handed : ∀ entry ∈ vault.history.handed, Accepted vault entry.1 entry.2
  linked : ∀ entry ∈ vault.history.linked, Accepted vault entry.1 entry.2

/-- No database was left to a foreign marker. -/
def Clean (vault : Vault) : Prop := vault.history.stale = false

def Kept (vault : Vault) : Prop := Clean vault → Vouched vault

/-- What lies in a place of the vault was accepted for the metadata. -/
def Backed (place : Vault → Option Database) (metadata : Metadata) (vault : Vault) : Prop :=
  Clean vault → ∀ database, place vault = some database → Accepted vault database metadata

/-- Nothing the invariant is about has changed. -/
structure Same (vault after : Vault) : Prop where
  database : after.database = vault.database
  ready : after.ready = vault.ready
  opened : after.opened = vault.opened
  temporary : after.temporary = vault.temporary
  history : after.history = vault.history

theorem Same.trans {first second third : Vault} (front : Same first second)
    (back : Same second third) : Same first third :=
  { database := back.database.trans front.database
    ready := back.ready.trans front.ready
    opened := back.opened.trans front.opened
    temporary := back.temporary.trans front.temporary
    history := back.history.trans front.history }

theorem Kept.same {vault after : Vault} (kept : Kept vault) (same : Same vault after) :
    Kept after := by
  intro clean
  rw [Clean, same.history] at clean
  have vouched := kept clean
  constructor
  · rw [same.database, same.ready]
    simp only [Accepted, same.history]
    exact vouched.marked
  · simp only [Accepted, same.history]
    exact vouched.handed
  · simp only [Accepted, same.history]
    exact vouched.linked

theorem Backed.same {place other : Vault → Option Database} {metadata : Metadata}
    {vault after : Vault} (backed : Backed place metadata vault) (here : other after = place vault)
    (history : after.history = vault.history) : Backed other metadata after := by
  intro clean
  rw [Clean, history] at clean
  rw [here]
  simp only [Accepted, history]
  exact backed clean

/-! ### Single operations -/

section Operations

variable {vault : Vault} {metadata : Metadata}

theorem Kept.torn (kept : Kept vault) : Kept { vault with ready := some .torn } := fun clean =>
  { marked := fun database metadata _ impossible => by cases impossible
    handed := (kept clean).handed
    linked := (kept clean).linked }

theorem Kept.marked (kept : Kept vault) (backed : Backed Vault.database metadata vault) :
    Kept { vault with ready := some (.whole metadata) } := fun clean =>
  { marked := by
      intro database other present same
      cases same
      exact backed clean database present
    handed := (kept clean).handed
    linked := (kept clean).linked }

theorem Kept.unlinkDatabase (kept : Kept vault) : Kept { vault with database := none } :=
  fun clean =>
  { marked := fun database metadata impossible => by cases impossible
    handed := (kept clean).handed
    linked := (kept clean).linked }

theorem Kept.unlinkReady (kept : Kept vault) : Kept { vault with ready := none } := fun clean =>
  { marked := fun database metadata _ impossible => by cases impossible
    handed := (kept clean).handed
    linked := (kept clean).linked }

theorem accepted_cons {entries : List (Database × Metadata)} {place : Option Database}
    (earlier : ∀ entry ∈ entries, Accepted vault entry.1 entry.2)
    (backed : ∀ database, place = some database → Accepted vault database metadata) :
    ∀ entry ∈ (place.map fun database => (database, metadata)).toList ++ entries,
      Accepted vault entry.1 entry.2 := by
  intro entry member
  rcases List.mem_append.mp member with new | old
  · cases place with
    | none => cases new
    | some database =>
        rw [List.mem_singleton.mp new]
        exact backed database rfl
  · exact earlier entry old

section Enrolled

variable (left : Option (List UInt8)) (status : Int)

theorem enrolled_accepted {entry : Nat × Metadata} (member : entry ∈ vault.history.accepted) :
    entry ∈ (vault.enrolled metadata left status).history.accepted := by
  simp only [Vault.enrolled]
  split
  · exact List.mem_cons_of_mem _ member
  · exact member

theorem enrolled_clean (clean : Clean (vault.enrolled metadata left status)) :
    Clean vault ∧ ∀ database other,
      (vault.enrolled metadata left status).database = some database →
      vault.ready = some (.whole other) →
      Accepted (vault.enrolled metadata left status) database other := by
  have both := Bool.or_eq_false_iff.mp clean
  refine ⟨both.1, fun database other present marker => ?_⟩
  have mistaken := both.2
  simp only [Vault.enrolled] at present
  rw [marker] at mistaken
  simp only [present, decide_eq_false_iff_not, not_not] at mistaken
  exact mistaken

theorem enrolled_database (absent : vault.database = none) {database : Database}
    (present : (vault.enrolled metadata left status).database = some database) :
    database.child = vault.history.children := by
  simp only [Vault.enrolled, absent, Option.map_eq_some_iff] at present
  obtain ⟨bytes, _, rfl⟩ := present
  rfl

/-- The enrol child starts where there is no database. -/
theorem Kept.enrolled (kept : Kept vault) : Kept (vault.enrolled metadata left status) := by
  intro clean
  obtain ⟨before, marked⟩ := enrolled_clean left status clean
  have vouched := kept before
  constructor
  · exact marked
  · intro entry member
    exact enrolled_accepted left status (vouched.handed entry member)
  · intro entry member
    exact enrolled_accepted left status (vouched.linked entry member)

theorem enrolled_backed (absent : vault.database = none) :
    Backed Vault.database metadata (vault.enrolled metadata left 0) := by
  intro _ database present
  have own := enrolled_database left 0 absent present
  simp only [Accepted, Vault.enrolled, if_true, own]
  exact List.mem_cons_self

end Enrolled

end Operations

/-! ### Rules -/

section Rules

variable {user : String} {metadata : Metadata} {vault : Vault}

/-- In every run the invariant holds at each operation and at each end. -/
abbrev Keeps {α : Type} (script : PublishScript α) (returned : α → Vault → Prop) (vault : Vault) :
    Prop :=
  wp publishMachine (fun _ => Kept) (fun _ => Kept) script returned vault

/-- Operations that the invariant does not see. -/
def Plain (operation : PublishOp) : Prop :=
  ∀ answer choice vault, Same vault (publishReact operation answer choice vault).2

theorem keeps_call {operation : PublishOp} {returned : PublishAnswer operation → Vault → Prop}
    (kept : Kept vault)
    (next : ∀ answer choice before, Same vault before →
      returned (publishReact operation answer choice before).1
        (publishReact operation answer choice before).2) :
    Keeps (call operation) returned vault :=
  ⟨kept, fun fault => next fault.answer fault.choice _ ⟨rfl, rfl, rfl, rfl, rfl⟩⟩

abbrev Quiet {α : Type} (script : PublishScript α) : Prop := script.Only Plain fun _ => True

theorem quiet_call {operation : PublishOp} (plain : Plain operation) : Quiet (call operation) :=
  ⟨plain, fun _ => trivial⟩

theorem quiet_must {asked : PublishScript Bool} (quiet : Quiet asked) : Quiet (must asked) :=
  Prog.only_bind quiet fun _ => Prog.only_ite trivial trivial

theorem Vault.signalled (vault : Vault) (signal : Bool) :
    Same vault { vault with cancelled := vault.cancelled || signal } :=
  ⟨rfl, rfl, rfl, rfl, rfl⟩

/-- A script that the invariant does not see. -/
theorem keeps_quiet {α : Type} {script : PublishScript α} {returned : α → Vault → Prop}
    (quiet : Quiet script) (kept : Kept vault)
    (next : ∀ value after, Same vault after → returned value after) :
    Keeps script returned vault := by
  have still : Same vault vault := ⟨rfl, rfl, rfl, rfl, rfl⟩
  exact wp_of_only quiet
    (fun _ plain fault before (same : Same vault before) =>
      (same.trans (before.signalled fault.signal)).trans (plain fault.answer fault.choice _))
    (fun _ _ _ same => kept.same same) (fun _ _ _ same => kept.same same) next still

theorem keeps_must {asked : PublishScript Bool} {returned : Unit → Vault → Prop}
    (holds : Keeps asked (fun answer after => Kept after ∧ (answer = true → returned () after)) vault) :
    Keeps (must asked) returned vault := by
  refine wp_seq (wp_returned holds fun answer after => ?_)
  rintro ⟨kept, next⟩
  exact wp_ite next fun _ => kept

section Tests

variable {returned : Bool → Vault → Prop} (kept : Kept vault)
  (next : ∀ answer after, Same vault after → returned answer after)

include kept next

theorem keeps_cancelled : Keeps cancelled returned vault :=
  keeps_quiet (quiet_call fun _ _ _ => ⟨rfl, rfl, rfl, rfl, rfl⟩) kept next

theorem keeps_existingPrint (store : String) : Keeps (existingPrint store) returned vault :=
  keeps_quiet (quiet_call fun _ _ _ => ⟨rfl, rfl, rfl, rfl, rfl⟩) kept next

theorem keeps_readyExists : Keeps readyExists returned vault :=
  keeps_quiet (quiet_call fun _ _ _ => ⟨rfl, rfl, rfl, rfl, rfl⟩) kept next

theorem keeps_tooSmall : Keeps tooSmall returned vault :=
  keeps_quiet (quiet_call fun _ _ _ => ⟨rfl, rfl, rfl, rfl, rfl⟩) kept next

end Tests

theorem keeps_databaseExists {returned : Bool → Vault → Prop} (kept : Kept vault)
    (next : ∀ after, Same vault after → returned after.database.isSome after) :
    Keeps databaseExists returned vault :=
  keeps_call kept fun _ _ before same => next before same

/-- What is read was written. -/
theorem keeps_readReady {returned : Option Metadata → Vault → Prop} (kept : Kept vault)
    (failed : ∀ after, Same vault after → returned none after)
    (next : ∀ metadata after, Same vault after → after.ready = some (.whole metadata) →
      returned (some metadata) after) : Keeps readReady returned vault := by
  refine keeps_call kept fun answer choice before same => ?_
  simp only [publishReact]
  split
  · rename_i metadata marker
    rcases answer with _ | given
    · exact failed before same
    · exact next metadata before same marker
  · exact failed before same

theorem keeps_report {returned : Unit → Vault → Prop} (text : String) (kept : Kept vault)
    (next : ∀ after, Same vault after → returned () after) :
    Keeps (report text) returned vault :=
  keeps_quiet (quiet_call fun _ _ _ => ⟨rfl, rfl, rfl, rfl, rfl⟩) kept fun _ => next

/-- A child's result counts only when no signal came. -/
theorem keeps_run {child : PublishScript Int} {returned : Int → Vault → Prop} (kept : Kept vault)
    (failed : ∀ status after, status ≠ 0 → Kept after → returned status after)
    (started : ∀ before, Same vault before → Keeps child
      (fun status after => Kept after ∧ (status = 0 → ∀ last, Same after last → returned 0 last))
      before) :
    Keeps (run child) returned vault := by
  refine wp_seq (keeps_cancelled kept fun before first same => wp_ite (fun _ => ?_) fun _ => ?_)
  · exact failed 1 first (by decide) (kept.same same)
  · refine wp_seq (wp_returned (started first same) fun status second => ?_)
    rintro ⟨kept, next⟩
    refine wp_seq (keeps_cancelled kept fun stopped last same => ?_)
    by_cases zero : status = 0
    · cases stopped with
      | true => exact failed 1 last (by decide) (kept.same same)
      | false =>
          rw [zero] at next ⊢
          exact next rfl last same
    · cases stopped with
      | true => exact failed 1 last (by decide) (kept.same same)
      | false => exact failed status last zero (kept.same same)

theorem keeps_succeeded {result : Int} {returned : Unit → Vault → Prop} (kept : Kept vault)
    (next : result = 0 → returned () vault) : Keeps (succeeded result) returned vault :=
  wp_ite next fun _ => kept

end Rules

/-! ### The phases -/

section Phases

variable {metadata : Metadata} {vault : Vault} {returned : Unit → Vault → Prop}

theorem keeps_reuse (kept : Kept vault)
    (next : ∀ after, Kept after → Backed Vault.database metadata after → returned () after) :
    Keeps (reuse metadata) returned vault := by
  refine wp_seq (keeps_readyExists kept fun present first same => ?_)
  have keptFirst := kept.same same
  refine wp_ite (fun _ => ?_) fun _ => ?_
  · have checked : ∀ found after, Kept after →
        (found = some metadata → Backed Vault.database metadata after) →
        Keeps (must (return found = some metadata) >>= fun _ =>
          report "oem_print_publication=REUSE accepted_pending_export=1 touch_not_collected=1")
          returned after := by
      intro found after kept backed
      refine wp_seq (keeps_must ⟨kept, fun same => ?_⟩)
      have backed := backed (of_decide_eq_true same)
      exact keeps_report _ kept fun last same =>
        next last (kept.same same) (backed.same same.database same.history)
    refine wp_seq (keeps_readReady keptFirst (fun second again => ?_)
      fun found second again marker => ?_)
    · exact checked none second (keptFirst.same again) fun impossible => by cases impossible
    · have keptSecond := keptFirst.same again
      refine checked (some found) second keptSecond fun own clean database present => ?_
      cases own
      exact (keptSecond clean).marked database metadata present marker
  · exact wp_seq (keeps_report _ keptFirst fun last same => keptFirst.same same)

theorem keeps_writeExclusive (kept : Kept vault) (backed : Backed Vault.database metadata vault)
    (next : ∀ after, Kept after → Backed Vault.database metadata after → returned () after) :
    Keeps (writeExclusive metadata) returned vault := by
  have created : Keeps (call .createReady) (fun works after => Kept after ∧
      ((works : Bool) = true → Kept after ∧ Backed Vault.database metadata after)) vault := by
    refine keeps_call kept fun works choice before same => ?_
    have keptNow := kept.same same
    have backedNow := backed.same same.database same.history
    simp only [publishReact]
    split
    · exact ⟨keptNow.torn, fun _ => ⟨keptNow.torn, backedNow.same rfl rfl⟩⟩
    · exact ⟨keptNow, fun _ => ⟨keptNow, backedNow⟩⟩
  refine wp_seq (keeps_must (wp_returned created fun works first both => ⟨both.1, fun holds => ?_⟩))
  obtain ⟨keptFirst, backedFirst⟩ := both.2 holds
  have written : Keeps (call (.writeReady metadata)) (fun _ after => Kept after ∧
      Backed Vault.database metadata after) first := by
    refine keeps_call keptFirst fun works enough before same => ?_
    have keptNow := keptFirst.same same
    have backedNow := backedFirst.same same.database same.history
    simp only [publishReact]
    split
    · exact ⟨keptNow.marked backedNow, backedNow.same rfl rfl⟩
    · exact ⟨keptNow.torn, backedNow.same rfl rfl⟩
  refine wp_seq (keeps_must (wp_returned written fun works second both => ⟨both.1, fun _ => ?_⟩))
  have plain : Plain .syncReady := fun _ _ _ => ⟨rfl, rfl, rfl, rfl, rfl⟩
  exact keeps_quiet (quiet_must (quiet_call plain)) both.1
    fun _ last same => next last (both.1.same same) (both.2.same same.database same.history)

theorem keeps_enrol {prepared : Bool} (kept : Kept vault) (absent : vault.database = none)
    (next : ∀ after, Kept after → Backed Vault.database metadata after → returned () after) :
    Keeps (enrol metadata prepared) returned vault := by
  have child : ∀ before, Same vault before → Keeps (call (.enrol metadata prepared))
      (fun status after => Kept after ∧ (status = (0 : Int) → ∀ last, Same after last →
        Kept last ∧ Backed Vault.database metadata last)) before := by
    intro before same
    refine keeps_call (kept.same same) fun status left started again => ?_
    have keptNow := (kept.same same).same again
    have absentNow : started.database = none := (again.database.trans same.database).trans absent
    refine ⟨keptNow.enrolled left status, ?_⟩
    rintro rfl last same
    have backed : Backed Vault.database metadata (started.enrolled metadata left 0) :=
      enrolled_backed left absentNow
    exact ⟨(keptNow.enrolled left 0).same same, backed.same same.database same.history⟩
  refine wp_seq (keeps_run kept (fun status after bad kept => ?_) fun before same =>
    wp_returned (child before same) fun status after both => ⟨both.1, fun zero last same => ?_⟩)
  · exact wp_seq (keeps_succeeded kept fun zero => absurd zero bad)
  · obtain ⟨keptLast, backed⟩ := both.2 zero last same
    exact wp_seq (keeps_succeeded keptLast fun _ => keeps_writeExclusive keptLast backed next)

/-- What the serializer reads was accepted, and so is what it fills. -/
theorem keeps_serialize (kept : Kept vault) (backed : Backed Vault.database metadata vault)
    (next : ∀ after, Kept after → Backed Vault.temporary metadata after → returned () after) :
    Keeps (serialize metadata) returned vault := by
  have opened : Keeps (call .openDatabase) (fun _ after => Kept after ∧
      Backed Vault.opened metadata after) vault := by
    refine keeps_call kept fun works choice before same => ?_
    have keptNow := kept.same same
    have backedNow := backed.same same.database same.history
    constructor
    · intro clean
      exact ⟨(keptNow clean).marked, (keptNow clean).handed, (keptNow clean).linked⟩
    · exact backedNow.same rfl rfl
  refine wp_seq (keeps_must (wp_returned opened fun _ first both => ⟨both.1, fun _ => ?_⟩))
  have plain : Plain .makeTemporary := fun _ _ _ => ⟨rfl, rfl, rfl, rfl, rfl⟩
  refine wp_seq (keeps_quiet (quiet_must (quiet_call plain)) both.1 fun _ second same => ?_)
  have keptSecond := both.1.same same
  have ready : Backed Vault.opened metadata second := both.2.same same.opened same.history
  have child : ∀ before, Same second before → Keeps (call (.serialize metadata))
      (fun _ after => Kept after ∧ Backed Vault.temporary metadata after) before := by
    intro before same
    refine keeps_call (keptSecond.same same) fun status choice started again => ?_
    have keptNow := (keptSecond.same same).same again
    have readyNow : Backed Vault.opened metadata started :=
      ready.same (again.opened.trans same.opened) (again.history.trans same.history)
    constructor
    · intro clean
      exact ⟨(keptNow clean).marked, accepted_cons (keptNow clean).handed (readyNow clean),
        (keptNow clean).linked⟩
    · intro clean database present
      exact readyNow clean database present
  refine wp_seq (keeps_run keptSecond (fun status after bad kept => ?_) fun before same =>
    wp_returned (child before same) fun status after both => ⟨both.1, fun _ last same => ?_⟩)
  · exact keeps_succeeded kept fun zero => absurd zero bad
  · exact keeps_succeeded (both.1.same same) fun _ =>
      next last (both.1.same same) (both.2.same same.temporary same.history)

theorem keeps_publish {store : String} {finger : Nat} (kept : Kept vault)
    (backed : Backed Vault.temporary metadata vault)
    (next : ∀ after, Kept after → returned () after) :
    Keeps (publish store finger metadata) returned vault := by
  refine wp_seq (keeps_cancelled kept fun stopped first same => ?_)
  refine wp_seq (keeps_tooSmall (kept.same same) fun small second again => ?_)
  have before := same.trans again
  refine wp_ite (fun _ => kept.same before) fun _ => ?_
  have synced : Plain .fsyncTemporary := fun _ _ _ => ⟨rfl, rfl, rfl, rfl, rfl⟩
  refine wp_seq (keeps_quiet (quiet_must (quiet_call synced)) (kept.same before)
    fun _ third later => ?_)
  have ready := before.trans later
  have linked : Keeps (call (.link store finger metadata)) (fun _ after => Kept after) third := by
    refine keeps_call (kept.same ready) fun works choice started again => ?_
    have now := ready.trans again
    have keptNow := kept.same now
    have backedNow : Backed Vault.temporary metadata started :=
      backed.same now.temporary now.history
    simp only [publishReact]
    split
    · intro clean
      exact ⟨(keptNow clean).marked, (keptNow clean).handed,
        accepted_cons (keptNow clean).linked (backedNow clean)⟩
    · exact keptNow
  refine wp_seq (keeps_must (wp_returned linked fun _ fourth kept => ⟨kept, fun _ => ?_⟩))
  have unlinked : Plain .unlinkTemporary := fun _ _ _ => ⟨rfl, rfl, rfl, rfl, rfl⟩
  refine wp_seq (keeps_quiet (quiet_must (quiet_call unlinked)) kept fun _ fifth same => ?_)
  have parent : Plain .syncStore := fun _ _ _ => ⟨rfl, rfl, rfl, rfl, rfl⟩
  refine wp_seq (keeps_quiet (quiet_must (quiet_call parent)) (kept.same same)
    fun _ sixth again => ?_)
  have removed : Keeps (call .unlinkDatabase) (fun _ after => Kept after) sixth := by
    refine keeps_call ((kept.same same).same again) fun works choice started later => ?_
    have keptNow := ((kept.same same).same again).same later
    cases (works : Bool) with
    | true => exact keptNow.unlinkDatabase
    | false => exact keptNow
  refine wp_seq (keeps_must (wp_returned removed fun _ seventh kept => ⟨kept, fun _ => ?_⟩))
  have cleared : Keeps (call .unlinkReady) (fun _ after => Kept after) seventh := by
    refine keeps_call kept fun works choice started later => ?_
    have keptNow := kept.same later
    cases (works : Bool) with
    | true => exact keptNow.unlinkReady
    | false => exact keptNow
  refine wp_seq (keeps_must (wp_returned cleared fun _ eighth kept => ⟨kept, fun _ => ?_⟩))
  exact keeps_report _ kept fun last same => next last (kept.same same)

end Phases

/-! ### Runs -/

theorem quiet_checkAccount (user finger store : String) : Quiet (checkAccount user finger store) := by
  have plain : ∀ {operation : PublishOp}, Plain operation → Quiet (call operation) := quiet_call
  refine Prog.only_bind (quiet_must (plain fun _ _ _ => ⟨rfl, rfl, rfl, rfl, rfl⟩)) fun _ => ?_
  cases fingers.idxOf? finger with
  | none => trivial
  | some index =>
      refine Prog.only_bind (quiet_must (plain fun _ _ _ => ⟨rfl, rfl, rfl, rfl, rfl⟩)) fun _ => ?_
      exact Prog.only_bind (quiet_must (plain fun _ _ _ => ⟨rfl, rfl, rfl, rfl, rfl⟩))
        fun _ => trivial

theorem quiet_report (text : String) : Quiet (report text) :=
  quiet_call fun _ _ _ => ⟨rfl, rfl, rfl, rfl, rfl⟩

theorem quiet_takeLock (store : String) : Quiet (takeLock store) := by
  refine Prog.only_bind (quiet_call fun _ _ _ => ⟨rfl, rfl, rfl, rfl, rfl⟩) fun lock => ?_
  cases (lock : Lock) with
  | held => trivial
  | busy => exact Prog.only_bind (quiet_report _) fun _ => trivial
  | failed => trivial

theorem quiet_refuseSecond (store : String) : Quiet (refuseSecond store) := by
  refine Prog.only_bind (quiet_call fun _ _ _ => ⟨rfl, rfl, rfl, rfl, rfl⟩) fun present => ?_
  exact Prog.only_ite (Prog.only_bind (quiet_report _) fun _ => trivial) trivial

theorem keeps_main {user finger store : String} {prepared : Bool} {vault : Vault}
    (kept : Kept vault) : Keeps (main user finger store prepared) (fun _ => Kept) vault := by
  refine wp_seq (keeps_quiet (quiet_checkAccount user finger store) kept fun number first same => ?_)
  have kept := kept.same same
  refine wp_seq (keeps_quiet (quiet_takeLock store) kept fun _ second same => ?_)
  have kept := kept.same same
  refine wp_seq (keeps_quiet (quiet_refuseSecond store) kept fun _ third same => ?_)
  have kept := kept.same same
  have plain : Plain .pending := fun _ _ _ => ⟨rfl, rfl, rfl, rfl, rfl⟩
  refine wp_seq (keeps_quiet (quiet_must (quiet_call plain)) kept fun _ fourth same => ?_)
  have kept := kept.same same
  refine wp_seq (keeps_databaseExists kept fun fifth same => ?_)
  have kept := kept.same same
  have rest : ∀ after, Kept after →
      Backed Vault.database { user := user, finger := finger } after →
      Keeps ((serialize { user := user, finger := finger }).bind fun _ =>
        publish store number { user := user, finger := finger }) (fun _ => Kept) after := by
    intro after kept backed
    refine wp_seq (keeps_serialize kept backed fun last kept backed => ?_)
    exact keeps_publish kept backed fun _ kept => kept
  refine wp_seq (wp_ite (fun _ => keeps_reuse kept rest) fun absent => ?_)
  have none : fifth.database = none := Option.not_isSome_iff_eq_none.mp absent
  exact keeps_enrol kept none rest

theorem Happens.kept {user : String} {vault after : Vault} (happens : Happens user vault after)
    (kept : Kept vault) : Kept after := by
  cases happens with
  | run finger store prepared ran =>
      have begun : Kept vault.begin := fun clean =>
        { marked := (kept clean).marked
          handed := (kept clean).handed
          linked := (kept clean).linked }
      have safe := wp_sound (keeps_main begun) ran
      rename_i later
      cases later with
      | done value => exact safe
      | exit status => exact safe
      | act operation next => exact safe
  | delete store finger => exact fun clean =>
      { marked := (kept clean).marked
        handed := (kept clean).handed
        linked := (kept clean).linked }

theorem kept_initial (prints : String × Nat → Option Database) : Kept (Vault.initial prints) :=
  fun _ =>
  { marked := fun _ _ impossible => by cases impossible
    handed := fun _ member => absurd member List.not_mem_nil
    linked := fun _ member => absurd member List.not_mem_nil }

theorem kept_reached {user : String} {prints : String × Nat → Option Database} {vault : Vault}
    (reached : Relation.ReflTransGen (Happens user) (Vault.initial prints) vault) : Kept vault := by
  induction reached with
  | refl => exact kept_initial prints
  | tail _ happens ih => exact happens.kept ih

/-- As long as no child leaves a database to a marker it does not belong to,
what the serializer reads and what is linked was accepted for this user and
finger by the run that created it. -/
theorem published_accepted (user : String) (prints : String × Nat → Option Database)
    (vault : Vault) (reached : Relation.ReflTransGen (Happens user) (Vault.initial prints) vault)
    (clean : Clean vault) :
    (∀ entry ∈ vault.history.handed, Accepted vault entry.1 entry.2) ∧
      ∀ entry ∈ vault.history.linked, Accepted vault entry.1 entry.2 := by
  have kept := kept_reached reached
  exact ⟨(kept clean).handed, (kept clean).linked⟩

/-! ### Fixed runs -/

/-- Everything works; the enrol child leaves these bytes and ends so. -/
def working (bytes : List UInt8) (status : Int) (_ : Nat) :
    (operation : PublishOp) → Vault → PublishFault operation
  | .enrol _ _, _ => { answer := status, choice := some bytes, signal := false }
  | .writeReady _, _ => { answer := true, choice := true, signal := false }
  | .lock _, _ => { answer := Lock.held, choice := (), signal := false }
  | .readReady, _ => { answer := some { user := "", finger := "" }, choice := (), signal := false }
  | .report _, _ => { answer := (), choice := (), signal := false }
  | .serialize _, _ => { answer := (0 : Int), choice := (), signal := false }
  | .tooSmall, _ => { answer := false, choice := (), signal := false }
  | .account _, _ => { answer := true, choice := (), signal := false }
  | .bundle, _ => { answer := true, choice := (), signal := false }
  | .directories _, _ => { answer := true, choice := (), signal := false }
  | .existingPrint _, _ => { answer := true, choice := (), signal := false }
  | .pending, _ => { answer := true, choice := (), signal := false }
  | .databaseExists, _ => { answer := true, choice := (), signal := false }
  | .readyExists, _ => { answer := true, choice := (), signal := false }
  | .cancelled, _ => { answer := true, choice := (), signal := false }
  | .createReady, _ => { answer := true, choice := (), signal := false }
  | .syncReady, _ => { answer := true, choice := (), signal := false }
  | .openDatabase, _ => { answer := true, choice := (), signal := false }
  | .makeTemporary, _ => { answer := true, choice := (), signal := false }
  | .fsyncTemporary, _ => { answer := true, choice := (), signal := false }
  | .link _ _ _, _ => { answer := true, choice := (), signal := false }
  | .unlinkTemporary, _ => { answer := true, choice := (), signal := false }
  | .syncStore, _ => { answer := true, choice := (), signal := false }
  | .unlinkDatabase, _ => { answer := true, choice := (), signal := false }
  | .unlinkReady, _ => { answer := true, choice := (), signal := false }

/-- So many operations of a run, then a crash. -/
def Vault.ran (vault : Vault) (bytes : List UInt8) (status : Int) (steps : Nat) : Vault :=
  (play publishMachine (working bytes status) steps
    (main "user" "right-index-finger" "/var/lib/fprint" false, vault.begin)).2

theorem happens_ran (vault : Vault) (bytes : List UInt8) (status : Int) (steps : Nat) :
    Happens "user" vault (vault.ran bytes status steps) :=
  Happens.run "right-index-finger" "/var/lib/fprint" false (play_reaches _ _ _ _)

def emptyVault : Vault := Vault.initial fun _ => none

def publishedOnce : Vault := emptyVault.ran [1] 0 40

theorem published_accepted_once :
    (∀ entry ∈ publishedOnce.history.handed, Accepted publishedOnce entry.1 entry.2) ∧
      ∀ entry ∈ publishedOnce.history.linked, Accepted publishedOnce entry.1 entry.2 := by
  have clean : publishedOnce.history.stale = false := by
    decide +kernel
  exact published_accepted "user" (fun _ => none) publishedOnce
    (Relation.ReflTransGen.single (happens_ran emptyVault [1] 0 40)) clean

/-- Enrolled and linked, and stopped before the marker was removed. -/
def leftMarker : Vault := emptyVault.ran [1] 0 25

/-- The print deleted; the next child fails and leaves a database. -/
def failedChild : Vault := (leftMarker.delete "/var/lib/fprint" 7).ran [2] 1 40

def publishedStale : Vault := failedChild.ran [] 1 40

/-- The third run links the database of the failed child. -/
theorem stale_published :
    Relation.ReflTransGen (Happens "user") (Vault.initial fun _ => none) publishedStale ∧
      ∃ entry ∈ publishedStale.history.linked, ¬Accepted publishedStale entry.1 entry.2 := by
  constructor
  · refine Relation.ReflTransGen.head (happens_ran emptyVault [1] 0 25) ?_
    refine Relation.ReflTransGen.head (Happens.delete "/var/lib/fprint" 7) ?_
    refine Relation.ReflTransGen.head (happens_ran _ [2] 1 40) ?_
    exact Relation.ReflTransGen.single (happens_ran failedChild [] 1 40)
  · refine ⟨({ bytes := [2], child := 1 }, { user := "user", finger := "right-index-finger" }), ?_, ?_⟩
    · decide +kernel
    · have accepted : publishedStale.history.accepted =
          [(0, { user := "user", finger := "right-index-finger" })] := by
        decide +kernel
      rw [Accepted, accepted]
      decide

end Liuqin.Fingerprint.Publish
