/-
Installing the audited bundle over an older one
(device/fingerprint/oem/src/fingerprint/deployment/install.py).

A bundle is its files by their names below the directory; SHA256.json lists the
digests of the others.  The older bundle is renamed away, the new one copied in
its place, and the rename undone if the copy left no directory behind.
-/

import Mathlib.Data.List.Perm.Basic
import Liuqin.Library.Bytes

namespace Liuqin.Fingerprint.Candidate

open Liuqin.Library

/-! ### Bundles -/

abbrev Bundle := String → Option Library.Bytes

abbrev Manifest := List (String × String)

/-- hashlib.sha256(...).hexdigest(), and json.loads of the two JSON files. -/
structure Readers where
  sha256 : Library.Bytes → String
  manifest : Library.Bytes → Option Manifest
  ident : Library.Bytes → Option (Option String)

def sumsName : String := "SHA256.json"
def infoName : String := "CANDIDATE.json"

/-- The digest of a file is the listed one. -/
def Listed (readers : Readers) (bundle : Bundle) (entry : String × String) : Prop :=
  (bundle entry.1).map readers.sha256 = some entry.2

instance (readers : Readers) (bundle : Bundle) (entry : String × String) :
    Decidable (Listed readers bundle entry) :=
  inferInstanceAs (Decidable (_ = _))

/-- The bundle matches its own SHA256.json. -/
def Complete (readers : Readers) (bundle : Bundle) : Prop :=
  ∃ text manifest, bundle sumsName = some text ∧ readers.manifest text = some manifest ∧
    ∀ entry ∈ manifest, Listed readers bundle entry

/-! ### The copy -/

/-- How shutil.copytree goes.  One that fails or is interrupted may have made
the directory, and then any file may be there, up to any length. -/
inductive Copy where
  | works
  | fails (made : Bool) (part : String → Option Nat)

/-- What a failed copy leaves of the files. -/
def left (source : Bundle) (part : String → Option Nat) : Bundle := fun name =>
  match source name, part name with
  | some bytes, some count => some (bytes.take count)
  | _, _ => none

structure Outcomes where
  copy : Copy
  renames : Bool
  restores : Bool

/-- Where the bundles are. -/
structure Place where
  destination : Option Bundle
  previous : Option Bundle

inductive Raised where
  | programHash (name : String)
  | another
  | unrelated
  | unreadable
  | renaming
  | copying
  | restoring
  deriving DecidableEq, Repr

def Raised.text : Raised → String
  | .programHash name => "Candidate program hash mismatch: " ++ name
  | .another => "Another formal candidate is present; preserve it for an explicit upgrade"
  | .unrelated => "Previous candidate has unrelated edits; preserve them"
  | _ => ""

/-- The exception comes out of the copy or of its handler. -/
def Raised.fromCopy : Raised → Bool
  | .copying | .restoring => true
  | _ => false

/-- No bundle was there. -/
def copyFresh (source : Bundle) (outcomes : Outcomes) (place : Place) :
    Except Raised Unit × Place :=
  match outcomes.copy with
  | .works => (.ok (), { place with destination := some source })
  | .fails false _ => (.error .copying, { place with destination := none })
  | .fails true part => (.error .copying, { place with destination := some (left source part) })

/-- The older bundle goes to a name of its own and comes back if the copy left
nothing in its place. -/
def swap (source installed : Bundle) (outcomes : Outcomes) (place : Place) :
    Except Raised Unit × Place :=
  if outcomes.renames then
    match outcomes.copy with
    | .works => (.ok (), ⟨some source, some installed⟩)
    | .fails true part => (.error .copying, ⟨some (left source part), some installed⟩)
    | .fails false _ =>
        if outcomes.restores then (.error .copying, ⟨some installed, none⟩)
        else (.error .restoring, ⟨none, some installed⟩)
  else (.error .renaming, place)

/-- The older bundle is one of this candidate and has no edits. -/
def judge (readers : Readers) (replaceOwned : Bool) (source installed : Bundle)
    (own : Manifest) : Except Raised Unit :=
  if replaceOwned then
    match (installed infoName).bind readers.ident, (source infoName).bind readers.ident with
    | some theirs, some (some ours) =>
        if theirs = some ours then
          match own.find? (fun entry => ¬Listed readers installed entry) with
          | none => .ok ()
          | some entry =>
              if (installed entry.1).isNone then .error .unreadable else .error .unrelated
        else .error .another
    | _, _ => .error .unreadable
  else .error .another

/-- The destination part of install(), with the source bundle checked. -/
def settleIn (readers : Readers) (replaceOwned : Bool) (source : Bundle) (manifest : Manifest)
    (outcomes : Outcomes) (place : Place) : Except Raised Unit × Place :=
  match place.destination with
  | none => copyFresh source outcomes place
  | some installed =>
      match installed sumsName with
      | none => (.error .another, place)
      | some text =>
          match readers.manifest text with
          | none => (.error .unreadable, place)
          | some own =>
              if own.Perm manifest then (.ok (), place)
              else
                match judge readers replaceOwned source installed own with
                | .error stage => (.error stage, place)
                | .ok _ => swap source installed outcomes place

/-- install() up to the copied bundle. -/
def install (readers : Readers) (replaceOwned : Bool) (source : Bundle) (outcomes : Outcomes)
    (place : Place) : Except Raised Unit × Place :=
  match (source sumsName).bind readers.manifest with
  | none => (.error .unreadable, place)
  | some manifest =>
      match manifest.find? (fun entry => ¬Listed readers source entry) with
      | some entry => (.error (.programHash entry.1), place)
      | none => settleIn readers replaceOwned source manifest outcomes place

/-! ### Recovery -/

/-- A new bundle whose cut files show: a part of a listed file has another
digest, and a part of SHA256.json reads as the whole or not at all. -/
structure Source (readers : Readers) where
  files : Bundle
  sums : Library.Bytes
  manifest : Manifest
  there : files sumsName = some sums
  reads : readers.manifest sums = some manifest
  cutFiles : ∀ entry bytes count, entry ∈ manifest → files entry.1 = some bytes →
    count < bytes.length → readers.sha256 (bytes.take count) ≠ entry.2
  cutSums : ∀ count other, readers.manifest (sums.take count) = some other → other = manifest

/-- The copy had this file whole. -/
def Whole (source : Bundle) (part : String → Option Nat) (name : String) : Prop :=
  ∃ bytes count, source name = some bytes ∧ part name = some count ∧ bytes.length ≤ count

/-- The copy had SHA256.json so far that it reads. -/
def Legible {readers : Readers} (source : Source readers) (part : String → Option Nat) : Prop :=
  ∃ count, part sumsName = some count ∧ (readers.manifest (source.sums.take count)).isSome

/-- The condition on a failed copy. -/
def Recovers {readers : Readers} (source : Source readers) (outcomes : Outcomes)
    (place : Place) : Prop :=
  match outcomes.copy with
  | .works => False
  | .fails false _ => place.destination ≠ none ∧ outcomes.restores = true
  | .fails true part =>
      Legible source part ∧ ∀ entry ∈ source.manifest, Whole source.files part entry.1

section Recovery

variable {readers : Readers} (source : Source readers)

/-- The bundle that install() takes in was checked by it. -/
theorem install_verified {replaceOwned : Bool} {outcomes : Outcomes} {place : Place}
    (past : ∀ name, (install readers replaceOwned source.files outcomes place).1 ≠
      .error (.programHash name)) :
    ∀ entry ∈ source.manifest, Listed readers source.files entry := by
  unfold install at past
  rw [source.there, Option.bind_some, source.reads] at past
  simp only [] at past
  cases found : source.manifest.find? (fun entry => ¬Listed readers source.files entry) with
  | some entry =>
      rw [found] at past
      exact absurd rfl (past entry.1)
  | none =>
      intro entry member
      have fine := List.find?_eq_none.mp found entry member
      simpa using fine

theorem install_settles (replaceOwned : Bool) (outcomes : Outcomes) (place : Place)
    (verified : ∀ entry ∈ source.manifest, Listed readers source.files entry) :
    install readers replaceOwned source.files outcomes place =
      settleIn readers replaceOwned source.files source.manifest outcomes place := by
  have found : source.manifest.find? (fun entry => ¬Listed readers source.files entry) = none := by
    apply List.find?_eq_none.mpr
    intro entry member
    simpa using verified entry member
  unfold install
  rw [source.there, Option.bind_some, source.reads]
  simp only [found]

theorem left_of_some {files : Bundle} {part : String → Option Nat} {name : String}
    {bytes : Library.Bytes}
    (there : left files part name = some bytes) :
    ∃ whole count, files name = some whole ∧ part name = some count ∧
      bytes = whole.take count := by
  unfold left at there
  split at there
  · rename_i whole count file length
    cases there
    exact ⟨whole, count, file, length, rfl⟩
  · cases there

theorem left_of_whole {files : Bundle} {part : String → Option Nat} {name : String}
    (whole : Whole files part name) : left files part name = files name := by
  obtain ⟨bytes, count, there, taken, enough⟩ := whole
  unfold left
  rw [there, taken]
  exact congrArg some (List.take_of_length_le enough)

/-- What a failed copy left is a bundle exactly when it was all there. -/
theorem left_complete (part : String → Option Nat)
    (verified : ∀ entry ∈ source.manifest, Listed readers source.files entry) :
    Complete readers (left source.files part) ↔
      Legible source part ∧ ∀ entry ∈ source.manifest, Whole source.files part entry.1 := by
  constructor
  · rintro ⟨text, own, sums, reads, listed⟩
    obtain ⟨whole, count, file, taken, cut⟩ := left_of_some sums
    rw [source.there] at file
    cases file
    rw [cut] at reads
    have same : own = source.manifest := source.cutSums count own reads
    constructor
    · refine ⟨count, taken, ?_⟩
      rw [reads]
      rfl
    · intro entry member
      have fine := listed entry (by rw [same]; exact member)
      unfold Listed at fine
      obtain ⟨bytes, there, digest⟩ := Option.map_eq_some_iff.mp fine
      obtain ⟨original, length, file, part, cut⟩ := left_of_some there
      refine ⟨original, length, file, part, ?_⟩
      by_contra short
      apply source.cutFiles entry original length member file (by omega)
      rw [← cut]
      exact digest
  · rintro ⟨⟨count, taken, legible⟩, whole⟩
    obtain ⟨own, reads⟩ := Option.isSome_iff_exists.mp legible
    have same : own = source.manifest := source.cutSums count own reads
    refine ⟨source.sums.take count, own, ?_, reads, ?_⟩
    · unfold left
      rw [source.there, taken]
    · intro entry member
      rw [same] at member
      unfold Listed
      rw [left_of_whole (whole entry member)]
      exact verified entry member

/-- A bundle that is judged fit to be replaced is complete. -/
theorem judge_listed {replaceOwned : Bool} {files installed : Bundle} {own : Manifest}
    (fit : judge readers replaceOwned files installed own = .ok ()) :
    ∀ entry ∈ own, Listed readers installed entry := by
  unfold judge at fit
  split at fit
  · split at fit
    · split at fit
      · split at fit
        · rename_i found
          intro entry member
          have fine := List.find?_eq_none.mp found entry member
          simpa using fine
        · split at fit <;> cases fit
      · cases fit
    · cases fit
  · cases fit

theorem judge_apart {replaceOwned : Bool} {files installed : Bundle} {own : Manifest}
    {stage : Raised} (raised : judge readers replaceOwned files installed own = .error stage) :
    stage.fromCopy = false := by
  unfold judge at raised
  split at raised
  · split at raised
    · split at raised
      · split at raised
        · cases raised
        · split at raised <;> cases raised <;> rfl
      · cases raised
        rfl
    · cases raised
      rfl
  · cases raised
    rfl

/-- How the copy was reached: no bundle was there, or a complete one that is
to be replaced. -/
inductive Reached (readers : Readers) (replaceOwned : Bool) (source : Bundle) (outcomes : Outcomes)
    (place : Place) : Except Raised Unit × Place → Prop where
  | fresh (empty : place.destination = none) :
      Reached readers replaceOwned source outcomes place (copyFresh source outcomes place)
  | replaced {installed : Bundle} {text : Library.Bytes} {own : Manifest}
      (old : place.destination = some installed) (sums : installed sumsName = some text)
      (reads : readers.manifest text = some own)
      (fit : judge readers replaceOwned source installed own = .ok ()) :
      Reached readers replaceOwned source outcomes place (swap source installed outcomes place)

theorem settleIn_reached {replaceOwned : Bool} {files : Bundle} {manifest : Manifest}
    {outcomes : Outcomes} {place : Place} {stage : Raised}
    (raised : (settleIn readers replaceOwned files manifest outcomes place).1 = .error stage)
    (copying : stage.fromCopy = true) :
    Reached readers replaceOwned files outcomes place
      (settleIn readers replaceOwned files manifest outcomes place) := by
  unfold settleIn at raised ⊢
  split at raised
  · rename_i empty
    exact Reached.fresh empty
  · rename_i installed old
    split at raised
    · cases raised
      cases copying
    · rename_i text sums
      split at raised
      · cases raised
        cases copying
      · rename_i own reads
        split at raised
        · cases raised
        · split at raised
          · rename_i judged fault
            cases raised
            rw [judge_apart fault] at copying
            cases copying
          · rename_i judged fit
            rw [if_neg ‹_›]
            exact Reached.replaced old sums reads fit

/-- A place whose destination is what a failed copy left. -/
theorem destination_left (part : String → Option Nat)
    (verified : ∀ entry ∈ source.manifest, Listed readers source.files entry) {place : Place}
    (there : place.destination = some (left source.files part)) :
    (∃ bundle, place.destination = some bundle ∧ Complete readers bundle) ↔
      Legible source part ∧ ∀ entry ∈ source.manifest, Whole source.files part entry.1 := by
  rw [← left_complete source part verified]
  constructor
  · rintro ⟨bundle, same, complete⟩
    rw [there] at same
    cases same
    exact complete
  · intro complete
    exact ⟨_, there, complete⟩

/-- Where the copy ended, the destination is a complete bundle exactly under the
condition. -/
theorem Reached.complete {replaceOwned : Bool} {outcomes : Outcomes} {place : Place}
    {ending : Except Raised Unit × Place} {stage : Raised}
    (verified : ∀ entry ∈ source.manifest, Listed readers source.files entry)
    (reached : Reached readers replaceOwned source.files outcomes place ending)
    (raised : ending.1 = .error stage) (copying : stage.fromCopy = true) :
    (∃ bundle, ending.2.destination = some bundle ∧ Complete readers bundle) ↔
      Recovers source outcomes place := by
  unfold Recovers
  cases reached with
  | fresh empty =>
      unfold copyFresh at raised ⊢
      cases how : outcomes.copy with
      | works =>
          rw [how] at raised
          cases raised
      | fails made part =>
          cases made with
          | true => exact destination_left source part verified rfl
          | false =>
              constructor
              · rintro ⟨bundle, nothing, _⟩
                cases nothing
              · intro both
                exact absurd empty both.1
  | @replaced installed text own old sums reads fit =>
      unfold swap at raised ⊢
      cases renames : outcomes.renames with
      | false =>
          rw [renames] at raised
          cases raised
          cases copying
      | true =>
          rw [renames] at raised
          simp only [if_true] at raised ⊢
          cases how : outcomes.copy with
          | works =>
              rw [how] at raised
              cases raised
          | fails made part =>
              cases made with
              | true => exact destination_left source part verified rfl
              | false =>
                  cases restores : outcomes.restores with
                  | false =>
                      constructor
                      · rintro ⟨bundle, nothing, _⟩
                        cases nothing
                      · intro both
                        cases both.2
                  | true =>
                      constructor
                      · intro _
                        exact ⟨by rw [old]; exact Option.some_ne_none _, rfl⟩
                      · intro _
                        exact ⟨installed, rfl, text, own, sums, reads, judge_listed fit⟩

/-- A legible SHA256.json is the new one: the next run leaves the bundle. -/
theorem settleIn_left {part : String → Option Nat} (legible : Legible source part)
    {next : Outcomes} {place : Place} (there : place.destination = some (left source.files part)) :
    (settleIn readers true source.files source.manifest next place).1 = .ok () := by
  obtain ⟨count, taken, readable⟩ := legible
  obtain ⟨own, reads⟩ := Option.isSome_iff_exists.mp readable
  have same : own = source.manifest := source.cutSums count own reads
  have sums : left source.files part sumsName = some (source.sums.take count) := by
    unfold left
    rw [source.there, taken]
  unfold settleIn
  simp only [there, sums, reads]
  rw [same, if_pos (List.Perm.refl _)]

/-- A later run that may replace the bundle is not refused. -/
theorem Reached.again {replaceOwned : Bool} {outcomes next : Outcomes} {place : Place}
    {ending : Except Raised Unit × Place} {stage : Raised}
    (reached : Reached readers replaceOwned source.files outcomes place ending)
    (raised : ending.1 = .error stage) (copying : stage.fromCopy = true)
    (recovers : Recovers source outcomes place) (renamed : next.renames = true)
    (works : next.copy = .works) :
    (settleIn readers true source.files source.manifest next ending.2).1 = .ok () := by
  unfold Recovers at recovers
  cases reached with
  | fresh empty =>
      unfold copyFresh at raised ⊢
      cases how : outcomes.copy with
      | works =>
          rw [how] at raised
          cases raised
      | fails made part =>
          rw [how] at recovers
          cases made with
          | true => exact settleIn_left source recovers.1 rfl
          | false => exact absurd empty recovers.1
  | @replaced installed text own old sums reads fit =>
      unfold swap at raised ⊢
      cases renames : outcomes.renames with
      | false =>
          rw [renames] at raised
          cases raised
          cases copying
      | true =>
          rw [renames] at raised
          simp only [if_true] at raised ⊢
          cases how : outcomes.copy with
          | works =>
              rw [how] at raised
              cases raised
          | fails made part =>
              rw [how] at recovers
              cases made with
              | true => exact settleIn_left source recovers.1 rfl
              | false =>
                  have owned : replaceOwned = true := by
                    unfold judge at fit
                    split at fit
                    · assumption
                    · cases fit
                  rw [owned] at fit
                  simp only [recovers.2, if_true]
                  unfold settleIn
                  simp only [sums, reads, fit]
                  split
                  · rfl
                  · unfold swap
                    rw [if_pos renamed, works]

/-- When the copy makes install() raise, what is installed is a complete bundle
exactly when the copy made no directory and the rename was undone, or when it
had every listed file whole; and then a later run goes through. -/
theorem replacing_recoverable {replaceOwned : Bool} {outcomes : Outcomes} {place : Place}
    {stage : Raised}
    (raised : (install readers replaceOwned source.files outcomes place).1 = .error stage ∧
      stage.fromCopy = true) :
    ((∃ bundle, (install readers replaceOwned source.files outcomes place).2.destination =
        some bundle ∧ Complete readers bundle) ↔ Recovers source outcomes place) ∧
    (Recovers source outcomes place → ∀ next : Outcomes, next.renames = true →
      next.copy = .works → (install readers true source.files next
        (install readers replaceOwned source.files outcomes place).2).1 = .ok ()) := by
  have verified : ∀ entry ∈ source.manifest, Listed readers source.files entry := by
    apply install_verified source
    intro name refused
    rw [raised.1] at refused
    cases refused
    cases raised.2
  have settles := install_settles source replaceOwned outcomes place verified
  have failed := raised.1
  rw [settles] at failed ⊢
  have reached := settleIn_reached failed raised.2
  constructor
  · exact reached.complete source verified failed raised.2
  · intro recovers next renamed works
    rw [install_settles source true next _ verified]
    exact reached.again source failed raised.2 recovers renamed works

end Recovery

/-! ### A copy cut short -/

def oldDigest : String := "888fdab87774c8b9f130385b88254a725d20a191672236cd1fa17fd2d5cfd2f5"
def newDigest : String := "9a82d354a7bc946d490261e513dde86a4853310e04748b986233e2f4041f48bf"

/-- CANDIDATE.json of the older bundle, with the id "a". -/
def oldInfo : Library.Bytes :=
  [123, 34, 105, 100, 34, 58, 32, 34, 97, 34, 125, 10]

/-- CANDIDATE.json of the newer one, with the same id and one more field. -/
def newInfo : Library.Bytes :=
  [123, 34, 105, 100, 34, 58, 32, 34, 97, 34, 44, 32, 34, 110, 34, 58, 32, 50, 125, 10]

/-- SHA256.json of the older bundle, as json.dumps writes it. -/
def oldSums : Library.Bytes :=
  [123, 10, 32, 32, 34, 67, 65, 78, 68, 73, 68, 65, 84, 69, 46, 106, 115, 111, 110, 34,
    58, 32, 34, 56, 56, 56, 102, 100, 97, 98, 56, 55, 55, 55, 52, 99, 56, 98, 57, 102,
    49, 51, 48, 51, 56, 53, 98, 56, 56, 50, 53, 52, 97, 55, 50, 53, 100, 50, 48, 97,
    49, 57, 49, 54, 55, 50, 50, 51, 54, 99, 100, 49, 102, 97, 49, 55, 102, 100, 50, 100,
    53, 99, 102, 100, 50, 102, 53, 34, 10, 125, 10]

/-- SHA256.json of the newer one. -/
def newSums : Library.Bytes :=
  [123, 10, 32, 32, 34, 67, 65, 78, 68, 73, 68, 65, 84, 69, 46, 106, 115, 111, 110, 34,
    58, 32, 34, 57, 97, 56, 50, 100, 51, 53, 52, 97, 55, 98, 99, 57, 52, 54, 100, 52,
    57, 48, 50, 54, 49, 101, 53, 49, 51, 100, 100, 101, 56, 54, 97, 52, 56, 53, 51, 51,
    49, 48, 101, 48, 52, 55, 52, 56, 98, 57, 56, 54, 50, 51, 51, 101, 50, 102, 52, 48,
    52, 49, 102, 52, 56, 98, 102, 34, 10, 125, 10]

def manifestOf (digest : String) : Manifest := [(infoName, digest)]

/-- The readers on the files of the two bundles. -/
def readers : Readers where
  sha256 := fun bytes =>
    if bytes = oldInfo then oldDigest else if bytes = newInfo then newDigest else ""
  manifest := fun bytes =>
    if bytes = oldSums then some (manifestOf oldDigest)
    else if bytes = newSums then some (manifestOf newDigest)
    else none
  ident := fun bytes => if bytes = oldInfo ∨ bytes = newInfo then some (some "a") else none

def bundleOf (info sums : Library.Bytes) : Bundle := fun name =>
  if name = infoName then some info else if name = sumsName then some sums else none

theorem cut_info : ∀ count < newInfo.length, readers.sha256 (newInfo.take count) ≠ newDigest := by
  decide +kernel

theorem cut_sums : ∀ count < newSums.length, readers.manifest (newSums.take count) = none := by
  decide +kernel

def newSource : Source readers where
  files := bundleOf newInfo newSums
  sums := newSums
  manifest := manifestOf newDigest
  there := by decide +kernel
  reads := by decide +kernel
  cutFiles := by
    intro entry bytes count member there short
    rw [List.mem_singleton.mp member] at there ⊢
    cases there
    exact cut_info count short
  cutSums := by
    intro count other reads
    by_cases short : count < newSums.length
    · rw [cut_sums count short] at reads
      cases reads
    · rw [List.take_of_length_le (by omega)] at reads
      have whole : readers.manifest newSums = some (manifestOf newDigest) := by
        decide +kernel
      rw [whole] at reads
      cases reads
      rfl

def oldPlace : Place where
  destination := some (bundleOf oldInfo oldSums)
  previous := none

/-- The copy fails after the directory is made and one file is copied. -/
def afterInfo : Outcomes where
  copy := .fails true (fun name => if name = infoName then some 20 else none)
  renames := true
  restores := true

/-- The copy fails before it has made the directory. -/
def beforeDirectory : Outcomes where
  copy := .fails false (fun _ => none)
  renames := true
  restores := true

def working : Outcomes where
  copy := .works
  renames := true
  restores := true

theorem restored_complete :
    ∃ bundle, (install readers true newSource.files beforeDirectory oldPlace).2.destination =
      some bundle ∧ Complete readers bundle := by
  have raised : (install readers true newSource.files beforeDirectory oldPlace).1 =
      .error .copying := by
    decide +kernel
  apply (replacing_recoverable newSource ⟨raised, rfl⟩).1.mpr
  exact ⟨Option.some_ne_none _, rfl⟩

/-- The old bundle is complete, the copy fails, and what is installed is no
bundle; a later run that may replace it is refused. -/
theorem half_copied_refused :
    Complete readers (bundleOf oldInfo oldSums) ∧
    (install readers true newSource.files afterInfo oldPlace).1 = .error .copying ∧
    (¬∃ bundle, (install readers true newSource.files afterInfo oldPlace).2.destination =
      some bundle ∧ Complete readers bundle) ∧
    (install readers true newSource.files working
      (install readers true newSource.files afterInfo oldPlace).2).1 = .error .another := by
  constructor
  · refine ⟨oldSums, manifestOf oldDigest, ?_, ?_, ?_⟩
    · decide +kernel
    · decide +kernel
    · decide +kernel
  constructor
  · decide +kernel
  constructor
  · rintro ⟨bundle, there, text, own, sums, _⟩
    have bare : (install readers true newSource.files afterInfo oldPlace).2.destination.bind
        (fun installed => installed sumsName) = none := by
      decide +kernel
    rw [there, Option.bind_some, sums] at bare
    cases bare
  · decide +kernel

end Liuqin.Fingerprint.Candidate
