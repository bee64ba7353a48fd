/-
The progress of an enrolment, whatever the provider prints and whenever it is
cancelled: the stages count up by one and stay below what was announced, and a
print stands for a provider that cleaned up first.
-/

import Liuqin.Fingerprint.Adapter

namespace Liuqin.Fingerprint.Adapter

open Liuqin.Library (Bytes)
open Liuqin.Library.Lines (Text)

/-! ### What was reported -/

/-- The stages that were reported as completed. -/
def numbers (reports : List Report) : List Int :=
  reports.filterMap (fun made => match made with
    | .progress completed => some completed
    | _ => none)

/-- The stage counts that were announced. -/
def stagesOf (reports : List Report) : List Int :=
  reports.filterMap (fun made => match made with
    | .stages count => some count
    | _ => none)

def counting (count : Nat) : List Int := (List.range count).map (fun index : Nat => (index : Int) + 1)

/-- At any time the completed stages are 1, 2, ..., and one less than announced at most. -/
structure WellCounted (reports : List Report) : Prop where
  counted : ∀ front, front <+: reports → numbers front = counting (numbers front).length
  below : ∀ front stages, front <+: reports → (stagesOf front).getLast? = some stages →
    ((numbers front).length : Int) + 1 ≤ stages

theorem numbers_append (front back : List Report) :
    numbers (front ++ back) = numbers front ++ numbers back := List.filterMap_append

theorem stagesOf_append (front back : List Report) :
    stagesOf (front ++ back) = stagesOf front ++ stagesOf back := List.filterMap_append

theorem counting_succ (count : Nat) : counting (count + 1) = counting count ++ [(count : Int) + 1] := by
  rw [counting, List.range_succ, List.map_append, counting]
  rfl

theorem wellCounted_append {reports : List Report} {made : Report} (counted : WellCounted reports)
    (number : numbers (reports ++ [made]) = counting (numbers (reports ++ [made])).length)
    (below : ∀ stages, (stagesOf (reports ++ [made])).getLast? = some stages →
      ((numbers (reports ++ [made])).length : Int) + 1 ≤ stages) :
    WellCounted (reports ++ [made]) := by
  constructor
  · intro front early
    rcases List.prefix_concat_iff.mp early with same | before
    · rw [same]
      exact number
    · exact counted.counted front before
  · intro front stages early last
    rcases List.prefix_concat_iff.mp early with same | before
    · rw [same] at last ⊢
      exact below stages last
    · exact counted.below front stages before last

/-! ### The invariant -/

structure Good (cancels : Nat → Bool) (adapter : Adapter) : Prop where
  counted : WellCounted adapter.reports
  completed : adapter.enrolCompleted = (numbers adapter.reports).length
  stages : (adapter.enrolStages = 0 ∧ stagesOf adapter.reports = [20] ∧ numbers adapter.reports = []) ∨
    (1 ≤ adapter.enrolStages ∧ adapter.enrolStages ≤ 40 ∧
      stagesOf adapter.reports = [20, adapter.enrolStages])
  quiet : adapter.cancelled = false → ∀ index < adapter.reports.length, cancels index = false

/-- The flags that the provider's markers set. -/
def SameFlags (before after : Adapter) : Prop :=
  after.enrolCleaned = before.enrolCleaned ∧ after.enrolSucceeded = before.enrolSucceeded ∧
    (before.cancelled = true → after.cancelled = true)

theorem SameFlags.refl (self : Adapter) : SameFlags self self := ⟨rfl, rfl, fun same => same⟩

theorem SameFlags.trans {one two three : Adapter} (first : SameFlags one two)
    (second : SameFlags two three) : SameFlags one three :=
  ⟨second.1.trans first.1, second.2.1.trans first.2.1, fun same => second.2.2 (first.2.2 same)⟩

section Steps

variable {cancels : Nat → Bool} {self : Adapter}

theorem report_flags (made : Report) : SameFlags self (report cancels self made) := by
  refine ⟨rfl, rfl, ?_⟩
  intro cancelled
  show (self.cancelled || cancels self.reports.length) = true
  rw [cancelled]
  rfl

theorem report_quiet (good : Good cancels self) {made : Report}
    (cancelled : (report cancels self made).cancelled = false) :
    ∀ index < (report cancels self made).reports.length, cancels index = false := by
  obtain ⟨before, now⟩ := Bool.or_eq_false_iff.mp cancelled
  intro index early
  have length : (report cancels self made).reports.length = self.reports.length + 1 := by
    show (self.reports ++ [made]).length = self.reports.length + 1
    rw [List.length_append]
    rfl
  rw [length] at early
  rcases Nat.lt_succ_iff_lt_or_eq.mp early with earlier | same
  · exact good.quiet before index earlier
  · rw [same]
    exact now

/-- A report of neither kind. -/
theorem good_report (good : Good cancels self) {made : Report} (noNumber : numbers [made] = [])
    (noStages : stagesOf [made] = []) : Good cancels (report cancels self made) := by
  have number : numbers (self.reports ++ [made]) = numbers self.reports := by
    rw [numbers_append, noNumber, List.append_nil]
  have stages : stagesOf (self.reports ++ [made]) = stagesOf self.reports := by
    rw [stagesOf_append, noStages, List.append_nil]
  constructor
  · apply wellCounted_append good.counted
    · rw [number]
      exact good.counted.counted self.reports List.prefix_rfl
    · intro count last
      rw [stages] at last
      rw [number]
      exact good.counted.below self.reports count List.prefix_rfl last
  · show self.enrolCompleted = (numbers (self.reports ++ [made])).length
    rw [number]
    exact good.completed
  · show (self.enrolStages = 0 ∧ stagesOf (self.reports ++ [made]) = [20] ∧
        numbers (self.reports ++ [made]) = []) ∨ (1 ≤ self.enrolStages ∧ self.enrolStages ≤ 40 ∧
          stagesOf (self.reports ++ [made]) = [20, self.enrolStages])
    rw [stages, number]
    exact good.stages
  · exact report_quiet good

theorem good_retry (good : Good cancels self) : Good cancels (enrolRetry cancels self) := by
  unfold enrolRetry
  split
  · exact good_report good rfl rfl
  · exact good

theorem retry_flags : SameFlags self (enrolRetry cancels self) := by
  unfold enrolRetry
  split
  · exact report_flags _
  · exact .refl self

/-- One more stage, as long as it is not the last one. -/
theorem good_progress (good : Good cancels self) (below : self.enrolCompleted + 1 < self.enrolStages) :
    Good cancels (report cancels { self with enrolCompleted := self.enrolCompleted + 1 }
      (.progress (self.enrolCompleted + 1))) := by
  have completed := good.completed
  have number : numbers (self.reports ++ [.progress (self.enrolCompleted + 1)]) =
      numbers self.reports ++ [self.enrolCompleted + 1] := by
    rw [numbers_append]
    rfl
  have stages : stagesOf (self.reports ++ [.progress (self.enrolCompleted + 1)]) =
      stagesOf self.reports := by
    rw [stagesOf_append]
    exact List.append_nil _
  have many : 1 ≤ self.enrolStages ∧ self.enrolStages ≤ 40 ∧
      stagesOf self.reports = [20, self.enrolStages] := by
    rcases good.stages with ⟨none, _⟩ | some
    · omega
    · exact some
  constructor
  · apply wellCounted_append good.counted
    · show numbers (self.reports ++ [.progress (self.enrolCompleted + 1)]) =
        counting (numbers (self.reports ++ [.progress (self.enrolCompleted + 1)])).length
      rw [number, List.length_append, List.length_singleton, counting_succ, ← completed,
        ← good.counted.counted self.reports List.prefix_rfl]
    · intro count last
      have length : (numbers (self.reports ++ [.progress (self.enrolCompleted + 1)])).length =
          (numbers self.reports).length + 1 := by
        rw [number, List.length_append]
        rfl
      have announced : (stagesOf (self.reports ++
          [.progress (self.enrolCompleted + 1)])).getLast? = some self.enrolStages := by
        rw [stages, many.2.2]
        rfl
      rw [announced] at last
      injection last with same
      rw [length, ← same]
      omega
  · show self.enrolCompleted + 1 =
      (numbers (self.reports ++ [.progress (self.enrolCompleted + 1)])).length
    rw [number, List.length_append, List.length_singleton]
    omega
  · right
    refine ⟨many.1, many.2.1, ?_⟩
    show stagesOf (self.reports ++ [.progress (self.enrolCompleted + 1)]) = [20, self.enrolStages]
    rw [stages]
    exact many.2.2
  · have same : Good cancels self := good
    exact @report_quiet cancels self same _

/-- The loop, by induction on the stages that are left to publish. -/
theorem good_publish {more : Nat} (good : Good cancels self)
    (below : self.enrolCompleted + more < self.enrolStages) : Good cancels (publish cancels more self) := by
  induction more generalizing self with
  | zero => exact good
  | succ more ih =>
      unfold publish
      split
      · exact good
      · apply ih
        · exact good_progress good (by omega)
        · show self.enrolCompleted + 1 + more < self.enrolStages
          omega

theorem publish_flags {more : Nat} : SameFlags self (publish cancels more self) := by
  induction more generalizing self with
  | zero => exact .refl self
  | succ more ih =>
      unfold publish
      split
      · exact .refl self
      · have first : SameFlags self (report cancels
            { self with enrolCompleted := self.enrolCompleted + 1 }
            (.progress (self.enrolCompleted + 1))) :=
          @report_flags cancels { self with enrolCompleted := self.enrolCompleted + 1 } _
        exact first.trans ih

/-- The first sample announces the stages. -/
theorem good_announce (good : Good cancels self) {remaining : Nat} (few : remaining < 40) :
    Good cancels (announce cancels self remaining) ∧
      1 ≤ (announce cancels self remaining).enrolStages := by
  unfold announce
  by_cases none : self.enrolStages = 0
  · rw [if_pos none]
    have blank : stagesOf self.reports = [20] ∧ numbers self.reports = [] := by
      rcases good.stages with ⟨_, blank⟩ | ⟨some, _⟩
      · exact blank
      · omega
    have number : numbers (self.reports ++ [.stages (remaining + 1)]) = [] := by
      rw [numbers_append, blank.2]
      rfl
    have stages : stagesOf (self.reports ++ [.stages (remaining + 1)]) =
        [20, (remaining : Int) + 1] := by
      rw [stagesOf_append, blank.1]
      rfl
    constructor
    · constructor
      · apply wellCounted_append good.counted
        · rw [number]
          rfl
        · intro count last
          rw [stages] at last
          injection last with same
          rw [number, ← same]
          show ((0 : Nat) : Int) + 1 ≤ (remaining : Int) + 1
          omega
      · show self.enrolCompleted = (numbers (self.reports ++ [.stages (remaining + 1)])).length
        rw [number, good.completed, blank.2]
      · right
        refine ⟨?_, ?_, stages⟩
        · show 1 ≤ (remaining : Int) + 1
          omega
        · show (remaining : Int) + 1 ≤ 40
          omega
      · exact @report_quiet cancels self good _
    · show 1 ≤ (remaining : Int) + 1
      omega
  · rw [if_neg none]
    refine ⟨good, ?_⟩
    rcases good.stages with ⟨zero, _⟩ | ⟨some, _⟩
    · exact absurd zero none
    · exact some

theorem announce_flags {remaining : Nat} : SameFlags self (announce cancels self remaining) := by
  unfold announce
  split
  · exact @report_flags cancels { self with
      enrolStages := remaining + 1
      enrolRemaining := remaining + 1 } _
  · exact .refl self

theorem clamp_below {value high : Int} (nonnegative : 0 ≤ high) : clamp value 0 high ≤ high := by
  unfold clamp
  split
  · exact Int.le_refl high
  · split
    · exact nonnegative
    · omega

/-- A sample keeps the order: the completed stages stay below the announced ones. -/
theorem good_sample (good : Good cancels self) (status : Int) (remaining : Nat) :
    Good cancels (enrolSample cancels self status remaining) := by
  unfold enrolSample
  by_cases bad : status < 0 ∨ remaining ≥ 40
  · rw [if_pos bad]
    exact good_retry good
  · rw [if_neg bad]
    rw [not_or] at bad
    obtain ⟨announced, some⟩ := good_announce good (by omega : remaining < 40)
    by_cases stuck : remaining ≥ (announce cancels self remaining).enrolRemaining
    · simp only [if_pos stuck]
      exact good_retry announced
    · simp only [if_neg stuck]
      have same : Good cancels { announce cancels self remaining with enrolRemaining := remaining } := {
        counted := announced.counted
        completed := announced.completed
        stages := announced.stages
        quiet := announced.quiet }
      by_cases later : clamp ((announce cancels self remaining).enrolStages - remaining) 0
          ((announce cancels self remaining).enrolStages - 1) ≤
            (announce cancels self remaining).enrolCompleted
      · have nothing : (clamp ((announce cancels self remaining).enrolStages - remaining) 0
            ((announce cancels self remaining).enrolStages - 1) -
              (announce cancels self remaining).enrolCompleted).toNat = 0 := by
          omega
        rw [nothing]
        exact same
      · apply good_publish same
        have below : clamp ((announce cancels self remaining).enrolStages - remaining) 0
            ((announce cancels self remaining).enrolStages - 1) ≤
              (announce cancels self remaining).enrolStages - 1 := clamp_below (by omega)
        show (announce cancels self remaining).enrolCompleted + _ <
          (announce cancels self remaining).enrolStages
        omega

theorem sample_flags (status : Int) (remaining : Nat) :
    SameFlags self (enrolSample cancels self status remaining) := by
  unfold enrolSample
  split
  · exact retry_flags
  · simp only
    split
    · exact announce_flags.trans retry_flags
    · have moved : SameFlags (announce cancels self remaining)
          { announce cancels self remaining with enrolRemaining := remaining } :=
        ⟨rfl, rfl, fun same => same⟩
      exact announce_flags.trans (moved.trans publish_flags)

/-! ### Lines -/

/-- A line that is no marker of the provider's leaves the flags. -/
theorem statusLine_other {line : Text} (good : Good cancels self) (notCleanup : line ≠ cleanupLine)
    (notSuccess : line ≠ successLine) :
    Good cancels (enrolStatusLine cancels self line) ∧
      SameFlags self (enrolStatusLine cancels self line) := by
  unfold enrolStatusLine
  rw [if_neg notCleanup, if_neg notSuccess]
  split
  · refine ⟨?_, rfl, rfl, fun same => same⟩
    exact {
      counted := good.counted
      completed := good.completed
      stages := good.stages
      quiet := good.quiet }
  · split
    · exact ⟨good, .refl self⟩
    · split
      · exact ⟨good_sample good _ _, sample_flags _ _⟩
      · split
        · exact ⟨good_retry good, retry_flags⟩
        · split
          · exact ⟨good_report good rfl rfl, report_flags _⟩
          · split
            · exact ⟨good_report good rfl rfl, report_flags _⟩
            · exact ⟨good, .refl self⟩

theorem statusLine_cleanup : enrolStatusLine cancels self cleanupLine =
    { self with enrolCleaned := true } := if_pos rfl

theorem statusLine_success : enrolStatusLine cancels self successLine =
    { self with enrolSucceeded := self.enrolCleaned } := by
  unfold enrolStatusLine
  rw [if_neg (by decide), if_pos rfl]

/-- What the flags say of the events so far. -/
structure Marked (events : List Event) (adapter : Adapter) : Prop where
  cleaned : adapter.enrolCleaned = true → .line cleanupLine ∈ events
  succeeded : adapter.enrolSucceeded = true →
    ∃ front between back,
      events = front ++ .line cleanupLine :: (between ++ .line successLine :: back)
  cancelled : .cancel ∈ events → adapter.cancelled = true

theorem marked_later {events : List Event} {after : Adapter} (marked : Marked events self)
    (flags : SameFlags self after) (event : Event) (notCancel : event ≠ .cancel) :
    Marked (events ++ [event]) after where
  cleaned := by
    intro cleaned
    rw [flags.1] at cleaned
    exact List.mem_append_left _ (marked.cleaned cleaned)
  succeeded := by
    intro succeeded
    rw [flags.2.1] at succeeded
    obtain ⟨front, between, back, split⟩ := marked.succeeded succeeded
    refine ⟨front, between, back ++ [event], ?_⟩
    rw [split]
    simp only [List.append_assoc, List.cons_append]
  cancelled := by
    intro member
    rcases List.mem_append.mp member with early | now
    · exact flags.2.2 (marked.cancelled early)
    · exact absurd (List.mem_singleton.mp now).symm notCancel

theorem handle_good {events : List Event} (good : Good cancels self) (marked : Marked events self)
    (event : Event) :
    Good cancels (handle cancels self event) ∧
      Marked (events ++ [event]) (handle cancels self event) := by
  cases event with
  | cancel =>
      constructor
      · exact {
          counted := good.counted
          completed := good.completed
          stages := good.stages
          quiet := fun impossible => by cases impossible }
      · constructor
        · intro cleaned
          exact List.mem_append_left _ (marked.cleaned cleaned)
        · intro succeeded
          obtain ⟨front, between, back, split⟩ := marked.succeeded succeeded
          refine ⟨front, between, back ++ [.cancel], ?_⟩
          rw [split]
          simp only [List.append_assoc, List.cons_append]
        · intro _
          rfl
  | line text =>
      have notCancel : Event.line text ≠ .cancel := by
        intro impossible
        cases impossible
      rw [handle]
      split
      · by_cases cleanup : text = cleanupLine
        · rw [cleanup, statusLine_cleanup]
          constructor
          · exact {
              counted := good.counted
              completed := good.completed
              stages := good.stages
              quiet := good.quiet }
          · have later := marked_later marked (.refl self) (.line cleanupLine)
              (by intro impossible; cases impossible)
            exact {
              cleaned := fun _ => List.mem_append_right _ (List.mem_singleton_self _)
              succeeded := later.succeeded
              cancelled := later.cancelled }
        · by_cases success : text = successLine
          · rw [success, statusLine_success]
            constructor
            · exact {
                counted := good.counted
                completed := good.completed
                stages := good.stages
                quiet := good.quiet }
            · have later := marked_later marked (.refl self) (.line successLine)
                (by intro impossible; cases impossible)
              exact {
                cleaned := later.cleaned
                succeeded := by
                  intro succeeded
                  obtain ⟨front, back, split⟩ := List.append_of_mem (marked.cleaned succeeded)
                  refine ⟨front, back, [], ?_⟩
                  rw [split]
                  simp only [List.append_assoc, List.cons_append]
                cancelled := later.cancelled }
          · obtain ⟨stays, flags⟩ := statusLine_other good cleanup success
            exact ⟨stays, marked_later marked flags _ notCancel⟩
      · exact ⟨good, marked_later marked (.refl self) _ notCancel⟩

end Steps

/-! ### A whole enrolment -/

theorem started_numbers {front : List Report}
    (early : front <+: [.stages 20, .finger .needed]) : numbers front = [] := by
  have sublist : List.Sublist (numbers front) (numbers [.stages 20, .finger .needed]) :=
    early.sublist.filterMap _
  exact List.eq_nil_of_sublist_nil sublist

theorem good_started (cancels : Nat → Bool) : Good cancels (started cancels) := by
  have form : (started cancels).reports = [.stages 20, .finger .needed] := rfl
  constructor
  · rw [form]
    constructor
    · intro front early
      rw [started_numbers early]
      rfl
    · intro front stages early last
      have announced : List.Sublist (stagesOf front)
          (stagesOf [.stages 20, .finger .needed]) := early.sublist.filterMap _
      have twenty : stages = 20 := List.mem_singleton.mp
        (announced.subset (List.mem_of_getLast? last))
      rw [started_numbers early, twenty]
      decide
  · rfl
  · exact Or.inl ⟨rfl, rfl, rfl⟩
  · intro quiet index early
    obtain ⟨first, second⟩ := Bool.or_eq_false_iff.mp quiet
    rw [form] at early
    match index, early with
    | 0, _ => exact first
    | 1, _ => exact second

theorem handled (cancels : Nat → Bool) (events : List Event) :
    Good cancels (handleAll cancels (started cancels) events) ∧
      Marked events (handleAll cancels (started cancels) events) := by
  induction events using List.reverseRecOn with
  | nil =>
      refine ⟨good_started cancels, ?_⟩
      constructor
      · intro impossible
        cases impossible
      · intro impossible
        cases impossible
      · intro impossible
        cases impossible
  | append_singleton events event ih =>
      rw [handleAll, List.foldl_append]
      exact handle_good ih.1 ih.2 event

theorem readAll_length {length : Nat} {database whole : Bytes} {reads : List ReadResult}
    (within : database.length ≤ length) (done : readAll length database reads = some whole) :
    whole.length = length := by
  induction reads generalizing database with
  | nil =>
      rw [readAll] at done
      split at done
      · cases done
      · injection done with same
        rw [← same]
        omega
  | cons result rest ih =>
      unfold readAll at done
      split at done
      · cases result with
        | interrupted => exact ih within done
        | failed => cases done
        | data bytes =>
            cases bytes with
            | nil => cases done
            | cons byte more =>
                apply ih _ done
                rw [List.length_append, List.length_take]
                omega
      · injection done with same
        rw [← same]
        omega

/-- The database that a print holds was a private file of root's. -/
structure Private (file : Option DatabaseFile) (database : Bytes) : Prop where
  nonempty : database ≠ []
  file : ∃ info, file = some info ∧ info.regular = true ∧ info.uid = 0 ∧ info.gid = 0 ∧
    info.mode % 512 = 0o600 ∧ info.size = database.length

theorem load_private {file : Option DatabaseFile} {database : Bytes}
    (loaded : loadEnrolledDatabase file = some database) : Private file database := by
  cases file with
  | none => cases loaded
  | some info =>
      rw [loadEnrolledDatabase] at loaded
      split at loaded
      · cases loaded
      · rename_i fine
        simp only [not_or, not_not] at fine
        obtain ⟨regular, uid, gid, mode, positive, _⟩ := fine
        have length := readAll_length (Nat.zero_le _) loaded
        constructor
        · intro empty
          rw [empty, List.length_nil] at length
          omega
        · refine ⟨info, rfl, regular, uid, gid, mode, ?_⟩
          omega

/-- A print is returned at the end of all checks. -/
theorem finished_ok {self : Adapter} {ending : Ending} {database : Bytes}
    (finished : enrolFinished self ending = .ok database) :
    (self.cancelled = false ∧ ending.actionCancelled = false) ∧ ending.readError = false ∧
      (((ending.exited = true ∧ ending.exitStatus = 0) ∧ self.enrolCleaned = true) ∧
        self.enrolSucceeded = true) ∧
      loadEnrolledDatabase ending.database = some database := by
  unfold enrolFinished at finished
  simp only at finished
  by_cases cancelled : ((self.cancelled || ending.actionCancelled) && self.enrolCleaned) = true
  · rw [if_pos cancelled] at finished
    cases finished
  rw [if_neg cancelled] at finished
  by_cases failed : ending.readError = true
  · rw [if_pos failed] at finished
    cases finished
  rw [if_neg failed] at finished
  have noReadError : ending.readError = false := Bool.eq_false_iff.mpr failed
  cases quiet : self.cancelled || ending.actionCancelled with
  | true =>
      rw [quiet, Bool.or_true, if_pos rfl] at finished
      cases finished
  | false =>
      rw [quiet, Bool.or_false] at finished
      cases valid : (ending.exited && decide ((if ending.exited = true then ending.exitStatus
          else -1) = 0) && self.enrolCleaned && self.enrolSucceeded && !ending.readError) with
      | false =>
          rw [valid, if_pos (by rfl)] at finished
          cases finished
      | true =>
          rw [valid, if_neg (by decide)] at finished
          simp only [Bool.and_eq_true, decide_eq_true_eq] at valid
          obtain ⟨⟨⟨⟨exited, status⟩, cleaned⟩, succeeded⟩, _⟩ := valid
          rw [if_pos exited] at status
          cases loaded : loadEnrolledDatabase ending.database with
          | none =>
              rw [loaded] at finished
              cases finished
          | some held =>
              rw [loaded] at finished
              injection finished with same
              rw [same]
              exact ⟨Bool.or_eq_false_iff.mp quiet, noReadError,
                ⟨⟨⟨exited, status⟩, cleaned⟩, succeeded⟩, rfl⟩

/-- The operation was cancelled, between two lines, from inside a report, or at the end. -/
def Enrolment.Cancelled (enrolment : Enrolment) : Prop :=
  .cancel ∈ enrolment.events ∨
    (∃ index < enrolment.adapter.reports.length, enrolment.cancels index = true) ∨
    enrolment.ending.actionCancelled = true

/-- What a print stands for. -/
structure Returned (enrolment : Enrolment) (database : Bytes) : Prop where
  cleanedFirst : ∃ front between back, enrolment.events =
    front ++ .line cleanupLine :: (between ++ .line successLine :: back)
  exited : enrolment.ending.exited = true ∧ enrolment.ending.exitStatus = 0
  noReadError : enrolment.ending.readError = false
  notCancelled : ¬enrolment.Cancelled
  database : Private enrolment.ending.database database

structure WellFormed (enrolment : Enrolment) : Prop where
  progress : WellCounted enrolment.adapter.reports
  stages : stagesOf enrolment.adapter.reports = [20] ∨
    ∃ count, 1 ≤ count ∧ count ≤ 40 ∧ stagesOf enrolment.adapter.reports = [20, count]
  print : ∀ database, enrolment.result = .ok database → Returned enrolment database

theorem enrolment_wellFormed (enrolment : Enrolment) : WellFormed enrolment := by
  have both : Good enrolment.cancels enrolment.adapter ∧ Marked enrolment.events enrolment.adapter :=
    handled enrolment.cancels enrolment.events
  obtain ⟨good, marked⟩ := both
  constructor
  · exact good.counted
  · rcases good.stages with ⟨_, none, _⟩ | ⟨least, most, some⟩
    · exact Or.inl none
    · exact Or.inr ⟨_, least, most, some⟩
  · intro database returned
    obtain ⟨notCancelled, noReadError, valid, loaded⟩ := finished_ok returned
    obtain ⟨⟨⟨exited, status⟩, cleaned⟩, succeeded⟩ := valid
    obtain ⟨quiet, kept⟩ := notCancelled
    exact {
      cleanedFirst := marked.succeeded succeeded
      exited := ⟨exited, status⟩
      noReadError := noReadError
      notCancelled := by
        rintro (before | ⟨index, early, during⟩ | atEnd)
        · rw [marked.cancelled before] at quiet
          cases quiet
        · rw [good.quiet quiet index early] at during
          cases during
        · rw [kept] at atEnd
          cases atEnd
      database := load_private loaded }

end Liuqin.Fingerprint.Adapter
