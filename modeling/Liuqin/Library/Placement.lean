/-
Greedy placement of consecutive extents behind a rounding operator.

A list of requests is placed one after another from a starting point; every
boundary is rounded up by a closure operator.  The greedy boundaries are the
least ones, so a limit can be met by some placement exactly when the greedy
placement meets it.
-/

import Mathlib

namespace Liuqin.Library.Placement

section Greedy

variable {α : Type*} [AddCommMonoid α] [PartialOrder α] (round : ClosureOperator α)

/-- The boundaries chosen by always taking the first admissible point. -/
def greedy (start : α) : List α → List α
  | [] => []
  | request :: rest =>
      round (start + request) :: greedy (round (start + request)) rest

/-- Boundaries that give every request its room and lie on rounded points. -/
def Feasible (start : α) : List α → List α → Prop
  | [], [] => True
  | request :: rest, cut :: cuts =>
      round.IsClosed cut ∧ start + request ≤ cut ∧ Feasible cut rest cuts
  | [], _ :: _ => False
  | _ :: _, [] => False

/-- The end of the last extent; an empty placement ends where it starts. -/
def finish (start : α) : List α → α
  | [] => start
  | cut :: cuts => finish cut cuts

theorem greedy_feasible (start : α) (requests : List α) :
    Feasible round start requests (greedy round start requests) := by
  induction requests generalizing start with
  | nil => trivial
  | cons request rest ih =>
      exact ⟨round.isClosed_closure _, round.le_closure _, ih _⟩

variable [IsOrderedAddMonoid α]

/-- Induction on the requests; the start is generalised because a feasible
placement may already be ahead of the greedy one. -/
theorem greedy_finish_le (low high : α) (requests cuts : List α)
    (ahead : low ≤ high) (feasible : Feasible round high requests cuts) :
    finish low (greedy round low requests) ≤ finish high cuts := by
  induction requests generalizing low high cuts with
  | nil =>
      cases cuts with
      | nil => exact ahead
      | cons cut cuts => exact False.elim feasible
  | cons request rest ih =>
      cases cuts with
      | nil => exact False.elim feasible
      | cons cut cuts =>
          obtain ⟨closed, room, later⟩ := feasible
          have shifted : low + request ≤ cut :=
            (add_le_add_left ahead request).trans room
          have least : round (low + request) ≤ cut :=
            closed.closure_le_iff.mpr shifted
          exact ih (round (low + request)) cut cuts least later

/-- Some placement stays inside the limit exactly when the greedy one does. -/
theorem exists_feasible_iff (start limit : α) (requests : List α) :
    (∃ cuts, Feasible round start requests cuts ∧ finish start cuts ≤ limit) ↔
      finish start (greedy round start requests) ≤ limit := by
  constructor
  · rintro ⟨cuts, feasible, inside⟩
    exact (greedy_finish_le round start start requests cuts le_rfl feasible).trans inside
  · intro inside
    exact ⟨_, greedy_feasible round start requests, inside⟩

end Greedy

/-- Rounding an integer up to a multiple, written with floor division only. -/
def ceilTo (step offset : Int) : Int :=
  -(-offset / step) * step

theorem le_ceilTo {step : Int} (positive : 0 < step) (offset : Int) :
    offset ≤ ceilTo step offset := by
  have below := Int.ediv_mul_le (-offset) (ne_of_gt positive)
  unfold ceilTo
  rw [Int.neg_mul]
  omega

theorem ceilTo_lt {step : Int} (positive : 0 < step) (offset : Int) :
    ceilTo step offset < offset + step := by
  have above := Int.lt_ediv_add_one_mul_self (-offset) positive
  unfold ceilTo
  rw [Int.add_mul, Int.one_mul] at above
  rw [Int.neg_mul]
  omega

theorem step_dvd_ceilTo (step offset : Int) : step ∣ ceilTo step offset :=
  ⟨-(-offset / step), by unfold ceilTo; rw [Int.mul_comm]⟩

theorem ceilTo_le_iff {step : Int} (positive : 0 < step) {offset bound : Int}
    (aligned : step ∣ bound) : ceilTo step offset ≤ bound ↔ offset ≤ bound := by
  constructor
  · exact fun below => (le_ceilTo positive offset).trans below
  · intro below
    obtain ⟨factor, rfl⟩ := aligned
    have quotient : -factor ≤ -offset / step := by
      apply Int.le_ediv_of_mul_le positive
      have commuted : -factor * step = -(step * factor) := by
        rw [Int.neg_mul, Int.mul_comm]
      omega
    have scaled : -(-offset / step) * step ≤ factor * step :=
      Int.mul_le_mul_of_nonneg_right (by omega) (le_of_lt positive)
    unfold ceilTo
    rw [Int.mul_comm step factor]
    exact scaled

theorem ceilTo_of_dvd {step : Int} (positive : 0 < step) {offset : Int}
    (aligned : step ∣ offset) : ceilTo step offset = offset :=
  le_antisymm ((ceilTo_le_iff positive aligned).mpr le_rfl) (le_ceilTo positive offset)

/-- Rounding up to a positive step as a closure operator on the integers. -/
noncomputable def ceilClosure (step : Int) (positive : 0 < step) : ClosureOperator Int :=
  ClosureOperator.ofPred (ceilTo step) (fun offset => step ∣ offset)
    (le_ceilTo positive) (step_dvd_ceilTo step)
    (fun {_ _} below aligned => (ceilTo_le_iff positive aligned).mpr below)

@[simp] theorem ceilClosure_apply (step : Int) (positive : 0 < step) (offset : Int) :
    ceilClosure step positive offset = ceilTo step offset := rfl

@[simp] theorem ceilClosure_isClosed (step : Int) (positive : 0 < step) (offset : Int) :
    (ceilClosure step positive).IsClosed offset ↔ step ∣ offset := Iff.rfl

end Liuqin.Library.Placement
