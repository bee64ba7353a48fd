/-
Fail-fast checks in `Except`.

A checked computation is a chain of refusals and intermediate results.  The
lemmas here take a successful chain apart, one link at a time, so that a proof
about accepted inputs never unfolds the monad.
-/

import Mathlib.Data.List.Basic
import Mathlib.Data.List.Forall2

namespace Liuqin.Library.Checked

variable {ε α β : Type}

/-- Stop with `reason` when the condition holds. -/
def refuseIf (condition : Prop) [Decidable condition] (reason : ε) : Except ε Unit :=
  if condition then .error reason else .ok ()

@[simp] theorem refuseIf_eq_ok (condition : Prop) [Decidable condition] (reason : ε) (answer : Unit) :
    refuseIf condition reason = .ok answer ↔ ¬condition := by
  unfold refuseIf
  by_cases holds : condition
  · simp [holds]
  · simp [holds]

@[simp] theorem bind_eq_ok (first : Except ε α) (next : α → Except ε β) (result : β) :
    first >>= next = .ok result ↔ ∃ value, first = .ok value ∧ next value = .ok result := by
  cases first with
  | error reason => simp [bind, Except.bind]
  | ok value => simp [bind, Except.bind]

@[simp] theorem pure_eq_ok (value result : α) :
    (pure value : Except ε α) = .ok result ↔ value = result := by
  simp [pure, Except.pure]

/-- A list of checked steps that all succeed. -/
theorem mapM_ok {step : α → Except ε β} {value : α → β} {items : List α}
    (each : ∀ item ∈ items, step item = .ok (value item)) :
    items.mapM step = .ok (items.map value) := by
  induction items with
  | nil => rfl
  | cons item rest ih =>
      have later := ih (fun other member => each other (List.mem_cons_of_mem _ member))
      rw [List.mapM_cons, each item List.mem_cons_self, later]
      rfl

/-- A list of checks passes where each of them does. -/
theorem forM_eq_ok {step : α → Except ε Unit} {items : List α} :
    items.forM step = .ok () ↔ ∀ item ∈ items, step item = .ok () := by
  induction items with
  | nil =>
      constructor
      · intro _ item member
        cases member
      · intro _
        rfl
  | cons item rest ih =>
      have split : (item :: rest).forM step = step item >>= fun _ => rest.forM step := rfl
      rw [split, bind_eq_ok]
      constructor
      · rintro ⟨answer, first, later⟩ other member
        rcases List.mem_cons.mp member with same | further
        · rw [same]
          exact first
        · exact ih.mp later other further
      · intro each
        have later := ih.mpr (fun other member => each other (List.mem_cons_of_mem _ member))
        exact ⟨(), each item List.mem_cons_self, later⟩

/-! ### Lists of results -/

/-- The results of steps that all succeed, one by one. -/
theorem mapM_forall {step : α → Except ε β} {items : List α} {results : List β}
    (passed : items.mapM step = .ok results) :
    List.Forall₂ (fun item result => step item = .ok result) items results := by
  induction items generalizing results with
  | nil =>
      cases passed
      exact .nil
  | cons item rest ih =>
      rw [List.mapM_cons] at passed
      obtain ⟨first, one, passed⟩ := (bind_eq_ok _ _ _).mp passed
      obtain ⟨others, later, passed⟩ := (bind_eq_ok _ _ _).mp passed
      rw [← (pure_eq_ok _ _).mp passed]
      exact .cons one (ih later)

theorem forall_left {relation : α → β → Prop} {items : List α} {results : List β}
    (all : List.Forall₂ relation items results) {item : α} (member : item ∈ items) :
    ∃ result ∈ results, relation item result := by
  induction all with
  | nil => cases member
  | cons first others ih =>
      rcases List.mem_cons.mp member with rfl | later
      · exact ⟨_, List.mem_cons_self, first⟩
      · obtain ⟨result, inside, holds⟩ := ih later
        exact ⟨result, List.mem_cons_of_mem _ inside, holds⟩

theorem forall_right {relation : α → β → Prop} {items : List α} {results : List β}
    (all : List.Forall₂ relation items results) {result : β} (member : result ∈ results) :
    ∃ item ∈ items, relation item result := by
  induction all with
  | nil => cases member
  | cons first others ih =>
      rcases List.mem_cons.mp member with rfl | later
      · exact ⟨_, List.mem_cons_self, first⟩
      · obtain ⟨item, inside, holds⟩ := ih later
        exact ⟨item, List.mem_cons_of_mem _ inside, holds⟩

end Liuqin.Library.Checked
