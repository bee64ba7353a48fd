/-
Lists cut into pieces of one size, the last of which may be shorter.
-/

import Mathlib.Data.List.Basic

namespace Liuqin.Library.Chunks

variable {α : Type}

/-- `items[start:start + size] for start in range(0, len(items), size)` -/
def chunks (size : Nat) (items : List α) : List (List α) :=
  if size = 0 ∨ items = [] then []
  else items.take size :: chunks size (items.drop size)
termination_by items.length
decreasing_by
  rename_i more
  rw [not_or] at more
  have some_ := List.length_pos_of_ne_nil more.2
  rw [List.length_drop]
  omega

theorem chunks_nil (size : Nat) : chunks size ([] : List α) = [] := by
  rw [chunks, if_pos (Or.inr rfl)]

theorem chunks_cons {size : Nat} {items : List α} (positive : 0 < size) (nonempty : items ≠ []) :
    chunks size items = items.take size :: chunks size (items.drop size) := by
  rw [chunks, if_neg]
  rw [not_or]
  exact ⟨by omega, nonempty⟩

/-- Together the pieces are the list. -/
theorem chunks_flatten {size : Nat} (positive : 0 < size) (items : List α) :
    (chunks size items).flatten = items := by
  by_cases empty : items = []
  · rw [empty, chunks_nil]
    rfl
  · have nonempty := List.length_pos_of_ne_nil empty
    rw [chunks_cons positive empty, List.flatten_cons, chunks_flatten positive (items.drop size),
      List.take_append_drop]
termination_by items.length
decreasing_by
  rw [List.length_drop]
  omega

theorem chunk_bounds {size : Nat} (positive : 0 < size) {items chunk : List α}
    (member : chunk ∈ chunks size items) : chunk ≠ [] ∧ chunk.length ≤ size := by
  by_cases empty : items = []
  · rw [empty, chunks_nil] at member
    cases member
  · have nonempty := List.length_pos_of_ne_nil empty
    rw [chunks_cons positive empty] at member
    rcases List.mem_cons.mp member with here | there
    · rw [here]
      constructor
      · apply List.ne_nil_of_length_pos
        rw [List.length_take]
        omega
      · rw [List.length_take]
        exact Nat.min_le_left _ _
    · exact chunk_bounds positive there
termination_by items.length
decreasing_by
  rw [List.length_drop]
  omega

theorem chunks_short {size : Nat} {items : List α} (nonempty : items ≠ [])
    (short : items.length ≤ size) : chunks size items = [items] := by
  have positive := List.length_pos_of_ne_nil nonempty
  rw [chunks_cons (by omega) nonempty, List.take_of_length_le short, List.drop_of_length_le short,
    chunks_nil]

end Liuqin.Library.Chunks
