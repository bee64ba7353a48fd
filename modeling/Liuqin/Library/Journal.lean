/-
The history of one register that is kept in volatile and in durable storage.

An entry is what its owner did and the value behind it.  Nothing is durable
before the next entry that settles, so a crash leaves some value held since the
last one.  Behind a settled value that its owner does not take back, every value
is that one or was put later.
-/

import Mathlib.Data.List.Basic

namespace Liuqin.Library.Journal

/-! ### Entries -/

inductive Kind where
  | keep
  | put
  | settle
  | undo
  | crash
  deriving DecidableEq, Repr

/-- Whether the value behind it is durable. -/
def Kind.settles : Kind → Bool
  | .settle => true
  | .crash => true
  | _ => false

structure Entry (Value : Type) where
  owner : Option Nat
  kind : Kind
  value : Value

variable {Value : Type}

/-- The values that may be found after a crash, of a journal newest first. -/
def since : List (Entry Value) → List Value
  | [] => []
  | entry :: rest => if entry.kind.settles then [entry.value] else entry.value :: since rest

/-- An undo takes back what its owner did since some value was held. -/
inductive Sound : List (Entry Value) → Prop where
  | boot (value : Value) : Sound [{ owner := none, kind := .settle, value := value }]
  | keep {last : Entry Value} {rest : List (Entry Value)} (owner : Option Nat)
      (sound : Sound (last :: rest)) :
      Sound ({ owner := owner, kind := .keep, value := last.value } :: last :: rest)
  | settle {last : Entry Value} {rest : List (Entry Value)} (owner : Option Nat)
      (sound : Sound (last :: rest)) :
      Sound ({ owner := owner, kind := .settle, value := last.value } :: last :: rest)
  | put {log : List (Entry Value)} (owner : Option Nat) (value : Value) (sound : Sound log) :
      Sound ({ owner := owner, kind := .put, value := value } :: log)
  | undo {own older : List (Entry Value)} {last : Entry Value} (owner : Option Nat)
      (sound : Sound (own ++ last :: older)) (owned : ∀ entry ∈ own, entry.owner = owner) :
      Sound ({ owner := owner, kind := .undo, value := last.value } :: (own ++ last :: older))
  | crash {log : List (Entry Value)} (value : Value) (sound : Sound log)
      (left : value ∈ since log) :
      Sound ({ owner := none, kind := .crash, value := value } :: log)

theorem Sound.tail {entry : Entry Value} {log : List (Entry Value)} (sound : Sound (entry :: log)) :
    log = [] ∨ Sound log := by
  cases sound with
  | boot value => exact Or.inl rfl
  | keep owner sound => exact Or.inr sound
  | settle owner sound => exact Or.inr sound
  | put owner value sound => exact Or.inr sound
  | undo owner sound owned => exact Or.inr sound
  | crash value sound left => exact Or.inr sound

/-! ### Behind a settled value -/

theorem since_within {newer older : List (Entry Value)} {settled : Entry Value} {value : Value}
    (settles : settled.kind.settles = true) (member : value ∈ since (newer ++ settled :: older)) :
    ∃ entry ∈ newer ++ [settled], entry.value = value := by
  induction newer with
  | nil =>
      rw [List.nil_append, since, if_pos settles] at member
      exact ⟨settled, List.mem_cons_self, (List.mem_singleton.mp member).symm⟩
  | cons entry newer ih =>
      rw [List.cons_append, since] at member
      split at member
      · exact ⟨entry, List.mem_cons_self, (List.mem_singleton.mp member).symm⟩
      · rcases List.mem_cons.mp member with rfl | member
        · exact ⟨entry, List.mem_cons_self, rfl⟩
        · obtain ⟨found, inside, same⟩ := ih member
          exact ⟨found, List.mem_cons_of_mem entry inside, same⟩

/-- An undo of somebody else does not reach behind the settled value. -/
theorem undo_within {own older newer rest : List (Entry Value)} {last settled : Entry Value}
    (same : own ++ last :: older = newer ++ settled :: rest) (foreign : settled ∉ own) :
    last ∈ newer ++ [settled] := by
  rcases List.append_eq_append_iff.mp same with ⟨front, left, right⟩ | ⟨front, left, right⟩
  · cases front with
    | nil =>
        rw [List.nil_append] at right
        rw [(List.cons.inj right).1]
        exact List.mem_append_right newer List.mem_cons_self
    | cons entry front =>
        rw [left, (List.cons.inj right).1]
        apply List.mem_append_left
        exact List.mem_append_right own List.mem_cons_self
  · cases front with
    | nil =>
        rw [List.nil_append] at right
        rw [← (List.cons.inj right).1]
        exact List.mem_append_right newer List.mem_cons_self
    | cons entry front =>
        rw [left, (List.cons.inj right).1] at foreign
        exact absurd (List.mem_append_right newer List.mem_cons_self) foreign

/-- By induction on what came behind the settled value. -/
theorem settled_lasts {newer older : List (Entry Value)} {settled : Entry Value} {owner : Nat}
    (sound : Sound (newer ++ settled :: older)) (settles : settled.kind.settles = true)
    (owned : settled.owner = some owner)
    (stands : ∀ entry ∈ newer, entry.kind = .undo → entry.owner ≠ some owner) :
    ∀ entry ∈ newer ++ [settled], entry.value = settled.value ∨
      ∃ put ∈ newer, put.kind = .put ∧ put.value = entry.value := by
  induction newer with
  | nil =>
      intro entry member
      rw [List.mem_singleton.mp member]
      exact Or.inl rfl
  | cons first newer ih =>
      have before : Sound (newer ++ settled :: older) := by
        rcases sound.tail with none | before
        · exact absurd none (List.append_ne_nil_of_right_ne_nil newer (List.cons_ne_nil _ _))
        · exact before
      have held := ih before fun entry member => stands entry (List.mem_cons_of_mem first member)
      -- a value held before, or put by then, still is
      have again : ∀ value, (∃ entry ∈ newer ++ [settled], entry.value = value) →
          value = settled.value ∨ ∃ put ∈ first :: newer, put.kind = .put ∧ put.value = value := by
        rintro value ⟨entry, member, rfl⟩
        rcases held entry member with same | ⟨put, inside, kind, same⟩
        · exact Or.inl same
        · exact Or.inr ⟨put, List.mem_cons_of_mem first inside, kind, same⟩
      have head : ∀ {last : Entry Value} {rest : List (Entry Value)},
          last :: rest = newer ++ settled :: older → last ∈ newer ++ [settled] := by
        intro last rest same
        cases newer with
        | nil => exact (List.cons.inj same).1 ▸ List.mem_cons_self
        | cons entry newer => exact (List.cons.inj same).1 ▸ List.mem_cons_self
      intro entry member
      rcases List.mem_cons.mp member with rfl | inside
      · rw [List.cons_append] at sound
        generalize whole : newer ++ settled :: older = log at sound
        cases sound with
        | boot value => exact absurd whole (List.append_ne_nil_of_right_ne_nil newer (List.cons_ne_nil _ _))
        | keep who _ => exact again _ ⟨_, head whole.symm, rfl⟩
        | settle who _ => exact again _ ⟨_, head whole.symm, rfl⟩
        | put who value _ => exact Or.inr ⟨_, List.mem_cons_self, rfl, rfl⟩
        | undo who _ ownedBy =>
            apply again
            refine ⟨_, undo_within whole.symm fun among => ?_, rfl⟩
            have foreign := stands _ List.mem_cons_self rfl
            exact foreign ((ownedBy settled among).symm.trans owned)
        | crash value _ left =>
            rw [← whole] at left
            exact again value (since_within settles left)
      · exact again entry.value ⟨entry, inside, rfl⟩

end Liuqin.Library.Journal
