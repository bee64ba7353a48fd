/-
What an archive is after it was read, whatever the bytes.

Names are distinct and do not end in NUL, and every number came out of eight
characters, so that it goes into eight characters again.
-/

import Liuqin.Boot.Inverse

namespace Liuqin.Boot

open Library Library.Bytes

structure Sound (entries : Entries) : Prop where
  distinct : (entries.map Prod.fst).Nodup
  carried : ∀ item ∈ entries, Carried item.1 item.2

theorem sound_nil : Sound [] := by
  constructor
  · exact List.nodup_nil
  · intro item member
    cases member

theorem sound_put {entries : Entries} (sound : Sound entries) {name : Name} {entry : CpioEntry}
    (carried : Carried name entry) : Sound (put entries name entry) := by
  constructor
  · exact put_distinct sound.distinct name entry
  · intro item member
    rcases mem_put member with new | old
    · rw [new]
      exact carried
    · exact sound.carried item old

/-! ### One member -/

theorem readInt_held {text : Bytes} {value : Int} (short : text.length ≤ 8)
    (read : readInt text = some value) : Held value :=
  readInt_range (show text.length ≤ 7 + 1 from short) read

theorem readFields_range {data : Bytes} {count : Nat} {offset : Int} {fields : List Int}
    (read : readFields data count offset = some fields) : ∀ field ∈ fields, Held field := by
  induction count generalizing offset fields with
  | zero =>
      rw [readFields] at read
      injection read with same
      intro field member
      rw [← same] at member
      cases member
  | succ count ih =>
      rw [readFields] at read
      obtain ⟨first, here, later⟩ := Option.bind_eq_some_iff.mp read
      obtain ⟨rest, found, same⟩ := Option.map_eq_some_iff.mp later
      intro field member
      rw [← same] at member
      rcases List.mem_cons.mp member with rfl | member
      · exact readInt_held (slice_length_le data offset 8) here
      · exact ih found field member

theorem getD_held {fields : List Int} (held : ∀ field ∈ fields, Held field) (index : Nat) :
    Held (fields.getD index 0) := by
  rw [List.getD_eq_getElem?_getD]
  cases found : fields[index]? with
  | none => exact number_held (by decide : 0 < 4294967296)
  | some field => exact held field (List.mem_of_getElem? found)

theorem rstrip_ends (raw : Bytes) : (rstrip raw).getLast? ≠ some 0 := by
  rw [rstrip, List.getLast?_reverse]
  have first := List.head?_dropWhile_not (fun byte => decide (byte = 0)) raw.reverse
  intro ended
  rw [ended] at first
  exact absurd first (by decide)

theorem loadMember_sound {data : Bytes} {fields : List Int} {name : Name} {offset : Int}
    {entries : Entries} (sound : Sound entries) (held : ∀ field ∈ fields, Held field)
    (unended : (encode name).getLast? ≠ some 0) (small : data.length < 4294967296) :
    Sound (loadMember data fields name offset entries).2 := by
  rw [loadMember]
  by_cases dots : name = ['.'] ∨ name = ['.', '.']
  · rw [if_pos dots]
    exact sound
  · rw [if_neg dots]
    by_cases ends : name = trailer
    · rw [if_pos ends]
      exact sound
    · rw [if_neg ends]
      apply sound_put sound
      exact {
        notDot := fun dot => dots (Or.inl dot)
        notDots := fun two => dots (Or.inr two)
        notTrailer := ends
        unended := unended
        mode := getD_held held 1
        uid := getD_held held 2
        gid := getD_held held 3
        rdevMajor := getD_held held 9
        rdevMinor := getD_held held 10
        data := Nat.lt_of_le_of_lt (slice_length data _ _) small }

theorem loadStep_sound {data : Bytes} {offset : Int} {entries : Entries}
    {outcome : Option Int × Entries} (sound : Sound entries) (small : data.length < 4294967296)
    (step : loadStep data offset entries = .ok outcome) : Sound outcome.2 := by
  rw [loadStep] at step
  split at step
  · cases step
  · cases read : readFields data 13 (offset + 6) with
    | none =>
        rw [read] at step
        cases step
    | some fields =>
        rw [read] at step
        simp only at step
        split at step
        · cases step
        · cases name : decode (rstrip (slice data (offset + 110)
              (offset + 110 + fields.getD 11 0))) with
          | none =>
              rw [name] at step
              cases step
          | some name' =>
              rw [name] at step
              injection step with same
              rw [← same]
              apply loadMember_sound sound (readFields_range read) _ small
              rw [encode_decode name]
              exact rstrip_ends _

/-! ### The whole walk -/

theorem loadLoop_sound {data : Bytes} {fuel : Nat} {offset : Int} {entries loaded : Entries}
    (sound : Sound entries) (small : data.length < 4294967296)
    (ended : loadLoop data fuel offset entries = some (.ok loaded)) : Sound loaded := by
  induction fuel generalizing offset entries with
  | zero => cases ended
  | succ fuel ih =>
      rw [loadLoop] at ended
      split at ended
      · cases step : loadStep data offset entries with
        | error failure =>
            rw [step] at ended
            cases ended
        | ok outcome =>
            have later := loadStep_sound sound small step
            obtain ⟨next, more⟩ := outcome
            rw [step] at ended
            cases next with
            | none =>
                injection ended with same
                injection same with same
                rw [← same]
                exact later
            | some next => exact ih later ended
      · injection ended with same
        injection same with same
        rw [← same]
        exact sound

theorem loads_sound {data : Bytes} {loaded : Entries} (small : data.length < 4294967296)
    (loads : Loads data (.ok loaded)) : Sound loaded := by
  obtain ⟨fuel, ended⟩ := loads
  exact loadLoop_sound sound_nil small ended

end Liuqin.Boot
