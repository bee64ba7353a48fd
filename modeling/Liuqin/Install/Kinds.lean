/-
The three copies of the header rule: boot_image_kind of the installer, and
classify of the store step and of liuqin-switch.

The shell copies read a word in signed arithmetic of the shell's width.  A word
below 2^31 is the same number to all of them; a larger one is negative to a
shell of 32 bits.
-/

import Liuqin.Boot.Repack
import Liuqin.Install.Store

namespace Liuqin.Install.Kinds

open Liuqin.Library.Bytes (part fromLittle part_within)
open Liuqin.Boot (word bootMagic bootImageKind BootKind)
open Liuqin.Switch (Bytes System range u32Value identify classifyImage classifyImage_eq)

/-- What a shell's answer is called. -/
def kindOf : Option System → BootKind
  | none => .unknown
  | some .ubuntu => .ubuntu
  | some .android => .android

/-- classify in liuqin-switch, in a shell of this width. -/
def switchClassify (bits : Nat) (image : Bytes) : BootKind := kindOf (classifyImage bits image)

/-- classify in install-switch-store.sh, in a shell of this width. -/
def storeClassify (bits : Nat) (image : Bytes) : BootKind := kindOf (classifyImage bits image)

/-- An image with all of the header that the rule reads. -/
abbrev HeaderImage := { image : Bytes // 1652 ≤ image.length }

/-! ### Words -/

theorem fromLittle_four (first second third fourth : UInt8) :
    fromLittle [first, second, third, fourth] =
      first.toNat + second.toNat * 256 + third.toNat * 65536 + fourth.toNat * 16777216 := by
  have parts : fromLittle [first, second, third, fourth] =
      first.toNat + 256 * (second.toNat + 256 * (third.toNat + 256 * (fourth.toNat + 256 * 0))) :=
    rfl
  omega

theorem range_part (image : Bytes) (skip count : Nat) :
    range image skip count = part image skip (skip + count) := by
  rw [range, part, List.drop_take, Nat.add_sub_cancel_left]

theorem part_four {image : Bytes} {offset : Nat} (within : offset + 4 ≤ image.length) :
    ∃ first second third fourth, part image offset (offset + 4) =
      [first, second, third, fourth] := by
  have four : (part image offset (offset + 4)).length = 4 := by
    rw [part_within within]
    omega
  generalize part image offset (offset + 4) = field at four
  match field, four with
  | [first, second, third, fourth], _ => exact ⟨first, second, third, fourth, rfl⟩

theorem word_lt {image : Bytes} {offset : Nat} (within : offset + 4 ≤ image.length) :
    word image offset < 2 ^ 32 := by
  obtain ⟨first, second, third, fourth, field⟩ := part_four within
  have one := first.toNat_lt
  have two := second.toNat_lt
  have three := third.toNat_lt
  have last := fourth.toNat_lt
  rw [word, field, fromLittle_four]
  omega

/-- A word that is there, as a shell computes it. -/
theorem u32Value_word (bits : Nat) {image : Bytes} {offset : Nat}
    (within : offset + 4 ≤ image.length) :
    u32Value bits (range image offset 4) = some (Int.bmod (word image offset) (2 ^ bits)) := by
  obtain ⟨first, second, third, fourth, field⟩ := part_four within
  rw [range_part, word, field, fromLittle_four]
  rfl

theorem bmod_wide {value : Nat} (bound : value < 2 ^ 32) : Int.bmod value (2 ^ 64) = value := by
  have inside : (value : Int) % ((2 ^ 64 : Nat) : Int) = value :=
    Int.emod_eq_of_lt (Int.natCast_nonneg value) (by omega)
  rw [Int.bmod_eq_emod_of_lt (by omega), inside]

theorem bmod_narrow {value : Nat} (bound : value < 2 ^ 32) :
    Int.bmod value (2 ^ 32) = if value < 2 ^ 31 then (value : Int) else (value : Int) - 2 ^ 32 := by
  have inside : (value : Int) % ((2 ^ 32 : Nat) : Int) = value :=
    Int.emod_eq_of_lt (Int.natCast_nonneg value) (by omega)
  split
  · rw [Int.bmod_eq_emod_of_lt (by omega), inside]
  · rw [Int.bmod_neg _ _ (by omega), inside]
    omega

/-- How a shell sees the words of a header: small numbers as they are, and of the others
which are positive. -/
structure Sees (bits : Nat) (positive : Nat → Prop) : Prop where
  small : ∀ value number : Nat, value < 2 ^ 32 → number < 2 ^ 31 →
    (Int.bmod value (2 ^ bits) = number ↔ value = number)
  positive : ∀ value : Nat, value < 2 ^ 32 → (Int.bmod value (2 ^ bits) > 0 ↔ positive value)

theorem sees_wide : Sees 64 (fun value => 0 < value) := by
  constructor
  · intro value number bound _
    rw [bmod_wide bound]
    omega
  · intro value bound
    rw [bmod_wide bound]
    omega

theorem sees_narrow : Sees 32 (fun value => 0 < value ∧ value < 2 ^ 31) := by
  constructor
  · intro value number bound small
    rw [bmod_narrow bound]
    split <;> omega
  · intro value bound
    rw [bmod_narrow bound]
    split <;> omega

/-! ### The rule over words -/

section Rule

variable (positive : Nat → Prop) [DecidablePred positive] (image : Bytes)

def IsUbuntu : Prop :=
  word image 40 = 2 ∧ word image 36 = 4096 ∧ word image 1644 = 1660 ∧ positive (word image 1648)

def IsAndroid : Prop :=
  (word image 40 = 3 ∧ word image 20 = 1580) ∨ (word image 40 = 4 ∧ word image 20 = 1584)

instance : Decidable (IsUbuntu positive image) := inferInstanceAs (Decidable (_ ∧ _))

instance : Decidable (IsAndroid image) := inferInstanceAs (Decidable (_ ∨ _))

/-- The header rule, where a kernel and a DTB are there when their sizes are positive. -/
def kindBy : BootKind :=
  if part image 0 8 ≠ bootMagic then .unknown
  else if ¬positive (word image 8) then .unknown
  else if IsUbuntu positive image then .ubuntu
  else if IsAndroid image then .android
  else .unknown

end Rule

theorem bootImageKind_words {image : Bytes} (long : 1652 ≤ image.length) :
    bootImageKind image = kindBy (fun value => 0 < value) image := by
  unfold bootImageKind kindBy
  by_cases magic : part image 0 8 ≠ bootMagic
  · rw [if_pos (Or.inr magic), if_pos magic]
  · rw [if_neg magic, if_neg (not_or.mpr ⟨by omega, magic⟩)]
    by_cases kernel : word image 8 = 0
    · rw [if_pos (show ¬0 < word image 8 by omega)]
      exact if_pos kernel
    · rw [if_neg (show ¬¬0 < word image 8 by omega)]
      exact if_neg kernel

/-- NULs in the magic are dropped, and then it is too short. -/
theorem magic_filter {front : Bytes} (eight : front.length = 8) :
    front.filter (fun byte => byte ≠ 0) = Switch.magic ↔ front = bootMagic := by
  constructor
  · intro same
    have sublist := List.filter_sublist (p := fun byte : UInt8 => decide (byte ≠ 0)) (l := front)
    rw [same] at sublist
    exact (sublist.eq_of_length (by rw [eight]; rfl)).symm
  · intro same
    rw [same]
    rfl

theorem classify_words {bits : Nat} {positive : Nat → Prop} [DecidablePred positive]
    (sees : Sees bits positive) {image : Bytes} (long : 1652 ≤ image.length) :
    kindOf (classifyImage bits image) = kindBy positive image := by
  have front : (range image 0 8).length = 8 := by
    rw [range_part, part_within (by omega)]
  have bound : ∀ offset, offset + 4 ≤ 1652 → word image offset < 2 ^ 32 :=
    fun offset within => word_lt (by omega)
  rw [classifyImage_eq, u32Value_word bits (by omega), u32Value_word bits (by omega),
    u32Value_word bits (by omega), u32Value_word bits (by omega), u32Value_word bits (by omega),
    u32Value_word bits (by omega)]
  unfold identify kindBy
  by_cases magic : part image 0 8 = bootMagic
  · have whole := (magic_filter front).mpr ((range_part image 0 8).trans magic)
    rw [if_neg (not_not.mpr whole), if_neg (not_not.mpr magic)]
    have kernels := sees.positive (word image 8) (bound 8 (by omega))
    by_cases kernel : positive (word image 8)
    · have two := sees.small (word image 40) 2 (bound 40 (by omega)) (by omega)
      have three := sees.small (word image 40) 3 (bound 40 (by omega)) (by omega)
      have four := sees.small (word image 40) 4 (bound 40 (by omega)) (by omega)
      have page := sees.small (word image 36) 4096 (bound 36 (by omega)) (by omega)
      have header := sees.small (word image 1644) 1660 (bound 1644 (by omega)) (by omega)
      have dtb := sees.positive (word image 1648) (bound 1648 (by omega))
      have third := sees.small (word image 20) 1580 (bound 20 (by omega)) (by omega)
      have fourth := sees.small (word image 20) 1584 (bound 20 (by omega)) (by omega)
      simp only [Nat.cast_ofNat] at two three four page header third fourth
      rw [if_neg (not_not.mpr kernel)]
      simp only [kernels, kernel, two, three, four, page, header, dtb, third, fourth,
        Option.some.injEq, Option.getD_some, not_true_eq_false, if_false]
      by_cases isTwo : word image 40 = 2
      · have notAndroid : ¬IsAndroid image := by
          rintro (⟨is, _⟩ | ⟨is, _⟩)
          · omega
          · omega
        rw [if_pos isTwo, if_neg notAndroid]
        by_cases rest : word image 36 = 4096 ∧ word image 1644 = 1660 ∧ positive (word image 1648)
        · rw [if_pos rest, if_pos (show IsUbuntu positive image from ⟨isTwo, rest⟩)]
          rfl
        · rw [if_neg rest, if_neg (fun all : IsUbuntu positive image => rest all.2)]
          rfl
      · rw [if_neg isTwo, if_neg (fun all : IsUbuntu positive image => isTwo all.1)]
        by_cases generic : (word image 40 = 3 ∧ word image 20 = 1580) ∨
            (word image 40 = 4 ∧ word image 20 = 1584)
        · have version : word image 40 = 3 ∨ word image 40 = 4 := by
            rcases generic with ⟨is, _⟩ | ⟨is, _⟩
            · exact Or.inl is
            · exact Or.inr is
          rw [if_pos version, if_pos generic, if_pos (show IsAndroid image from generic)]
          rfl
        · rw [if_neg generic, ite_self, if_neg (show ¬IsAndroid image from generic)]
          rfl
    · rw [if_pos kernel]
      simp only [kernels, kernel, not_false_eq_true, if_true]
      rfl
  · have torn : ¬(range image 0 8).filter (fun byte => byte ≠ 0) = Switch.magic := by
      intro whole
      exact magic ((range_part image 0 8).symm.trans ((magic_filter front).mp whole))
    rw [if_pos torn, if_pos magic]
    rfl

/-! ### Agreement -/

/-- A header that is fine but for a size of 2^31 or more. -/
def Oversized (image : Bytes) : Prop :=
  part image 0 8 = bootMagic ∧ 0 < word image 8 ∧
    ((IsUbuntu (fun value => 0 < value) image ∧
        (2 ^ 31 ≤ word image 8 ∨ 2 ^ 31 ≤ word image 1648)) ∨
      (IsAndroid image ∧ 2 ^ 31 ≤ word image 8))

theorem ubuntu_or_android {positive : Nat → Prop} {image : Bytes}
    (ubuntu : IsUbuntu positive image) : ¬IsAndroid image := by
  have two := ubuntu.1
  rintro (⟨three, _⟩ | ⟨four, _⟩)
  · omega
  · omega

theorem kinds_narrow (image : Bytes) :
    kindBy (fun value => 0 < value ∧ value < 2 ^ 31) image = kindBy (fun value => 0 < value) image ↔
      ¬Oversized image := by
  unfold kindBy Oversized
  by_cases magic : part image 0 8 = bootMagic
  · rw [if_neg (not_not.mpr magic), if_neg (not_not.mpr magic)]
    by_cases kernel : 0 < word image 8
    · rw [if_neg (not_not.mpr kernel)]
      by_cases small : word image 8 < 2 ^ 31
      · rw [if_neg (not_not.mpr ⟨kernel, small⟩)]
        by_cases ubuntu : IsUbuntu (fun value => 0 < value) image
        · rw [if_pos ubuntu]
          by_cases dtb : word image 1648 < 2 ^ 31
          · have narrow : IsUbuntu (fun value => 0 < value ∧ value < 2 ^ 31) image :=
              ⟨ubuntu.1, ubuntu.2.1, ubuntu.2.2.1, ubuntu.2.2.2, dtb⟩
            rw [if_pos narrow]
            constructor
            · rintro _ ⟨_, _, ⟨_, large⟩ | ⟨_, large⟩⟩
              · omega
              · omega
            · intro _
              rfl
          · have narrow : ¬IsUbuntu (fun value => 0 < value ∧ value < 2 ^ 31) image :=
              fun all => dtb all.2.2.2.2
            rw [if_neg narrow, if_neg (ubuntu_or_android ubuntu)]
            constructor
            · intro same
              cases same
            · intro fine
              exact absurd ⟨magic, kernel, Or.inl ⟨ubuntu, Or.inr (by omega)⟩⟩ fine
        · have narrow : ¬IsUbuntu (fun value => 0 < value ∧ value < 2 ^ 31) image :=
            fun all => ubuntu ⟨all.1, all.2.1, all.2.2.1, all.2.2.2.1⟩
          rw [if_neg ubuntu, if_neg narrow]
          constructor
          · rintro _ ⟨_, _, ⟨is, _⟩ | ⟨_, large⟩⟩
            · exact ubuntu is
            · omega
          · intro _
            rfl
      · rw [if_pos (fun both => small both.2)]
        by_cases ubuntu : IsUbuntu (fun value => 0 < value) image
        · rw [if_pos ubuntu]
          constructor
          · intro same
            cases same
          · intro fine
            exact absurd ⟨magic, kernel, Or.inl ⟨ubuntu, Or.inl (by omega)⟩⟩ fine
        · rw [if_neg ubuntu]
          by_cases android : IsAndroid image
          · rw [if_pos android]
            constructor
            · intro same
              cases same
            · intro fine
              exact absurd ⟨magic, kernel, Or.inr ⟨android, by omega⟩⟩ fine
          · rw [if_neg android]
            constructor
            · rintro _ ⟨_, _, ⟨is, _⟩ | ⟨is, _⟩⟩
              · exact ubuntu is
              · exact android is
            · intro _
              rfl
    · rw [if_pos kernel, if_pos (fun both => kernel both.1)]
      constructor
      · rintro _ ⟨_, positive, _⟩
        exact kernel positive
      · intro _
        rfl
  · rw [if_pos magic, if_pos magic]
    constructor
    · rintro _ ⟨is, _⟩
      exact magic is
    · intro _
      rfl

/-- The three copies on one image, in shells of 64 and of 32 bits. -/
structure Agree (image : Bytes) : Prop where
  switchWide : switchClassify 64 image = bootImageKind image
  storeWide : storeClassify 64 image = bootImageKind image
  switchNarrow : switchClassify 32 image = bootImageKind image
  storeNarrow : storeClassify 32 image = bootImageKind image

/-- The copies agree but for sizes that are negative to a shell of 32 bits. -/
theorem classifiers_agree (image : HeaderImage) : Agree image.1 ↔ ¬Oversized image.1 := by
  obtain ⟨image, long⟩ := image
  have host := bootImageKind_words long
  have wide := classify_words sees_wide long
  have narrow := classify_words sees_narrow long
  constructor
  · intro agree
    rw [← kinds_narrow, ← narrow, ← host]
    exact agree.switchNarrow
  · intro fine
    have same := (kinds_narrow image).mpr fine
    constructor
    · exact wide.trans host.symm
    · exact wide.trans host.symm
    · exact (narrow.trans same).trans host.symm
    · exact (narrow.trans same).trans host.symm

/-- Version 4 with a kernel size of 2^31. -/
def signedKernel : Bytes :=
  bootMagic ++ [0, 0, 0, 0x80] ++ List.replicate 8 0 ++ [0x30, 0x06, 0, 0] ++
    List.replicate 16 0 ++ [4, 0, 0, 0] ++ List.replicate 1608 0

theorem signedKernel_differs : signedKernel.length = 1652 ∧
    bootImageKind signedKernel = .android ∧ switchClassify 32 signedKernel = .unknown := by
  decide +kernel

end Liuqin.Install.Kinds
