/-
Boot images as liuqin-switch reads them
(device/gnome-overlay/usr/local/sbin/liuqin-switch).

The header checks are written once over a reader of byte ranges: a stored
boot.img answers every range, the partition may answer with less.  A shell
computes with a fixed width, 64 bits in dash and BusyBox and 32 in mksh, and
the width decides the sign of the largest header fields.
-/

import Mathlib.Data.List.Basic
import Mathlib.Data.Int.Bitwise
import Mathlib.Control.Basic

namespace Liuqin.Switch

abbrev Bytes := List UInt8

/-- The two systems that rotate through boot_a. -/
inductive System where
  | ubuntu
  | android
  deriving DecidableEq, Repr

def System.name : System → String
  | .ubuntu => "ubuntu"
  | .android => "android"

/-! ### Zero fill -/

/-- The three dd runs of the zero filler. -/
def zeros (count : Nat) : Bytes :=
  let rest := count % 1048576
  List.replicate (count / 1048576 * 1048576) 0 ++
    (List.replicate (rest / 4096 * 4096) 0 ++ List.replicate (rest % 4096) 0)

theorem zeros_eq (count : Nat) : zeros count = List.replicate count 0 := by
  have blocks := Nat.div_add_mod count 1048576
  have pages := Nat.div_add_mod (count % 1048576) 4096
  rw [zeros, List.replicate_append_replicate, List.replicate_append_replicate]
  congr 1
  omega

theorem zeros_length (count : Nat) : (zeros count).length = count := by
  rw [zeros_eq, List.length_replicate]

/-- An image followed by zeros up to the partition size. -/
def padded (size : Nat) (image : Bytes) : Bytes :=
  image ++ zeros (size - image.length)

theorem padded_length {size : Nat} {image : Bytes} (fits : image.length ≤ size) :
    (padded size image).length = size := by
  rw [padded, List.length_append, zeros_length]
  omega

/-- A little-endian u32 in the shell's arithmetic; fewer than four bytes are
no number. -/
def u32Value (bits : Nat) : Bytes → Option Int
  | [first, second, third, fourth] =>
      let value := first.toNat + second.toNat * 256 + third.toNat * 65536 +
        fourth.toNat * 16777216
      some (Int.bmod value (2 ^ bits))
  | _ => none

theorem u32Value_short (bits : Nat) {field : Bytes} (short : field.length < 4) :
    u32Value bits field = none := by
  rcases field with _ | ⟨first, _ | ⟨second, _ | ⟨third, _ | ⟨fourth, rest⟩⟩⟩⟩
  · rfl
  · rfl
  · rfl
  · rfl
  · simp only [List.length_cons] at short
    omega

section Header

variable {m : Type → Type} [Monad m]

def u32At (bits : Nat) (dd : Nat → Nat → m Bytes) (offset : Nat) : m (Option Int) := do
  let field ← dd offset 4
  return u32Value bits field

/-- The bytes of `ANDROID!`. -/
def magic : Bytes := [0x41, 0x4E, 0x44, 0x52, 0x4F, 0x49, 0x44, 0x21]

/-- `none` is an image that identifies as neither system. -/
def classify (bits : Nat) (dd : Nat → Nat → m Bytes) : m (Option System) := do
  let front ← dd 0 8
  if front.filter (fun byte => byte ≠ 0) ≠ magic then
    return none
  else
    let some version ← u32At bits dd 40 | return none
    let some kernel ← u32At bits dd 8 | return none
    if ¬kernel > 0 then
      return none
    else if version = 2 then
      let page ← u32At bits dd 36
      let header ← u32At bits dd 1644
      let dtb ← u32At bits dd 1648
      return if page = some 4096 ∧ header = some 1660 ∧ dtb.getD 0 > 0 then some .ubuntu else none
    else if version = 3 ∨ version = 4 then
      let header ← u32At bits dd 20
      return if (version = 3 ∧ header = some 1580) ∨ (version = 4 ∧ header = some 1584) then
        some .android else none
    else return none

end Header

/-- A byte range of a file. -/
def range (image : Bytes) (skip count : Nat) : Bytes :=
  (image.drop skip).take count

def classifyImage (bits : Nat) (image : Bytes) : Option System :=
  @classify Id _ bits (range image)

/-- The decision of classify over the fields it may read. -/
def identify (front : Bytes) (version kernel page header dtb gki : Option Int) : Option System :=
  if front.filter (fun byte => byte ≠ 0) ≠ magic then none
  else
    match version, kernel with
    | some version, some kernel =>
        if ¬kernel > 0 then none
        else if version = 2 then
          if page = some 4096 ∧ header = some 1660 ∧ dtb.getD 0 > 0 then some .ubuntu else none
        else if version = 3 ∨ version = 4 then
          if (version = 3 ∧ gki = some 1580) ∨ (version = 4 ∧ gki = some 1584) then
            some .android else none
        else none
    | _, _ => none

section Identify

variable {front : Bytes} (version kernel page header dtb gki : Option Int)

theorem identify_otherMagic (different : front.filter (fun byte => byte ≠ 0) ≠ magic) :
    identify front version kernel page header dtb gki = none := if_pos different

theorem identify_noVersion : identify front none kernel page header dtb gki = none := by
  unfold identify
  split <;> rfl

theorem identify_noKernel : identify front version none page header dtb gki = none := by
  unfold identify
  split
  · rfl
  · cases version <;> rfl

end Identify

theorem classifyImage_eq (bits : Nat) (image : Bytes) :
    classifyImage bits image =
      identify (range image 0 8) (u32Value bits (range image 40 4))
        (u32Value bits (range image 8 4)) (u32Value bits (range image 36 4))
        (u32Value bits (range image 1644 4)) (u32Value bits (range image 1648 4))
        (u32Value bits (range image 20 4)) := by
  simp only [classifyImage, classify, u32At, identify, bind, pure]
  split
  · rfl
  · cases u32Value bits (range image 40 4) with
    | none => rfl
    | some version =>
        cases u32Value bits (range image 8 4) with
        | none => rfl
        | some kernel => rfl

/-- An answer of a read that may have stopped early. -/
def Glimpse {α : Type} (truth answer : Option α) : Prop := answer = none ∨ answer = truth

theorem Glimpse.of_some {α : Type} {truth : Option α} {answer : α}
    (glimpse : Glimpse truth (some answer)) : truth = some answer := by
  rcases glimpse with absent | present
  · cases absent
  · exact present.symm

theorem glimpse_if {α : Type} {seen whole : Prop} [Decidable seen] [Decidable whole]
    (kept : seen → whole) (value : α) :
    Glimpse (if whole then some value else none) (if seen then some value else none) := by
  by_cases holds : seen
  · rw [if_pos holds, if_pos (kept holds)]
    exact Or.inr rfl
  · rw [if_neg holds]
    exact Or.inl rfl

/-- Short reads never turn one system into the other. -/
theorem identify_glimpse {front seen : Bytes}
    {version kernel page header dtb gki version' kernel' page' header' dtb' gki' : Option Int}
    (fronts : seen.filter (fun byte => byte ≠ 0) = magic →
      front.filter (fun byte => byte ≠ 0) = magic)
    (versions : Glimpse version version') (kernels : Glimpse kernel kernel')
    (pages : Glimpse page page') (headers : Glimpse header header') (dtbs : Glimpse dtb dtb')
    (gkis : Glimpse gki gki') :
    Glimpse (identify front version kernel page header dtb gki)
      (identify seen version' kernel' page' header' dtb' gki') := by
  unfold identify
  by_cases different : seen.filter (fun byte => byte ≠ 0) ≠ magic
  · rw [if_pos different]
    exact Or.inl rfl
  rw [if_neg different, if_neg (not_not.mpr (fronts (not_not.mp different)))]
  cases version' with
  | none => exact Or.inl rfl
  | some version' =>
      cases kernel' with
      | none => exact Or.inl rfl
      | some kernel' =>
          rw [versions.of_some, kernels.of_some]
          by_cases empty : ¬kernel' > 0
          · simp only [if_pos empty]
            exact Or.inl rfl
          simp only [if_neg empty]
          by_cases two : version' = 2
          · simp only [if_pos two]
            apply glimpse_if
            rintro ⟨isPage, isHeader, isDtb⟩
            rw [isPage] at pages
            rw [isHeader] at headers
            refine ⟨pages.of_some, headers.of_some, ?_⟩
            rcases dtbs with absent | present
            · rw [absent] at isDtb
              exact absurd isDtb (by decide)
            · rw [← present]
              exact isDtb
          · simp only [if_neg two]
            by_cases generic : version' = 3 ∨ version' = 4
            · simp only [if_pos generic]
              apply glimpse_if
              rintro (⟨three, size⟩ | ⟨four, size⟩)
              · rw [size] at gkis
                exact Or.inl ⟨three, gkis.of_some⟩
              · rw [size] at gkis
                exact Or.inr ⟨four, gkis.of_some⟩
            · simp only [if_neg generic]
              exact Or.inl rfl

/-! ### SHA256SUMS -/

abbrev Line := List Char

def hexDigit (char : Char) : Bool :=
  ('0' ≤ char && char ≤ '9') || ('a' ≤ char && char ≤ 'f')

def bootImg : Line := ['b', 'o', 'o', 't', '.', 'i', 'm', 'g']

/-- One line against `^\([0-9a-f]\{64\}\)  *\*\{0,1\}boot\.img$`. -/
def sumsEntry (line : Line) : Option Line :=
  let digest := line.take 64
  let rest := line.drop 64
  let name := rest.dropWhile (fun char => char = ' ')
  if digest.length = 64 ∧ digest.all hexDigit ∧ rest.head? = some ' ' ∧
      (name = bootImg ∨ name = '*' :: bootImg) then
    some digest
  else none

def sumsLookup (sums : List Line) : Option Line :=
  sums.findSome? sumsEntry

/-- sha256 prints 64 lower-case hexadecimal digits. -/
structure Sha256 where
  digest : Bytes → Line
  printed : ∀ data, (digest data).length = 64 ∧ (digest data).all hexDigit

/-- The line stash_live and cmd_import_android write. -/
def sumsLine (digest : Line) : Line :=
  digest ++ [' ', ' '] ++ bootImg

theorem sumsLookup_sumsLine (sha256 : Sha256) (data : Bytes) :
    sumsLookup [sumsLine (sha256.digest data)] = some (sha256.digest data) := by
  obtain ⟨width, hex⟩ := sha256.printed data
  have front : (sumsLine (sha256.digest data)).take 64 = sha256.digest data := by
    rw [sumsLine, List.append_assoc, ← width, List.take_left]
  have back : (sumsLine (sha256.digest data)).drop 64 = [' ', ' '] ++ bootImg := by
    rw [sumsLine, List.append_assoc, ← width, List.drop_left]
  have name : ([' ', ' '] ++ bootImg).dropWhile (fun char => char = ' ') = bootImg := by decide
  have space : ([' ', ' '] ++ bootImg).head? = some ' ' := rfl
  have entry : sumsEntry (sumsLine (sha256.digest data)) = some (sha256.digest data) := by
    simp only [sumsEntry, front, back, name, space, width, hex]
    rfl
  simp only [sumsLookup, List.findSome?, entry]

end Liuqin.Switch
