/-
The current a cable is rated for
(device/gnome-overlay/usr/local/libexec/liuqin-mipps-auth).

The kernel publishes the identity of an attached cable as a hexadecimal word
whose bits 6:5 encode the rating: 1 for 3 A, 2 for 5 A.
-/

import Mathlib.Data.Char
import Mathlib.Data.List.Lex
import Mathlib.Data.List.Sort
import Liuqin.Library.Bytes
import Liuqin.Library.Numerals

namespace Liuqin.Power.Mipps

open Liuqin.Library Liuqin.Library.Lines

/-- One directory of the kernel and its identity/product_type_vdo1; `none`
when the file cannot be read. -/
structure Cable where
  path : Text
  vdo1 : Option Bytes
  deriving DecidableEq, Repr

/-- `sorted(glob.glob(...))`: by code points. -/
def sortedCables (cables : List Cable) : List Cable :=
  cables.insertionSort (fun one other => one.path ≤ other.path)

/-- The blanks of a text that is all ASCII. -/
def isSpace (byte : UInt8) : Bool := Numerals.isSpace (Char.ofNat byte.toNat)

/-- `int(f.read().strip(), 16)` of a file opened as ASCII; `none` for an
exception. -/
def vdoWord (content : Option Bytes) : Option Int :=
  match content with
  | none => none
  | some data =>
      if data.all (fun byte => byte < 128) then
        Bytes.readInt ((data.dropWhile isSpace).reverse.dropWhile isSpace).reverse
      else none

/-- `(vdo >> 5) & 0x3` -/
def currentField (vdo : Int) : Nat := (vdo / 32 % 4).toNat

def ratings : List (Nat × Nat) := [(1, 3), (2, 5)]

/-- The rating of the first cable that exposes a word other than zero. -/
def scanCables : List Cable → Option Nat
  | [] => none
  | cable :: rest =>
      match vdoWord cable.vdo1 with
      | none => scanCables rest
      | some vdo => if vdo = 0 then scanCables rest else ratings.lookup (currentField vdo)

def cableCurrentCapabilityAmps (cables : List Cable) : Option Nat :=
  scanCables (sortedCables cables)

/-! ### What the kernel exposes -/

def Cable.word (cable : Cable) : Option Int := vdoWord cable.vdo1

/-- The words other than zero, in the order of the list. -/
def words (cables : List Cable) : List Int :=
  (cables.filterMap Cable.word).filter (fun vdo => vdo ≠ 0)

/-- The current field of the first cable, in sorted order, that exposes a word
other than zero. -/
def exposedField (cables : List Cable) : Option Nat :=
  (words (sortedCables cables)).head?.map currentField

/-- The field that encodes 5 A. -/
def fiveAmps : Nat := 2

theorem currentField_bound (vdo : Int) : currentField vdo < 4 := by
  unfold currentField
  omega

theorem scanCables_eq (cables : List Cable) :
    scanCables cables =
      (words cables).head?.bind (fun vdo => ratings.lookup (currentField vdo)) := by
  induction cables with
  | nil => rfl
  | cons cable rest ih =>
      unfold scanCables
      cases exposed : vdoWord cable.vdo1 with
      | none =>
          have absent : cable.word = none := exposed
          have same : words (cable :: rest) = words rest := by
            rw [words, List.filterMap_cons_none absent]
            rfl
          rw [same]
          exact ih
      | some vdo =>
          have present : cable.word = some vdo := exposed
          have front : (cable :: rest).filterMap Cable.word = vdo :: rest.filterMap Cable.word :=
            List.filterMap_cons_some present
          by_cases nothing : vdo = 0
          · have same : words (cable :: rest) = words rest := by
              rw [words, front, List.filter_cons_of_neg (by simpa using nothing)]
              rfl
            rw [same]
            show (if vdo = 0 then _ else _) = _
            rw [if_pos nothing]
            exact ih
          · have first : words (cable :: rest) = vdo :: words rest := by
              rw [words, front, List.filter_cons_of_pos (by simpa using nothing)]
              rfl
            rw [first]
            show (if vdo = 0 then _ else _) = _
            rw [if_neg nothing]
            rfl

/-- The rating follows the field of the first exposed word. -/
theorem capability_eq (cables : List Cable) :
    cableCurrentCapabilityAmps cables =
      (exposedField cables).bind (fun field => ratings.lookup field) := by
  rw [cableCurrentCapabilityAmps, scanCables_eq, exposedField, Option.bind_map]
  rfl

theorem exposedField_bound {cables : List Cable} {field : Nat}
    (exposed : exposedField cables = some field) : field < 4 := by
  rw [exposedField, Option.map_eq_some_iff] at exposed
  obtain ⟨vdo, _, rfl⟩ := exposed
  exact currentField_bound vdo

end Liuqin.Power.Mipps
