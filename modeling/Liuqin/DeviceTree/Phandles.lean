/-
Phandles on the page.

The pattern looks for cells anywhere in the text.  It finds at least the phandle of
every node, so the number after the greatest that it finds is new.
-/

import Mathlib.Data.List.Infix
import Liuqin.DeviceTree.Labels

namespace Liuqin.DeviceTree

open Liuqin.Library Liuqin.Library.Lines

/-! ### Numbers in hexadecimal -/

theorem toDigits_all {keep : Char → Prop} (digits : ∀ digit < 16, keep (Nat.digitChar digit))
    (value : Nat) : ∀ char ∈ Nat.toDigits 16 value, keep char := by
  induction value using Nat.strongRecOn with
  | ind value ih =>
      intro char member
      rw [Nat.toDigits_eq_if (by decide)] at member
      split at member
      · rename_i small
        rw [List.mem_singleton.mp member]
        exact digits value small
      · rcases List.mem_append.mp member with early | last
        · exact ih (value / 16) (by omega) char early
        · rw [List.mem_singleton.mp last]
          exact digits (value % 16) (Nat.mod_lt _ (by decide))

theorem digitValue_digitChar {digit : Nat} (bound : digit < 16) :
    Hex.digitValue (Nat.digitChar digit) = some digit := by
  interval_cases digit <;> decide

theorem hexNumber_append (digits : Text) (char : Char) :
    hexNumber (digits ++ [char]) = 16 * hexNumber digits + (Hex.digitValue char).getD 0 := by
  rw [hexNumber, List.foldl_append, List.foldl_cons, List.foldl_nil]
  rfl

/-- A printed number is read back. -/
theorem hexNumber_toDigits (value : Nat) : hexNumber (Nat.toDigits 16 value) = value := by
  induction value using Nat.strongRecOn with
  | ind value ih =>
      rw [Nat.toDigits_eq_if (by decide)]
      split
      · rename_i small
        have read := hexNumber_append [] (Nat.digitChar value)
        rw [List.nil_append, digitValue_digitChar small] at read
        rw [read]
        show 16 * 0 + value = value
        omega
      · rw [hexNumber_append, ih (value / 16) (by omega),
          digitValue_digitChar (Nat.mod_lt _ (by decide))]
        show 16 * (value / 16) + value % 16 = value
        omega

theorem cell_legal (value : Nat) : legalValue (cell value) = true := by
  have digits : ∀ digit < 16, printable (Nat.digitChar digit) = true := by
    intro digit bound
    interval_cases digit <;> decide
  have shown : (Nat.toDigits 16 value).all printable = true :=
    List.all_eq_true.mpr (toDigits_all digits value)
  have first : (cell value).head?.any "\"<[".toList.contains = true := rfl
  have last : (cell value).getLast?.any "\">]".toList.contains = true := by
    rw [cell, ← List.append_assoc, List.getLast?_concat]
    rfl
  rw [legalValue, first, last, cell, List.all_append, List.all_append, shown]
  rfl

theorem sinkProperties_legal (phandle : Option Nat) :
    (sinkProperties phandle).all Property.legal = true := by
  cases phandle with
  | none => rfl
  | some value =>
      have legal : Property.legal ⟨phandleName, some (cell value)⟩ = true := by
        have value : (some (cell value)).all legalValue = true := cell_legal value
        rw [Property.legal, value]
        rfl
      rw [sinkProperties, List.all_cons, legal]
      rfl

/-! ### The phandles of a tree -/

/-- The number in a printed cell. -/
def cellNumber (value : Text) : Option Nat :=
  let digits := (value.drop 3).dropLast
  if value = "<0x".toList ++ (digits ++ ['>']) ∧ digits ≠ [] ∧ digits.all hexDigit = true then
    some (hexNumber digits)
  else none

def Property.phandle (property : Property) : Option Nat :=
  if property.name = phandleName then property.value.bind cellNumber else none

def Nodes.phandles : Nodes → List Nat
  | .nil => []
  | .node _ properties below rest =>
      properties.filterMap Property.phandle ++ below.phandles ++ rest.phandles

def Tree.phandles (tree : Tree) : List Nat :=
  tree.properties.filterMap Property.phandle ++ tree.below.phandles

theorem cellNumber_cell (value : Nat) : cellNumber (cell value) = some value := by
  have digits : ((cell value).drop 3).dropLast = Nat.toDigits 16 value := by
    show (Nat.toDigits 16 value ++ ['>']).dropLast = _
    rw [List.dropLast_concat]
  have hex : ∀ digit < 16, hexDigit (Nat.digitChar digit) = true := by
    intro digit bound
    interval_cases digit <;> decide
  have nonempty : Nat.toDigits 16 value ≠ [] :=
    List.ne_nil_of_length_pos Nat.length_toDigits_pos
  rw [cellNumber, digits, if_pos ⟨rfl, nonempty, List.all_eq_true.mpr (toDigits_all hex value)⟩,
    hexNumber_toDigits]

/-- The sink has the phandle that it was given. -/
theorem sinkProperties_phandle (value : Nat) :
    (sinkProperties (some value)).filterMap Property.phandle = [value] := by
  have own : Property.phandle ⟨phandleName, some (cell value)⟩ = some value :=
    cellNumber_cell value
  rw [sinkProperties, List.filterMap_cons, own]
  rfl

/-! ### What the pattern finds -/

theorem hexCell_item {property : Property} {value : Nat} (own : property.phandle = some value) :
    hexCell property.item = some value := by
  rw [Property.phandle] at own
  split at own
  · rename_i named
    cases valued : property.value with
    | none =>
        rw [valued] at own
        cases own
    | some text =>
        rw [valued] at own
        have read : cellNumber text = some value := own
        rw [cellNumber] at read
        split at read
        · rename_i shape
          obtain ⟨digits, split⟩ : ∃ digits, (text.drop 3).dropLast = digits := ⟨_, rfl⟩
          rw [split] at shape read
          obtain ⟨same, some_digits, hex⟩ := shape
          have stops : ['>', ';'].head?.any hexDigit = false := by decide
          have parts := takeWhile_all (List.all_eq_true.mp hex) stops
          have item : property.item = "phandle = <0x".toList ++ (digits ++ ['>', ';']) := by
            rw [Property.item, valued, named, same]
            show phandleName ++ (" = ".toList ++ (("<0x".toList ++ (digits ++ ['>'])) ++ [';'])) = _
            rw [List.append_assoc, List.append_assoc]
            rfl
          have front : "phandle = <0x".toList.isPrefixOf property.item = true := by
            rw [item]
            exact List.isPrefixOf_iff_prefix.mpr (List.prefix_append _ _)
          have rest : property.item.drop 13 = digits ++ ['>', ';'] := by
            rw [item]
            rfl
          rw [hexCell, if_pos front, rest]
          dsimp only
          rw [parts.1, parts.2, if_pos ⟨some_digits, rfl⟩]
          exact read
        · cases read
  · cases own

theorem item_mem_tails (depth : Nat) (property : Property) :
    property.item ∈ (property.line depth).tails :=
  (List.mem_tails _ _).mpr (List.suffix_append _ _)

theorem phandle_found {page : Page} {depth : Nat} {property : Property} {value : Nat}
    (line : property.line depth ∈ page) (own : property.phandle = some value) :
    value ∈ findAll hexCell page := by
  apply List.mem_flatMap.mpr
  exact ⟨_, line, List.mem_filterMap.mpr
    ⟨_, item_mem_tails depth property, hexCell_item own⟩⟩

theorem phandles_lines {nodes : Nodes} {value : Nat} (member : value ∈ nodes.phandles)
    (depth : Nat) : ∃ (property : Property) (level : Nat),
      property.line level ∈ nodes.page depth ∧ property.phandle = some value := by
  induction nodes generalizing depth with
  | nil => cases member
  | node name properties below rest ihBelow ihRest =>
      rw [Nodes.page_node, block]
      rcases List.mem_append.mp member with early | later
      · rcases List.mem_append.mp early with own | lower
        · obtain ⟨property, inside, found⟩ := List.mem_filterMap.mp own
          refine ⟨property, depth + 1, ?_, found⟩
          have line : property.line (depth + 1) ∈ properties.map (Property.line (depth + 1)) :=
            List.mem_map.mpr ⟨property, inside, rfl⟩
          simp [line]
        · obtain ⟨property, level, line, found⟩ := ihBelow lower (depth + 1)
          refine ⟨property, level, ?_, found⟩
          simp [line]
      · obtain ⟨property, level, line, found⟩ := ihRest later depth
        refine ⟨property, level, ?_, found⟩
        simp [line]

theorem le_foldr_max {values : List Nat} {value : Nat} (member : value ∈ values) :
    value ≤ values.foldr max 0 := by
  induction values with
  | nil => cases member
  | cons first rest ih =>
      rw [List.foldr_cons]
      rcases List.mem_cons.mp member with rfl | later
      · exact Nat.le_max_left _ _
      · exact Nat.le_trans (ih later) (Nat.le_max_right _ _)

/-- No phandle of the tree is greater than the greatest on its page. -/
theorem phandle_le_max {tree : Tree} {value : Nat} (member : value ∈ tree.phandles) :
    value ≤ maxPhandle tree.page := by
  have found : value ∈ findAll hexCell tree.page := by
    rcases List.mem_append.mp member with own | lower
    · obtain ⟨property, inside, same⟩ := List.mem_filterMap.mp own
      have line : property.line 1 ∈ tree.properties.map (Property.line 1) :=
        List.mem_map.mpr ⟨property, inside, rfl⟩
      have there : property.line 1 ∈ tree.page := by simp [Tree.page, line]
      exact phandle_found there same
    · obtain ⟨property, level, line, same⟩ := phandles_lines lower 1
      have there : property.line level ∈ tree.page := by simp [Tree.page, line]
      exact phandle_found there same
  exact le_foldr_max (List.mem_append_left _ found)

end Liuqin.DeviceTree
