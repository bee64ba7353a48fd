/-
The surgery on the bootloader's tree: both tools.
-/

import Liuqin.DeviceTree.Exported
import Liuqin.DeviceTree.Reading

namespace Liuqin.DeviceTree

open Liuqin.Library Liuqin.Library.Lines

/-- A run of either tool that exits with 0 changes what it declares.  The identity tool
does so exactly where its pattern reads every root property of the boot tree; the
symbols tool where it reads its inputs right and the renames are names. -/
theorem surgery_declared {Path : Type} [DecidableEq Path] (dtc : Dtc) (files : Files Path)
    (options : Options Path) (boot stock : Tree) :
    (∀ output, mirrorIds dtc boot stock = .ok output →
      (Mirrored boot stock output ↔ ∀ property ∈ boot.properties, property.readable = true)) ∧
    (∀ output, exportSymbols dtc files options boot = .ok output → PlainInputs files options →
      (∀ spec ∈ options.renameNode, LegalSpec spec) →
      ∃ renames stripped phandle symbols, options.renameNode.mapM splitSpec = .ok renames ∧
        Exported files options boot output renames stripped phandle symbols) := by
  constructor
  · intro output run
    exact mirrored_iff run
  · intro output run plain legal
    exact exportSymbols_ok run plain legal

/-! ### Runs -/

def stringProperty (name value : String) : Property := ⟨name.toList, some value.toList⟩

def sampleStock : Tree where
  reserved := []
  properties := [stringProperty "model" "\"stock\"", stringProperty "qcom,msm-id" "<0x26f>",
    stringProperty "qcom,board-id" "<0x8>"]
  below := .nil
  reservedLegal := by decide
  propertiesLegal := by decide
  belowLegal := by decide
  unique := by decide

def sampleNodes (cache : String) : Nodes :=
  .node "soc".toList [stringProperty "phandle" "<0x1>"]
    (.node cache.toList [] .nil .nil) .nil

def sampleBoot : Tree where
  reserved := []
  properties := [stringProperty "model" "\"mainline\"", stringProperty "#size-cells" "<0x2>"]
  below := sampleNodes "cache@9200000"
  reservedLegal := by decide
  propertiesLegal := by decide
  belowLegal := by decide
  unique := by decide

/-- A boot tree with a property whose name the pattern does not read. -/
def questionBoot : Tree where
  reserved := []
  properties := [stringProperty "model" "\"mainline\"", stringProperty "vendor,secure?" "<0x1>"]
  below := sampleNodes "cache@9200000"
  reservedLegal := by decide
  propertiesLegal := by decide
  belowLegal := by decide
  unique := by decide

def sampleOverlay : Tree where
  reserved := []
  properties := []
  below := .node fixupsNode [stringProperty "panel" "\"/fragment@0:target:0\""] .nil .nil
  reservedLegal := by decide
  propertiesLegal := by decide
  belowLegal := by decide
  unique := by decide

def sampleFiles : Files Unit where
  resolve := id
  tree := fun _ => some sampleOverlay
  isFile := fun _ => true
  children := fun _ => none
  linked := fun _ _ _ => rfl

def sampleOptions : Options Unit where
  overlayDtbs := [()]
  overlayDirs := []
  symbolsFromDtb := []
  renameNode := ["cache=llcc".toList]
  expectSymbols := 1
  sinkPhandle := true

def sampleExported : Tree :=
  sampleBoot.withNodes
    ((sampleNodes "llcc@9200000").append (added (some 2) ["panel".toList])) (by decide)

def sampleDtc : Dtc :=
  Dtc.knowing [editedTree sampleBoot sampleStock, editedTree questionBoot sampleStock,
    sampleExported]

theorem sample_mirrored :
    mirrorIds sampleDtc sampleBoot sampleStock = .ok (editedTree sampleBoot sampleStock) := by
  decide +kernel

theorem question_mirrored :
    mirrorIds sampleDtc questionBoot sampleStock = .ok (editedTree questionBoot sampleStock) := by
  decide +kernel

theorem sample_exported :
    exportSymbols sampleDtc sampleFiles sampleOptions sampleBoot = .ok sampleExported := by
  decide +kernel

theorem sample_plain : PlainInputs sampleFiles sampleOptions where
  overlays := by
    intro path tree _ decoded
    cases decoded
    exact ⟨_, rfl, rfl, by decide⟩
  bases := by
    intro path tree given
    cases given

theorem sample_specs : ∀ spec ∈ sampleOptions.renameNode, LegalSpec spec := by
  intro spec member names split
  rw [List.mem_singleton.mp member] at split
  have same : splitSpec "cache=llcc".toList = .ok ("cache".toList, "llcc".toList) := by decide
  rw [same] at split
  cases split
  decide

theorem sample_surgery :
    Mirrored sampleBoot sampleStock (editedTree sampleBoot sampleStock) ∧
    ∃ renames stripped phandle symbols, sampleOptions.renameNode.mapM splitSpec = .ok renames ∧
      Exported sampleFiles sampleOptions sampleBoot sampleExported renames stripped phandle
        symbols := by
  have both := surgery_declared sampleDtc sampleFiles sampleOptions sampleBoot sampleStock
  exact ⟨(both.1 _ sample_mirrored).mpr (by decide), both.2 _ sample_exported sample_plain
    sample_specs⟩

/-- The property with a question mark in its name is gone, and nothing was said. -/
theorem question_dropped : ¬∀ (dtc : Dtc) (boot stock output : Tree),
    mirrorIds dtc boot stock = .ok output → Mirrored boot stock output := by
  intro all
  have mirrored := all sampleDtc questionBoot sampleStock _ question_mirrored
  have member : stringProperty "vendor,secure?" "<0x1>" ∈ questionBoot.properties := by decide
  have declared := mirrored.declared _ member (by decide) (by decide)
  exact absurd declared (by decide)

end Liuqin.DeviceTree
