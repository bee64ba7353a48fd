/-
The symbols for the bootloader's overlays (tools/lib/abl-symbols.py).

The labels that the overlays need and the base trees export are all mapped to one
inert node.  The printed boot tree is edited: two nodes are put before the end of
the root, and lines that open a node are renamed.
-/

import Mathlib.Data.List.Sort
import Liuqin.DeviceTree.Ids
import Liuqin.Library.Hex

namespace Liuqin.DeviceTree

open Liuqin.Library Liuqin.Library.Lines Liuqin.Library.Checked
open Liuqin.Library.Numerals (isSpace)

def sinkName : Text := "liuqin-abl-overlay-sink".toList

def sinkPath : Text := '/' :: sinkName

def fixupsNode : Text := "__fixups__".toList

def symbolsNode : Text := "__symbols__".toList

inductive Rejection where
  | noInputs
  | unavailable
  | noDirectory
  | noEntries
  | dtc
  | noNode (name : Text)
  | emptyNode (name : Text)
  | expected (symbols : Nat)
  | hasSymbols
  | noEnd
  | badRename (spec : Text)
  | occurs (old : Text) (times : Nat)
  | missing (names : List Text)
  | extra (names : List Text)
  | mistargeted (names : List Text)
  | survived (old : Text)
  | absent (new : Text)
  | noSink
  | sinkOccurs (times : Nat)
  | sinkLost
  | sinkGained
  deriving DecidableEq, Repr

/-! ### The body of a node -/

/-- `^\s*NAME\s*\{\s*$` -/
def markerLine (name line : Text) : Bool :=
  let body := line.dropWhile isSpace
  name.isPrefixOf body &&
    match (body.drop name.length).dropWhile isSpace with
    | '{' :: rest => rest.all isSpace
    | _ => false

/-- The text up to the brace that brings the depth to zero. -/
def scan : Nat → Text → Text
  | 0, _ => []
  | _ + 1, [] => []
  | depth + 1, char :: rest =>
      if char = '{' then char :: scan (depth + 2) rest
      else if char = '}' then char :: scan depth rest
      else char :: scan (depth + 1) rest

/-- The body of the first node of the name, at any depth. -/
def extractBlock (page : Page) (name : Text) : Option Text :=
  match page.dropWhile (fun line => !markerLine name line) with
  | [] => none
  | _ :: rest => some (scan 1 ('\n' :: terminated rest)).dropLast

/-- `[A-Za-z0-9_,.+\-]` -/
def symbolChar (char : Char) : Bool := alphanumeric char || "_,.+-".toList.contains char

/-- `(.*?);\s*$` -/
def valueText : Text → Option Text
  | [] => none
  | char :: rest =>
      if char = ';' ∧ rest.all isSpace = true then some []
      else (valueText rest).map (char :: ·)

/-- `\s*([A-Za-z0-9_,.+\-]+)\s*=\s*(.*?);\s*$` -/
def blockProperty (line : Text) : Option (Text × Text) :=
  let body := line.dropWhile isSpace
  let name := body.takeWhile symbolChar
  if name = [] then none
  else
    match (body.dropWhile symbolChar).dropWhile isSpace with
    | '=' :: rest => (valueText (rest.dropWhile isSpace)).map (fun value => (name, value))
    | _ => none

def blockProperties (body : Text) : Props :=
  (splitlines body).foldl (fun props line =>
    match blockProperty line with
    | none => props
    | some (name, value) => props.set name value) []

/-! ### The inputs -/

/-- The file system: where a path leads, what dtc decodes there, and the directories. -/
structure Files (Path : Type) where
  resolve : Path → Path
  tree : Path → Option Tree
  isFile : Path → Bool
  children : Path → Option (List (Text × Path))
  linked : ∀ one two, resolve one = resolve two → tree one = tree two

structure Options (Path : Type) where
  overlayDtbs : List Path
  overlayDirs : List Path
  symbolsFromDtb : List Path
  renameNode : List Text
  expectSymbols : Int
  sinkPhandle : Bool

section Inputs

variable {Path : Type} [DecidableEq Path] (files : Files Path)

/-- `^entry\.(\d+)$` -/
def entryNumber (name : Text) : Option Nat :=
  let name := if name.getLast? = some '\n' then name.dropLast else name
  let digits := name.drop 6
  if "entry.".toList.isPrefixOf name ∧ digits ≠ [] ∧ digits.all Numerals.isDigit = true then
    some (Numerals.number digits)
  else none

/-- The entries of a directory, with their numbers. -/
def entriesOf (children : List (Text × Path)) : List (Nat × Path) :=
  children.filterMap (fun child =>
    match entryNumber child.1 with
    | none => none
    | some number => if files.isFile child.2 = true then some (number, child.2) else none)

def requireFile (path : Path) : Except Rejection Path :=
  if files.isFile path = true then .ok path else .error .unavailable

def directoryOverlays (directory : Path) : Except Rejection (List Path) :=
  match files.children directory with
  | none => .error .noDirectory
  | some children =>
      let found := entriesOf files children
      if found.isEmpty = true then .error .noEntries
      else .ok ((found.insertionSort (fun one two => one.1 ≤ two.1)).map Prod.snd)

/-- Every file once. -/
def dedupe (seen : List Path) : List Path → List Path
  | [] => []
  | path :: rest =>
      if files.resolve path ∈ seen then dedupe seen rest
      else path :: dedupe (files.resolve path :: seen) rest

def collectOverlays (overlayDtbs overlayDirs : List Path) : Except Rejection (List Path) := do
  let named ← overlayDtbs.mapM (requireFile files)
  let found ← overlayDirs.mapM (directoryOverlays files)
  return dedupe files [] (named ++ found.flatten)

/-- overlay_symbols and base_dtb_symbols, for the node that each reads. -/
def exportedNames (node : Text) (path : Path) : Except Rejection (List Text) :=
  match files.tree path with
  | none => .error .dtc
  | some tree =>
      match extractBlock tree.page node with
      | none => .error (.noNode node)
      | some body =>
          let names := (blockProperties body).map Prod.fst
          if names = [] then .error (.emptyNode node) else .ok names

def overlaySymbols (path : Path) : Except Rejection (List Text) := exportedNames files fixupsNode path

def baseDtbSymbols (path : Path) : Except Rejection (List Text) := do
  let base ← requireFile files path
  exportedNames files symbolsNode base

/-- The order of Python's texts. -/
def before : Text → Text → Bool
  | [], _ => true
  | _ :: _, [] => false
  | one :: rest, two :: others =>
      one.toNat < two.toNat || (one.toNat = two.toNat && before rest others)

/-- `sorted(set(names))` -/
def sorted (names : List Text) : List Text :=
  names.dedup.insertionSort (fun one two => before one two = true)

/-- The union of what all inputs name. -/
def symbolUnion (options : Options Path) : Except Rejection (List Text) := do
  refuseIf (options.overlayDtbs = [] ∧ options.overlayDirs = [] ∧ options.symbolsFromDtb = [])
    .noInputs
  let overlays ← collectOverlays files options.overlayDtbs options.overlayDirs
  let needed ← overlays.mapM (overlaySymbols files)
  let exported ← options.symbolsFromDtb.mapM (baseDtbSymbols files)
  let symbols := sorted (needed.flatten ++ exported.flatten)
  refuseIf (options.expectSymbols ≠ 0 ∧ (symbols.length : Int) ≠ options.expectSymbols)
    (.expected symbols.length)
  return symbols

end Inputs

/-! ### The sink -/

def hexDigit (char : Char) : Bool :=
  ('0' ≤ char && char ≤ '9') || ('a' ≤ char && char ≤ 'f') || ('A' ≤ char && char ≤ 'F')

/-- `int(digits, 16)` -/
def hexNumber (digits : Text) : Nat :=
  digits.foldl (fun value char => 16 * value + (Hex.digitValue char).getD 0) 0

/-- What `phandle = <0x([0-9a-fA-F]+)>` finds at the front of a text. -/
def hexCell (text : Text) : Option Nat :=
  if "phandle = <0x".toList.isPrefixOf text then
    let rest := text.drop 13
    let digits := rest.takeWhile hexDigit
    if digits ≠ [] ∧ (rest.dropWhile hexDigit).head? = some '>' then some (hexNumber digits)
    else none
  else none

/-- What `phandle = <(\d+)>` finds at the front of a text. -/
def decimalCell (text : Text) : Option Nat :=
  if "phandle = <".toList.isPrefixOf text then
    let rest := text.drop 11
    let digits := rest.takeWhile Numerals.isDigit
    if digits ≠ [] ∧ (rest.dropWhile Numerals.isDigit).head? = some '>' then
      some (Numerals.number digits)
    else none
  else none

/-- Every place where a pattern is found; two of them never overlap. -/
def findAll (cell : Text → Option Nat) (page : Page) : List Nat :=
  page.flatMap (fun line => line.tails.filterMap cell)

def maxPhandle (page : Page) : Nat :=
  (findAll hexCell page ++ findAll decimalCell page).foldr max 0

/-- A number as a cell, the way Python's `#x` and dtc write it. -/
def cell (value : Nat) : Text := "<0x".toList ++ (Nat.toDigits 16 value ++ ['>'])

def phandleName : Text := "phandle".toList

/-- The properties of the sink. -/
def sinkProperties (phandle : Option Nat) : List Property :=
  match phandle with
  | none => []
  | some value => [⟨phandleName, some (cell value)⟩]

def quotedPath : Text := '"' :: (sinkPath ++ ['"'])

def symbolProperty (name : Text) : Property := ⟨name, some quotedPath⟩

/-- The lines that are added to the root. -/
def addition (phandle : Option Nat) (symbols : List Text) : Page :=
  [tabs 1 ++ opening sinkName] ++ (sinkProperties phandle).map (Property.line 2) ++
    [tabs 1 ++ closing, []] ++ [tabs 1 ++ opening symbolsNode] ++
    (symbols.map symbolProperty).map (Property.line 2) ++ [tabs 1 ++ closing]

/-- Before the last line that begins with the end of the root. -/
def insertBeforeEnd (page lines : Page) : Option Page :=
  match page.reverse.dropWhile (fun line => !closing.isPrefixOf line) with
  | [] => none
  | last :: front =>
      if front = [] then none
      else some (front.reverse ++ lines ++ last ::
        (page.reverse.takeWhile (fun line => !closing.isPrefixOf line)).reverse)

/-! ### Renames -/

/-- `(@[0-9a-fA-F]+)?` -/
def unitAddress (suffix : Text) : Bool :=
  match suffix with
  | [] => true
  | '@' :: digits => digits ≠ [] && digits.all hexDigit
  | _ => false

/-- The second group of `^(\s*)NAME(@[0-9a-fA-F]+)? \{$`, behind the blanks. -/
def nodeText (name body : Text) : Option Text :=
  let tail := body.drop name.length
  let suffix := tail.take (tail.length - 2)
  if name.isPrefixOf body = true ∧ " \x7b".toList.isSuffixOf tail = true ∧
      unitAddress suffix = true then
    some suffix
  else none

def nodeLine (name line : Text) : Option Text := nodeText name (line.dropWhile isSpace)

def renameLine (old new line : Text) : Text :=
  match nodeLine old line with
  | none => line
  | some suffix => line.takeWhile isSpace ++ (new ++ (suffix ++ " \x7b".toList))

/-- OLD=NEW -/
def splitSpec (spec : Text) : Except Rejection (Text × Text) :=
  match breakAt ['='] spec with
  | none => .error (.badRename spec)
  | some (old, new) => if old = [] ∨ new = [] then .error (.badRename spec) else .ok (old, new)

def renameNode (page : Page) (old new : Text) : Except Rejection Page :=
  let found := page.filter (fun line => (nodeLine old line).isSome)
  if found.length ≠ 1 then .error (.occurs old found.length)
  else .ok (page.map (renameLine old new))

/-- The page with all renames made, and the renames. -/
def renameNodes (page : Page) : List Text → Except Rejection (Page × List (Text × Text))
  | [] => .ok (page, [])
  | spec :: rest => do
      let names ← splitSpec spec
      let page ← renameNode page names.1 names.2
      let later ← renameNodes page rest
      return (later.1, names :: later.2)

/-! ### The checks of the result -/

def verifySymbols (exported : Props) (symbols : List Text) : Except Rejection Unit := do
  let missing := symbols.filter (fun name => (exported.get name).isNone)
  refuseIf (missing ≠ []) (.missing missing)
  let extra := (exported.map Prod.fst).filter (fun name => !symbols.contains name)
  refuseIf (extra ≠ []) (.extra extra)
  let mistargeted := (exported.filter (fun item => item.2 ≠ quotedPath)).map Prod.fst
  refuseIf (mistargeted ≠ []) (.mistargeted mistargeted)

def verifyRename (page : Page) (names : Text × Text) : Except Rejection Unit := do
  refuseIf (page.any (fun line => (nodeLine names.1 line).isSome) = true) (.survived names.1)
  refuseIf (page.any (fun line => (nodeLine names.2 line).isSome) = false) (.absent names.2)

/-- How often a text that cannot overlap itself occurs. -/
def count (piece : Text) (page : Page) : Nat :=
  (page.flatMap (fun line => line.tails.filter piece.isPrefixOf)).length

def verifySink (page : Page) (body : Text) : Option Nat → Except Rejection Unit
  | some phandle => do
      let rendered := Property.item ⟨phandleName, some (cell phandle)⟩
      refuseIf (count rendered page ≠ 1) (.sinkOccurs (count rendered page))
      refuseIf (strstr rendered body = false) .sinkLost
  | none => refuseIf (strstr phandleName body = true) .sinkGained

def required (block : Option Text) (rejection : Rejection) : Except Rejection Text :=
  match block with
  | none => .error rejection
  | some body => .ok body

def verifyOutput (page : Page) (symbols : List Text) (renames : List (Text × Text))
    (phandle : Option Nat) : Except Rejection Unit := do
  let produced ← required (extractBlock page symbolsNode) (.noNode symbolsNode)
  verifySymbols (blockProperties produced) symbols
  renames.forM (verifyRename page)
  let body ← required (extractBlock page sinkName) .noSink
  verifySink page body phandle

/-! ### The tool -/

/-- The tree that is written, when the tool exits with 0. -/
def exportSymbols {Path : Type} [DecidableEq Path] (dtc : Dtc) (files : Files Path)
    (options : Options Path) (boot : Tree) : Except Rejection Tree := do
  let symbols ← symbolUnion files options
  let source := boot.page
  refuseIf ((extractBlock source symbolsNode).isSome = true) .hasSymbols
  let phandle := if options.sinkPhandle = true then some (maxPhandle source + 1) else none
  match insertBeforeEnd source (addition phandle symbols) with
  | none => .error .noEnd
  | some patched =>
      let renamed ← renameNodes patched options.renameNode
      match dtc.compile renamed.1 with
      | none => .error .dtc
      | some output =>
          verifyOutput output.page symbols renamed.2 phandle
          return output

end Liuqin.DeviceTree
