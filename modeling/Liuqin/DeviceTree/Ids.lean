/-
The identity of the boot tree (tools/lib/abl-dtb-ids.py).

The root properties that the bootloader reads are taken from a stock tree.  The
tool edits the printed page: the lines of the root are found with patterns, and a
line that is no property for its pattern is left out.
-/

import Liuqin.DeviceTree.Tree
import Liuqin.Library.Checked

namespace Liuqin.DeviceTree

open Liuqin.Library Liuqin.Library.Lines Liuqin.Library.Checked
open Liuqin.Library.Numerals (isSpace)

/-! ### The classes of root properties -/

def mirrorProps : List Text :=
  texts ["model", "compatible", "qcom,msm-id", "qcom,board-id", "qcom,pmic-id", "qcom,rtic-id",
    "xiaomi,miboard-id"]

def deleteProps : List Text := texts ["chassis-type"]

def keepProps : List Text :=
  texts ["interrupt-parent", "#address-cells", "#size-cells", "phandle"]

inductive Refusal where
  | dtc
  | noRoot
  | noEnd
  | unclassifiedStock (names : List Text)
  | noIdentity
  | unclassified (name : Text)
  | mismatch (name : Text)
  | carried (name : Text)
  | changed (name : Text)
  | unexpected (names : List Text)
  | leaked
  deriving DecidableEq, Repr

/-! ### Patterns -/

def rstrip (text : Text) : Text := (text.reverse.dropWhile isSpace).reverse

/-- A character and blanks up to the end of the line. -/
def endsWith (char : Char) (text : Text) : Bool := (rstrip text).getLast? = some char

/-- `^\t[^\t\n][^\n]*\{\s*$` -/
def childLine (line : Text) : Bool :=
  match line with
  | '\t' :: char :: rest => char ≠ '\t' && endsWith '{' rest
  | _ => false

/-- `[A-Za-z0-9_,.+#\-]` -/
def propChar (char : Char) : Bool := alphanumeric char || "_,.+#-".toList.contains char

/-- `(?:\s*=\s*.*)?;\s*$` -/
def propTail (tail : Text) : Bool :=
  rstrip tail = [';'] ||
    match tail.dropWhile isSpace with
    | '=' :: rest => endsWith ';' rest
    | _ => false

/-- The name that the pattern of a property line finds. -/
def propName (line : Text) : Option Text :=
  match line with
  | '\t' :: rest =>
      let name := rest.takeWhile propChar
      if name ≠ [] ∧ propTail (rest.dropWhile propChar) = true then some name else none
  | _ => none

/-! ### The root -/

/-- What is before the lines of the root, these lines, and what is from their end on. -/
structure Region where
  front : Page
  lines : Page
  back : Page
  deriving DecidableEq, Repr

def rootRegion (page : Page) : Except Refusal Region :=
  match page.dropWhile (· ≠ rootLine) with
  | [] => .error .noRoot
  | root :: rest =>
      let front := page.takeWhile (· ≠ rootLine) ++ [root]
      let region := rest.takeWhile (fun line => !childLine line)
      match rest.dropWhile (fun line => !childLine line) with
      | child :: back => .ok ⟨front, region, child :: back⟩
      | [] =>
          -- no node below: up to the newline before the closing brace
          match rest with
          | [] => .error .noEnd
          | first :: others =>
              match others.dropWhile (fun line => !closing.isPrefixOf line) with
              | [] => .error .noEnd
              | last :: back =>
                  .ok ⟨front, first :: others.takeWhile (fun line => !closing.isPrefixOf line),
                    [] :: last :: back⟩

abbrev Props := List (Text × Text)

def Props.get (props : Props) (name : Text) : Option Text :=
  (props.find? (fun item => item.1 = name)).map Prod.snd

/-- An entry keeps its place when it is set again. -/
def Props.set (props : Props) (name line : Text) : Props :=
  if (props.get name).isSome then
    props.map (fun item => if item.1 = name then (name, line) else item)
  else props ++ [(name, line)]

def parseProps (region : Page) : Props :=
  region.foldl (fun props line =>
    match propName line with
    | none => props
    | some name => props.set name line) []

/-! ### The edit -/

/-- The lines that are kept, and the names that are deleted. -/
def classify (stock : Props) : Props → Except Refusal (Page × List Text)
  | [] => .ok ([], [])
  | (name, line) :: rest =>
      if name ∈ keepProps then
        (classify stock rest).map (fun pair => (line :: pair.1, pair.2))
      else if name ∈ mirrorProps then
        if (stock.get name).isNone then
          (classify stock rest).map (fun pair => (pair.1, name :: pair.2))
        else classify stock rest
      else if name ∈ deleteProps then
        (classify stock rest).map (fun pair => (pair.1, name :: pair.2))
      else .error (.unclassified name)

/-- `"\n".join(lines) + "\n"` -/
def joined : Page → Page
  | [] => [[]]
  | line :: rest => line :: rest

/-- The name at the front of a line that was kept. -/
def keptName (line : Text) : Text := (line.drop 1).takeWhile propChar

/-- What is checked of the tree that dtc made. -/
def verifyRoot (stock out : Props) (kept : Page) : Except Refusal Unit := do
  mirrorProps.forM (fun name =>
    match stock.get name with
    | some line => refuseIf (out.get name ≠ some line) (.mismatch name)
    | none => refuseIf ((out.get name).isSome = true) (.carried name))
  deleteProps.forM (fun name => refuseIf ((out.get name).isSome = true) (.carried name))
  kept.forM (fun line => refuseIf (out.get (keptName line) ≠ some line) (.changed (keptName line)))
  let extra := (out.map Prod.fst).filter (fun name =>
    (stock.get name).isNone && !(kept.map keptName).contains name)
  refuseIf (extra ≠ []) (.unexpected extra)

/-- The stock properties, when they are all classified and carry the identity. -/
def stockProps (stock : Tree) : Except Refusal Props := do
  let region ← rootRegion stock.page
  let props := parseProps region.lines
  let unclassified := (props.map Prod.fst).filter (fun name =>
    !mirrorProps.contains name && !keepProps.contains name)
  refuseIf (unclassified ≠ []) (.unclassifiedStock unclassified)
  refuseIf ((props.get "qcom,msm-id".toList).isNone = true ∨
    (props.get "qcom,board-id".toList).isNone = true) .noIdentity
  return props

/-- The tree that is written, when the tool exits with 0. -/
def mirrorIds (dtc : Dtc) (boot stock : Tree) : Except Refusal Tree := do
  let stock ← stockProps stock
  let source ← rootRegion boot.page
  let (kept, _) ← classify stock (parseProps source.lines)
  let mirrored := mirrorProps.filterMap stock.get
  match dtc.compile (source.front ++ joined (mirrored ++ kept) ++ source.back) with
  | none => .error .dtc
  | some output =>
      let result ← rootRegion output.page
      verifyRoot stock (parseProps result.lines) kept
      refuseIf (result.back ≠ source.back) .leaked
      return output

end Liuqin.DeviceTree
