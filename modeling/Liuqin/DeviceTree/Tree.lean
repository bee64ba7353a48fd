/-
Device trees and the text that dtc prints of them.

A page is a text as its lines.  dtc prints the memory reservations, then the root;
a property is one line, a node has a blank line before it and a tab more for what
it holds.  Reading a page, dtc looks at neither the tabs nor the blank lines.
-/

import Liuqin.Library.Numerals

namespace Liuqin.DeviceTree

open Liuqin.Library Liuqin.Library.Lines

abbrev Page := List Text

/-! ### Trees -/

/-- A property; its value is what dtc prints of it. -/
structure Property where
  name : Text
  value : Option Text
  deriving DecidableEq, Repr

/-- The nodes of one level, in order: the first with its properties and the nodes
below it, then the rest. -/
inductive Nodes where
  | nil
  | node (name : Text) (properties : List Property) (below rest : Nodes)
  deriving DecidableEq, Repr

def alphanumeric (char : Char) : Bool :=
  ('a' ≤ char && char ≤ 'z') || ('A' ≤ char && char ≤ 'Z') || ('0' ≤ char && char ≤ '9')

/-- What dtc lets into the name of a property. -/
def nameChar (char : Char) : Bool := alphanumeric char || ",._+*#?-".toList.contains char

def nodeChar (char : Char) : Bool := nameChar char || char = '@'

def printable (char : Char) : Bool := ' ' ≤ char && char ≤ '~'

/-- Strings, cells or bytes. -/
def legalValue (text : Text) : Bool :=
  text.all printable && text.head?.any "\"<[".toList.contains &&
    text.getLast?.any "\">]".toList.contains

def Property.legal (property : Property) : Bool :=
  !property.name.isEmpty && property.name.all nameChar && property.value.all legalValue

def legalName (name : Text) : Bool := !name.isEmpty && name.all nodeChar

def Nodes.legal : Nodes → Bool
  | .nil => true
  | .node name properties below rest =>
      legalName name && properties.all Property.legal && below.legal && rest.legal

/-- A whole tree.  The reservations are kept as they are printed. -/
structure Tree where
  reserved : List Text
  properties : List Property
  below : Nodes
  reservedLegal : reserved.all (fun text => text.all printable) = true
  propertiesLegal : properties.all Property.legal = true
  belowLegal : below.legal = true
  unique : (properties.map Property.name).Nodup
  deriving DecidableEq

theorem Tree.ext_parts {one two : Tree} (reserved : one.reserved = two.reserved)
    (properties : one.properties = two.properties) (below : one.below = two.below) :
    one = two := by
  cases one
  cases two
  cases reserved
  cases properties
  cases below
  rfl

/-! ### Printing -/

def tabs (depth : Nat) : Text := List.replicate depth '\t'

def Property.item (property : Property) : Text :=
  match property.value with
  | none => property.name ++ [';']
  | some value => property.name ++ (" = ".toList ++ (value ++ [';']))

def Property.line (depth : Nat) (property : Property) : Text := tabs depth ++ property.item

def opening (name : Text) : Text := name ++ " \x7b".toList

def closing : Text := "\x7d;".toList

def Nodes.page (depth : Nat) : Nodes → Page
  | .nil => []
  | .node name properties below rest =>
      [[], tabs depth ++ opening name] ++ properties.map (Property.line (depth + 1)) ++
        below.page (depth + 1) ++ [tabs depth ++ closing] ++ rest.page depth

def rootLine : Text := "/ \x7b".toList

def reservation (text : Text) : Text := "/memreserve/\t".toList ++ (text ++ [';'])

/-- What dtc prints before the properties of the root. -/
def header (reserved : List Text) : Page :=
  ["/dts-v1/;".toList, []] ++ reserved.map reservation

def Tree.page (tree : Tree) : Page :=
  header tree.reserved ++ [rootLine] ++ tree.properties.map (Property.line 1) ++
    tree.below.page 1 ++ [closing]

/-! ### Reading -/

/-- The lines without their tabs, the blank ones left out. -/
def items (page : Page) : Page :=
  (page.map (fun line => line.dropWhile (· = '\t'))).filter (fun line => line ≠ [])

/-- dtc compiles what it would print of a tree to that tree, if it takes it at all. -/
structure Dtc where
  compile : Page → Option Tree
  exact : ∀ page tree, items page = items tree.page →
    compile page = none ∨ compile page = some tree

/-! ### Items -/

def Nodes.items : Nodes → Page
  | .nil => []
  | .node name properties below rest =>
      opening name :: (properties.map Property.item ++ (below.items ++ closing :: rest.items))

/-- No tab at the front, and not blank. -/
def Item (text : Text) : Prop := ∃ char rest, text = char :: rest ∧ char ≠ '\t'

theorem items_append (front back : Page) : items (front ++ back) = items front ++ items back := by
  rw [items, List.map_append, List.filter_append]
  rfl

theorem dropWhile_tabs (depth : Nat) {text : Text} (item : Item text) :
    (tabs depth ++ text).dropWhile (· = '\t') = text := by
  obtain ⟨char, rest, rfl, other⟩ := item
  induction depth with
  | zero =>
      have stops : ¬(decide (char = '\t') = true) := by simpa using other
      rw [tabs, List.replicate_zero, List.nil_append, List.dropWhile_cons, if_neg stops]
  | succ depth ih =>
      have more : tabs (depth + 1) = '\t' :: tabs depth := rfl
      have tab : decide ('\t' = '\t') = true := by decide
      rw [more, List.cons_append, List.dropWhile_cons, if_pos tab, ih]

theorem items_cons (depth : Nat) {text : Text} (item : Item text) (page : Page) :
    items ((tabs depth ++ text) :: page) = text :: items page := by
  have solid : text ≠ [] := by
    obtain ⟨char, rest, rfl, _⟩ := item
    exact List.cons_ne_nil _ _
  have kept : (decide (text ≠ []) : Bool) = true := decide_eq_true solid
  rw [items, List.map_cons, dropWhile_tabs depth item, List.filter_cons, if_pos kept]
  rfl

theorem items_blank (page : Page) : items ([] :: page) = items page := rfl

theorem nodeChar_range {char : Char} (member : nodeChar char = true) :
    33 ≤ char.toNat ∧ char.toNat ≤ 126 := by
  have range : ∀ low high : Char, 33 ≤ low.toNat → high.toNat ≤ 126 →
      (low ≤ char && char ≤ high) = true → 33 ≤ char.toNat ∧ char.toNat ≤ 126 := by
    intro low high above below inside
    rw [Bool.and_eq_true, decide_eq_true_eq, decide_eq_true_eq] at inside
    have first : low.toNat ≤ char.toNat := UInt32.le_iff_toNat_le.mp inside.1
    have last : char.toNat ≤ high.toNat := UInt32.le_iff_toNat_le.mp inside.2
    omega
  have listed : ",._+*#?-".toList.all
      (fun char => decide (33 ≤ char.toNat ∧ char.toNat ≤ 126)) = true := by decide
  rw [nodeChar, nameChar, alphanumeric, Bool.or_eq_true, Bool.or_eq_true, Bool.or_eq_true,
    Bool.or_eq_true] at member
  rcases member with (((small | large) | digit) | other) | unit
  · exact range 'a' 'z' (by decide) (by decide) small
  · exact range 'A' 'Z' (by decide) (by decide) large
  · exact range '0' '9' (by decide) (by decide) digit
  · exact of_decide_eq_true (List.all_eq_true.mp listed char (List.contains_iff_mem.mp other))
  · rw [of_decide_eq_true unit]
    decide

theorem nameChar_node {char : Char} (member : nameChar char = true) : nodeChar char = true := by
  rw [nodeChar, member, Bool.true_or]

theorem nodeChar_solid {char : Char} (member : nodeChar char = true) :
    Numerals.isSpace char = false := by
  have range := nodeChar_range member
  cases space : Numerals.isSpace char with
  | false => rfl
  | true =>
      have value := Numerals.isSpace_cases space
      omega

theorem nodeChar_tab {char : Char} (member : nodeChar char = true) : char ≠ '\t' := by
  rintro rfl
  revert member
  decide

theorem nameChar_tab {char : Char} (member : nameChar char = true) : char ≠ '\t' :=
  nodeChar_tab (nameChar_node member)

theorem Property.item_head {property : Property} (legal : property.legal = true) :
    ∃ char rest, property.item = char :: rest ∧ nameChar char = true := by
  rw [Property.legal, Bool.and_eq_true, Bool.and_eq_true] at legal
  cases name : property.name with
  | nil =>
      rw [name] at legal
      exact absurd legal.1.1 (by decide)
  | cons char rest =>
      have member : nameChar char = true := by
        have all := legal.1.2
        rw [name, List.all_cons, Bool.and_eq_true] at all
        exact all.1
      unfold Property.item
      split
      · exact ⟨char, _, by rw [name]; rfl, member⟩
      · exact ⟨char, _, by rw [name]; rfl, member⟩

theorem Property.item_item {property : Property} (legal : property.legal = true) :
    Item property.item := by
  obtain ⟨char, rest, same, member⟩ := Property.item_head legal
  exact ⟨char, rest, same, nameChar_tab member⟩

theorem opening_item {name : Text} (legal : legalName name = true) : Item (opening name) := by
  rw [legalName, Bool.and_eq_true] at legal
  cases name with
  | nil => exact absurd legal.1 (by decide)
  | cons char rest =>
      have all := legal.2
      rw [List.all_cons, Bool.and_eq_true] at all
      exact ⟨char, _, rfl, nodeChar_tab all.1⟩

theorem closing_item : Item closing := ⟨'}', [';'], rfl, by decide⟩

theorem items_properties (depth : Nat) {properties : List Property}
    (legal : properties.all Property.legal = true) :
    items (properties.map (Property.line depth)) = properties.map Property.item := by
  induction properties with
  | nil => rfl
  | cons property rest ih =>
      rw [List.all_cons, Bool.and_eq_true] at legal
      rw [List.map_cons, Property.line, items_cons depth (Property.item_item legal.1),
        ih legal.2, List.map_cons]

theorem Nodes.items_page (depth : Nat) {nodes : Nodes} (legal : nodes.legal = true) :
    DeviceTree.items (nodes.page depth) = nodes.items := by
  induction nodes generalizing depth with
  | nil => rfl
  | node name properties below rest ihBelow ihRest =>
      rw [Nodes.legal, Bool.and_eq_true, Bool.and_eq_true, Bool.and_eq_true] at legal
      obtain ⟨⟨⟨named, fine⟩, under⟩, after⟩ := legal
      have opened : DeviceTree.items [[], tabs depth ++ opening name] = [opening name] := by
        rw [items_blank, items_cons depth (opening_item named)]
        rfl
      have closed : DeviceTree.items [tabs depth ++ closing] = [closing] := by
        rw [items_cons depth closing_item]
        rfl
      rw [Nodes.page, items_append, items_append, items_append, items_append, ihBelow _ under,
        ihRest _ after, items_properties _ fine, opened, closed, Nodes.items]
      simp

theorem reservations_items (reserved : List Text) :
    DeviceTree.items (reserved.map reservation) = reserved.map reservation := by
  induction reserved with
  | nil => rfl
  | cons text rest ih =>
      have item : Item (reservation text) := ⟨'/', _, rfl, by decide⟩
      have line := items_cons 0 item (rest.map reservation)
      rw [ih] at line
      exact line

theorem header_items (reserved : List Text) :
    DeviceTree.items (header reserved) = "/dts-v1/;".toList :: reserved.map reservation := by
  have first : Item "/dts-v1/;".toList := ⟨'/', _, rfl, by decide⟩
  have line := items_cons 0 first ([] :: reserved.map reservation)
  rw [items_blank, reservations_items] at line
  exact line

theorem rootLine_item : Item rootLine := ⟨'/', _, rfl, by decide⟩

theorem Tree.items_page (tree : Tree) :
    DeviceTree.items tree.page = ("/dts-v1/;".toList :: tree.reserved.map reservation) ++
      rootLine :: (tree.properties.map Property.item ++ (tree.below.items ++ [closing])) := by
  have root : DeviceTree.items [rootLine] = [rootLine] := items_cons 0 rootLine_item []
  have last : DeviceTree.items [closing] = [closing] := items_cons 0 closing_item []
  rw [Tree.page, items_append, items_append, items_append, items_append, header_items,
    items_properties 1 tree.propertiesLegal, Nodes.items_page 1 tree.belowLegal, root, last]
  simp

end Liuqin.DeviceTree
