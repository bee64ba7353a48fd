/-
A printed page has one tree.

The last character tells the kinds of lines apart: a property and the end of a node
end in a semicolon, the opening of a node in a brace.  So the lines of two trees
are the same only where the trees are.
-/

import Liuqin.DeviceTree.Labels

namespace Liuqin.DeviceTree

open Liuqin.Library Liuqin.Library.Lines

/-! ### Properties -/

/-- What stands behind the name of a property. -/
def itemTail : Option Text → Text
  | Option.none => [';']
  | Option.some value => " = ".toList ++ (value ++ [';'])

theorem item_injective {one two : Property} (first : one.legal = true) (second : two.legal = true)
    (same : one.item = two.item) : one = two := by
  have chars : ∀ {property : Property}, property.legal = true →
      ∀ char ∈ property.name, nameChar char = true := by
    intro property legal
    rw [Property.legal, Bool.and_eq_true, Bool.and_eq_true] at legal
    exact List.all_eq_true.mp legal.1.2
  have parts : ∀ {property : Property}, property.legal = true →
      ∃ tail, property.item = property.name ++ tail ∧ tail.head?.any nameChar = false ∧
        tail = itemTail property.value := by
    intro property _
    cases property with
    | mk name value =>
        cases value with
        | none => exact ⟨itemTail Option.none, rfl, rfl, rfl⟩
        | some value => exact ⟨itemTail (Option.some value), rfl, rfl, rfl⟩
  obtain ⟨tailOne, itemOne, stopsOne, shapeOne⟩ := parts first
  obtain ⟨tailTwo, itemTwo, stopsTwo, shapeTwo⟩ := parts second
  have splitOne := takeWhile_all (chars first) stopsOne
  have splitTwo := takeWhile_all (chars second) stopsTwo
  rw [← itemOne, same, itemTwo] at splitOne
  have names : one.name = two.name := by rw [← splitOne.1, splitTwo.1]
  have tails : tailOne = tailTwo := by rw [← splitOne.2, splitTwo.2]
  rw [shapeOne, shapeTwo] at tails
  cases one with
  | mk name value =>
      cases two with
      | mk other text =>
          cases names
          cases value with
          | none =>
              cases text with
              | none => rfl
              | some text => cases tails
          | some value =>
              cases text with
              | none => cases tails
              | some text =>
                  have inner := List.append_cancel_right (List.append_cancel_left tails)
                  rw [inner]

/-- The line of a property, by its ends. -/
def propertyLine (text : Text) : Bool := text.getLast? = some ';' && text.head? ≠ some '}'

theorem propertyLine_item {property : Property} (legal : property.legal = true) :
    propertyLine property.item = true := by
  obtain ⟨front, ends⟩ := item_semicolon property
  obtain ⟨char, rest, same, member⟩ := Property.item_head legal
  have other : char ≠ '}' := by
    rintro rfl
    revert member
    decide
  rw [propertyLine, Bool.and_eq_true]
  constructor
  · rw [ends, List.getLast?_concat]
    decide
  · rw [same, List.head?_cons]
    simp [other]

theorem propertyLine_opening (name : Text) : propertyLine (opening name) = false := by
  have last : (opening name).getLast? = some '{' := List.getLast?_append
  rw [propertyLine, last]
  rfl

theorem propertyLine_closing : propertyLine closing = false := by decide

/-- Two runs of properties that end alike. -/
theorem properties_injective {one two : List Property} (first : one.all Property.legal = true)
    (second : two.all Property.legal = true) {front back : Page}
    (frontStops : front.head?.any propertyLine = false)
    (backStops : back.head?.any propertyLine = false)
    (same : one.map Property.item ++ front = two.map Property.item ++ back) :
    one = two ∧ front = back := by
  induction one generalizing two with
  | nil =>
      cases two with
      | nil => exact ⟨rfl, same⟩
      | cons property rest =>
          rw [List.all_cons, Bool.and_eq_true] at second
          rw [List.map_nil, List.nil_append] at same
          rw [same, List.map_cons, List.cons_append] at frontStops
          have line : propertyLine property.item = false := frontStops
          rw [propertyLine_item second.1] at line
          cases line
  | cons property rest ih =>
      rw [List.all_cons, Bool.and_eq_true] at first
      cases two with
      | nil =>
          rw [List.map_nil, List.nil_append] at same
          rw [← same, List.map_cons, List.cons_append] at backStops
          have line : propertyLine property.item = false := backStops
          rw [propertyLine_item first.1] at line
          cases line
      | cons other others =>
          rw [List.all_cons, Bool.and_eq_true] at second
          rw [List.map_cons, List.map_cons, List.cons_append, List.cons_append] at same
          obtain ⟨here, later⟩ := List.cons.inj same
          obtain ⟨equal, tails⟩ := ih first.2 second.2 later
          rw [item_injective first.1 second.1 here, equal]
          exact ⟨rfl, tails⟩

/-! ### Nodes -/

theorem items_stop (nodes : Nodes) (rest : Page) :
    (nodes.items ++ closing :: rest).head?.any propertyLine = false := by
  cases nodes with
  | nil => exact propertyLine_closing
  | node name properties below others => exact propertyLine_opening name

theorem opening_closing (name : Text) : opening name ≠ closing := by
  intro same
  have last : (opening name).getLast? = some '{' := List.getLast?_append
  rw [same] at last
  exact absurd last (by decide)

theorem nodes_injective {one two : Nodes} (first : one.legal = true) (second : two.legal = true)
    {front back : Page} (same : one.items ++ closing :: front = two.items ++ closing :: back) :
    one = two ∧ front = back := by
  induction one generalizing two front back with
  | nil =>
      cases two with
      | nil => exact ⟨rfl, (List.cons.inj same).2⟩
      | node name properties below rest =>
          exact absurd (List.cons.inj same).1.symm (opening_closing name)
  | node name properties below rest ihBelow ihRest =>
      cases two with
      | nil => exact absurd (List.cons.inj same).1 (opening_closing name)
      | node other others lower later =>
          rw [Nodes.legal, Bool.and_eq_true, Bool.and_eq_true, Bool.and_eq_true] at first second
          simp only [Nodes.items, List.cons_append, List.append_assoc] at same
          obtain ⟨here, tail⟩ := List.cons.inj same
          have names : name = other := List.append_cancel_right here
          obtain ⟨own, inside⟩ := properties_injective first.1.1.2 second.1.1.2
            (items_stop below _) (items_stop lower _) tail
          obtain ⟨under, after⟩ := ihBelow first.1.2 second.1.2 inside
          obtain ⟨next, ends⟩ := ihRest first.2 second.2 after
          rw [names, own, under, next]
          exact ⟨rfl, ends⟩

/-! ### Trees -/

theorem reservations_injective {one two : List Text} {front back : Page}
    (same : one.map reservation ++ rootLine :: front = two.map reservation ++ rootLine :: back) :
    one = two ∧ front = back := by
  have differs : ∀ text, reservation text ≠ rootLine := by
    intro text equal
    cases equal
  induction one generalizing two with
  | nil =>
      cases two with
      | nil => exact ⟨rfl, (List.cons.inj same).2⟩
      | cons text rest => exact absurd (List.cons.inj same).1.symm (differs text)
  | cons text rest ih =>
      cases two with
      | nil => exact absurd (List.cons.inj same).1 (differs text)
      | cons other others =>
          obtain ⟨here, later⟩ := List.cons.inj same
          obtain ⟨equal, tails⟩ := ih later
          have texts : text = other := List.append_cancel_right (List.append_cancel_left here)
          rw [texts, equal]
          exact ⟨rfl, tails⟩

/-- The lines of a tree are those of no other. -/
theorem items_injective {one two : Tree} (same : items one.page = items two.page) : one = two := by
  rw [Tree.items_page, Tree.items_page, List.cons_append, List.cons_append] at same
  obtain ⟨reserved, rest⟩ := reservations_injective (List.cons.inj same).2
  obtain ⟨properties, nodes⟩ := properties_injective one.propertiesLegal two.propertiesLegal
    (items_stop one.below []) (items_stop two.below []) rest
  exact Tree.ext_parts reserved properties (nodes_injective one.belowLegal two.belowLegal nodes).1

/-- So a compiler that knows some trees takes exactly what is printed of them. -/
def Dtc.knowing (trees : List Tree) : Dtc where
  compile := fun page => trees.find? (fun tree => items page = items tree.page)
  exact := by
    intro page tree same
    cases found : trees.find? (fun tree => decide (items page = items tree.page)) with
    | none => exact .inl rfl
    | some known =>
        have equal := List.find?_some found
        right
        rw [items_injective (same.symm.trans (of_decide_eq_true equal))]

end Liuqin.DeviceTree
