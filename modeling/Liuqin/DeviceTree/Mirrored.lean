/-
What the identity tool makes of a boot tree.

The pattern of a property line reads every legal name but those with a character
outside its class.  The rest is one computation: the regions are the printed
properties, the classes decide each line, and dtc reads the edited page as the tree
that was meant.
-/

import Liuqin.DeviceTree.Ids

namespace Liuqin.DeviceTree

open Liuqin.Library Liuqin.Library.Lines Liuqin.Library.Checked
open Liuqin.Library.Numerals (isSpace)

/-! ### The pattern of a property line -/

/-- The pattern's class holds the whole name. -/
def Property.readable (property : Property) : Bool := property.name.all propChar

theorem rstrip_split (text : Text) : ∃ blanks, text = rstrip text ++ blanks := by
  refine ⟨(text.reverse.takeWhile isSpace).reverse, ?_⟩
  rw [rstrip, ← List.reverse_append, List.takeWhile_append_dropWhile, List.reverse_reverse]

theorem rstrip_last {char : Char} (solid : isSpace char = false) (text : Text) :
    rstrip (text ++ [char]) = text ++ [char] := by
  have stops : ¬(isSpace char = true) := by rw [solid]; decide
  rw [rstrip, List.reverse_append, List.reverse_singleton, List.singleton_append,
    List.dropWhile_cons, if_neg stops, List.reverse_cons, List.reverse_reverse]

theorem endsWith_last {char : Char} (solid : isSpace char = false) (text : Text) :
    endsWith char (text ++ [char]) = true := by
  rw [endsWith, rstrip_last solid, List.getLast?_concat]
  exact decide_eq_true rfl

theorem endsWith_other {char other : Char} (solid : isSpace other = false) (ne : other ≠ char)
    (text : Text) : endsWith char (text ++ [other]) = false := by
  rw [endsWith, rstrip_last solid, List.getLast?_concat]
  apply decide_eq_false
  intro same
  exact ne (Option.some.inj same)

/-- The item of a property is its name and a tail. -/
theorem Property.item_tail (property : Property) :
    ∃ tail, property.item = property.name ++ tail ∧ propTail tail = true ∧
      tail.head?.any propChar = false := by
  unfold Property.item
  split
  · exact ⟨[';'], rfl, by decide, by decide⟩
  · rename_i value _
    refine ⟨_, rfl, ?_, rfl⟩
    have tail : (" = ".toList ++ (value ++ [';'])).dropWhile isSpace =
        '=' :: ((' ' :: value) ++ [';']) := by
      have blank : isSpace ' ' = true := by decide
      have stops : ¬(isSpace '=' = true) := by decide
      show (' ' :: '=' :: ' ' :: (value ++ [';'])).dropWhile isSpace = _
      rw [List.dropWhile_cons, if_pos blank, List.dropWhile_cons, if_neg stops]
      rfl
    rw [propTail, tail]
    have ends := endsWith_last (show isSpace ';' = false by decide) (' ' :: value)
    rw [Bool.or_eq_true]
    exact .inr ends

theorem takeWhile_all {α : Type} {keep : α → Bool} {front back : List α}
    (all : ∀ one ∈ front, keep one = true) (stops : back.head?.any keep = false) :
    (front ++ back).takeWhile keep = front ∧ (front ++ back).dropWhile keep = back := by
  induction front with
  | nil =>
      cases back with
      | nil => exact ⟨rfl, rfl⟩
      | cons char rest =>
          have stop : ¬(keep char = true) := by
            rw [Bool.not_eq_true]
            exact stops
          rw [List.nil_append, List.takeWhile_cons, if_neg stop, List.dropWhile_cons, if_neg stop]
          exact ⟨rfl, rfl⟩
  | cons char rest ih =>
      have here := all char List.mem_cons_self
      have later := ih (fun other member => all other (List.mem_cons_of_mem _ member))
      rw [List.cons_append, List.takeWhile_cons, if_pos here, List.dropWhile_cons, if_pos here,
        later.1, later.2]
      exact ⟨rfl, rfl⟩

/-- A readable name is read. -/
theorem propName_readable {property : Property} (legal : property.legal = true)
    (readable : property.readable = true) :
    propName (property.line 1) = some property.name := by
  obtain ⟨tail, item, ends, stops⟩ := property.item_tail
  have parts := takeWhile_all (List.all_eq_true.mp readable) stops
  have some : property.name ≠ [] := by
    intro empty
    rw [Property.legal, empty] at legal
    cases legal
  show propName ('\t' :: property.item) = _
  rw [item, propName, parts.1, parts.2, if_pos ⟨some, ends⟩]

/-- Where a legal name leaves the class, a character stands that ends no property. -/
theorem unreadable_split {name : Text} (legal : name.all nameChar = true)
    (unreadable : name.all propChar = false) :
    ∃ front char back, name = front ++ char :: back ∧ (∀ one ∈ front, propChar one = true) ∧
      propChar char = false ∧ nameChar char = true := by
  induction name with
  | nil => cases unreadable
  | cons char rest ih =>
      rw [List.all_cons, Bool.and_eq_true] at legal
      by_cases here : propChar char = true
      · rw [List.all_cons, here, Bool.true_and] at unreadable
        obtain ⟨front, other, back, same, all, stops, member⟩ := ih legal.2 unreadable
        refine ⟨char :: front, other, back, by rw [same]; rfl, ?_, stops, member⟩
        intro one inside
        rcases List.mem_cons.mp inside with rfl | later
        · exact here
        · exact all one later
      · refine ⟨[], char, rest, rfl, ?_, Bool.eq_false_iff.mpr here, legal.1⟩
        intro one inside
        cases inside

theorem propTail_stuck {char : Char} (member : nameChar char = true) (rest : Text) :
    propTail (char :: rest) = false := by
  have notSemicolon : char ≠ ';' := by
    rintro rfl
    revert member
    decide
  have notEquals : char ≠ '=' := by
    rintro rfl
    revert member
    decide
  have solid : ¬(isSpace char = true) := by
    rw [nodeChar_solid (nameChar_node member)]
    decide
  rw [propTail, Bool.or_eq_false_iff]
  constructor
  · apply decide_eq_false
    intro same
    obtain ⟨blanks, split⟩ := rstrip_split (char :: rest)
    rw [same] at split
    exact notSemicolon (List.cons.inj split).1
  · rw [List.dropWhile_cons, if_neg solid]
    split
    · rename_i same
      exact absurd (List.cons.inj same).1 notEquals
    · rfl

theorem propName_unreadable {property : Property} (legal : property.legal = true)
    (unreadable : property.readable = false) : propName (property.line 1) = none := by
  obtain ⟨tail, item, _⟩ := property.item_tail
  rw [Property.legal, Bool.and_eq_true, Bool.and_eq_true] at legal
  obtain ⟨front, char, back, same, all, stops, member⟩ := unreadable_split legal.1.2 unreadable
  have stop : ((char :: back) ++ tail).head?.any propChar = false := stops
  have parts := takeWhile_all all stop
  have stuck : ¬(front ≠ [] ∧ propTail ((char :: back) ++ tail) = true) := by
    intro both
    rw [List.cons_append, propTail_stuck member] at both
    exact absurd both.2 (by decide)
  show propName ('\t' :: property.item) = _
  rw [item, same, List.append_assoc, propName, parts.1, parts.2, if_neg stuck]

/-! ### The region of the root -/

theorem item_semicolon (property : Property) : ∃ front, property.item = front ++ [';'] := by
  unfold Property.item
  split
  · exact ⟨_, rfl⟩
  · rename_i value _
    exact ⟨property.name ++ (" = ".toList ++ value), by simp⟩

theorem childLine_property {property : Property} (legal : property.legal = true) :
    childLine (property.line 1) = false := by
  obtain ⟨char, rest, same, _⟩ := Property.item_head legal
  obtain ⟨front, ends⟩ := item_semicolon property
  have line : property.line 1 = '\t' :: char :: rest := by
    rw [Property.line, same]
    rfl
  rw [line, childLine, Bool.and_eq_false_iff]
  right
  rcases List.eq_nil_or_concat rest with nothing | ⟨body, last, split⟩
  · rw [nothing]
    decide
  · rw [List.concat_eq_append] at split
    rw [same, split, ← List.cons_append] at ends
    have tail := List.singleton_inj.mp (List.append_inj' ends rfl).2
    rw [split, tail]
    exact endsWith_other (by decide) (by decide) body

theorem childLine_opening {name : Text} (legal : legalName name = true) :
    childLine (tabs 1 ++ opening name) = true := by
  rw [legalName, Bool.and_eq_true] at legal
  cases name with
  | nil => exact absurd legal.1 (by decide)
  | cons char rest =>
      have all := legal.2
      rw [List.all_cons, Bool.and_eq_true] at all
      have line : tabs 1 ++ opening (char :: rest) = '\t' :: char :: ((rest ++ [' ']) ++ ['{']) := by
        simp [tabs, opening]
      rw [line, childLine, Bool.and_eq_true]
      exact ⟨decide_eq_true (nodeChar_tab all.1), endsWith_last (by decide) _⟩

theorem closing_property {property : Property} :
    closing.isPrefixOf (property.line 1) = false := rfl

theorem header_root (reserved : List Text) :
    ∀ line ∈ header reserved, (decide (line ≠ rootLine) : Bool) = true := by
  intro line member
  apply decide_eq_true
  rcases List.mem_append.mp member with first | reservations
  · rcases List.mem_cons.mp first with rfl | second
    · decide
    · rw [List.mem_singleton.mp second]
      decide
  · obtain ⟨text, _, rfl⟩ := List.mem_map.mp reservations
    intro same
    cases same

/-- The region of a printed tree: its root properties, perhaps a blank line, and behind it
what is below the root. -/
structure Tree.Regioned (tree : Tree) (region : Region) : Prop where
  front : region.front = header tree.reserved ++ [rootLine]
  lines : region.lines = tree.properties.map (Property.line 1) ∨
    region.lines = tree.properties.map (Property.line 1) ++ [[]]
  back : items region.back = tree.below.items ++ [closing]

theorem rootRegion_page {tree : Tree} {region : Region}
    (found : rootRegion tree.page = .ok region) : tree.Regioned region := by
  have legal := List.all_eq_true.mp tree.propertiesLegal
  have children : ∀ line ∈ tree.properties.map (Property.line 1), (!childLine line) = true := by
    intro line member
    obtain ⟨property, inside, rfl⟩ := List.mem_map.mp member
    rw [childLine_property (legal property inside)]
    rfl
  have whole : tree.page = header tree.reserved ++ (rootLine ::
      (tree.properties.map (Property.line 1) ++ (tree.below.page 1 ++ [closing]))) := by
    simp [Tree.page]
  have split := takeWhile_all (header_root tree.reserved)
    (show ((rootLine :: (tree.properties.map (Property.line 1) ++
      (tree.below.page 1 ++ [closing]))).head?.any fun line => decide (line ≠ rootLine)) = false
      from by simp)
  rw [whole, rootRegion, split.1, split.2] at found
  have below := Nodes.items_page 1 tree.belowLegal
  cases nodes : tree.below with
  | nil =>
      have last : (!childLine closing) = true := by decide
      have all : ∀ line ∈ tree.properties.map (Property.line 1) ++ [closing],
          (!childLine line) = true := by
        intro line member
        rcases List.mem_append.mp member with property | end_
        · exact children line property
        · rw [List.mem_singleton.mp end_]
          exact last
      have none := takeWhile_all all
        (show (([] : Page).head?.any fun line => !childLine line) = false from rfl)
      rw [List.append_nil] at none
      rw [nodes, Nodes.page, List.nil_append] at found
      simp only [none.2] at found
      cases properties : tree.properties with
      | nil =>
          rw [properties] at found
          cases found
      | cons property others =>
          have plain : ∀ line ∈ others.map (Property.line 1),
              (!closing.isPrefixOf line) = true := by
            intro line member
            obtain ⟨other, _, rfl⟩ := List.mem_map.mp member
            rfl
          have stops : ([closing].head?.any fun line => !closing.isPrefixOf line) = false := rfl
          have rest := takeWhile_all plain stops
          rw [properties, List.map_cons, List.cons_append] at found
          simp only [rest.1, rest.2] at found
          cases found
          constructor
          · rfl
          · left
            rw [properties]
            rfl
          · rw [nodes]
            rfl
  | node name properties under rest =>
      have named : legalName name = true := by
        have fine := tree.belowLegal
        rw [nodes, Nodes.legal, Bool.and_eq_true, Bool.and_eq_true, Bool.and_eq_true] at fine
        exact fine.1.1.1
      obtain ⟨more, first⟩ : ∃ more, tree.below.page 1 =
          [] :: (tabs 1 ++ opening name) :: more := by
        rw [nodes]
        exact ⟨_, rfl⟩
      have all : ∀ line ∈ tree.properties.map (Property.line 1) ++ [[]],
          (!childLine line) = true := by
        intro line member
        rcases List.mem_append.mp member with property | blank
        · exact children line property
        · rw [List.mem_singleton.mp blank]
          rfl
      have stops : ((((tabs 1 ++ opening name) :: more) ++ [closing]).head?.any
          fun line => !childLine line) = false := by
        show (!childLine (tabs 1 ++ opening name)) = false
        rw [childLine_opening named]
        rfl
      have parts := takeWhile_all all stops
      have shape : tree.properties.map (Property.line 1) ++ (tree.below.page 1 ++ [closing]) =
          (tree.properties.map (Property.line 1) ++ [[]]) ++
            (((tabs 1 ++ opening name) :: more) ++ [closing]) := by
        rw [first]
        simp
      simp only [shape, parts.1, parts.2] at found
      cases found
      constructor
      · rfl
      · exact .inr rfl
      · have last : items [closing] = [closing] := items_cons 0 closing_item []
        rw [first, items_blank] at below
        show items (((tabs 1 ++ opening name) :: more) ++ [closing]) = _
        rw [items_append, below, last]

/-! ### The properties that are read -/

/-- An entry for every property. -/
def entries (properties : List Property) : Props :=
  properties.map (fun property => (property.name, property.line 1))

theorem get_append_none {props : Props} {name line : Text} (absent : props.get name = none) :
    props.set name line = props ++ [(name, line)] := by
  rw [Props.set, absent]
  rfl

theorem get_entries (properties : List Property) (name : Text) :
    (entries properties).get name =
      (properties.find? (fun property => property.name = name)).map (Property.line 1) := by
  induction properties with
  | nil => rfl
  | cons property rest ih =>
      rw [Props.get, entries, List.map_cons, List.find?_cons, List.find?_cons]
      by_cases same : property.name = name
      · simp [same]
      · have tail : (entries rest).get name =
            (List.find? (fun item => decide (item.1 = name)) (List.map
              (fun property => (property.name, property.line 1)) rest)).map Prod.snd := rfl
        simp only [same, decide_false]
        rw [← tail, ih]

theorem get_entries_none {properties : List Property} {name : Text}
    (absent : name ∉ properties.map Property.name) : (entries properties).get name = none := by
  rw [get_entries, List.find?_eq_none.mpr]
  · rfl
  · intro property member same
    exact absent (List.mem_map.mpr ⟨property, member, of_decide_eq_true same⟩)

/-- One line of the region. -/
def readLine (props : Props) (line : Text) : Props :=
  match propName line with
  | none => props
  | some name => props.set name line

theorem foldl_lines (front : List Property) {properties : List Property}
    (legal : ∀ property ∈ properties, property.legal = true)
    (unique : ((front ++ properties).map Property.name).Nodup) :
    (properties.map (Property.line 1)).foldl readLine (entries (front.filter Property.readable)) =
      entries ((front ++ properties).filter Property.readable) := by
  induction properties generalizing front with
  | nil => rw [List.append_nil, List.map_nil, List.foldl_nil]
  | cons property rest ih =>
      have first := legal property List.mem_cons_self
      have shape : front ++ property :: rest = (front ++ [property]) ++ rest := by simp
      rw [shape] at unique
      have later := ih (front ++ [property]) (fun other member => legal other (List.mem_cons_of_mem _ member)) unique
      have step : readLine (entries (front.filter Property.readable)) (property.line 1) =
          entries ((front ++ [property]).filter Property.readable) := by
        unfold readLine
        rw [List.filter_append, List.filter_singleton]
        cases readable : property.readable with
        | false => rw [propName_unreadable first readable]; simp
        | true =>
            have absent : property.name ∉ (front.filter Property.readable).map Property.name := by
              intro member
              rw [List.map_append, List.map_append, List.append_assoc] at unique
              have apart := (List.nodup_append.mp unique).2.2
              obtain ⟨other, inside, same⟩ := List.mem_map.mp member
              have early := List.mem_map.mpr ⟨other, List.mem_of_mem_filter inside, same⟩
              exact apart _ early property.name (List.mem_append_left _ (List.mem_map.mpr
                ⟨property, List.mem_singleton_self _, rfl⟩)) rfl
            rw [propName_readable first readable]
            show Props.set _ _ _ = _
            rw [get_append_none (get_entries_none absent)]
            simp [entries]
      rw [List.map_cons, List.foldl_cons, step, later, shape]

/-- The readable properties, in their order. -/
theorem parseProps_region {tree : Tree} {region : Region} (found : tree.Regioned region) :
    parseProps region.lines = entries (tree.properties.filter Property.readable) := by
  have legal := List.all_eq_true.mp tree.propertiesLegal
  have whole := foldl_lines [] legal (by rw [List.nil_append]; exact tree.unique)
  show region.lines.foldl readLine [] = _
  rcases found.lines with same | same
  · rw [same]
    exact whole
  · have blank : ∀ props, readLine props [] = props := fun _ => rfl
    rw [same, List.foldl_append, List.foldl_cons, List.foldl_nil, blank]
    exact whole

/-! ### The classes -/

theorem classify_ok {stock props : Props} {kept : Page} {deleted : List Text}
    (passed : classify stock props = .ok (kept, deleted)) :
    kept = (props.filter (fun item => keepProps.contains item.1)).map Prod.snd ∧
    ∀ item ∈ props, item.1 ∈ keepProps ∨ item.1 ∈ mirrorProps ∨ item.1 ∈ deleteProps := by
  induction props generalizing kept deleted with
  | nil =>
      cases passed
      exact ⟨rfl, fun _ member => absurd member List.not_mem_nil⟩
  | cons item rest ih =>
      obtain ⟨name, line⟩ := item
      have finish : ∀ {tail : Page × List Text}, classify stock rest = .ok tail →
          name ∈ keepProps ∨ name ∈ mirrorProps ∨ name ∈ deleteProps →
          tail.1 = (rest.filter (fun item => keepProps.contains item.1)).map Prod.snd ∧
          ∀ item ∈ (name, line) :: rest,
            item.1 ∈ keepProps ∨ item.1 ∈ mirrorProps ∨ item.1 ∈ deleteProps := by
        intro tail later classed
        obtain ⟨same, others⟩ := ih later
        refine ⟨same, ?_⟩
        intro item member
        rcases List.mem_cons.mp member with rfl | inside
        · exact classed
        · exact others item inside
      change (if name ∈ keepProps then _ else _) = _ at passed
      by_cases keep : name ∈ keepProps
      · rw [if_pos keep] at passed
        cases later : classify stock rest with
        | error reason =>
            rw [later] at passed
            cases passed
        | ok tail =>
            rw [later] at passed
            cases passed
            obtain ⟨same, classed⟩ := finish later (.inl keep)
            rw [List.filter_cons, if_pos (List.contains_iff_mem.mpr keep), List.map_cons, same]
            exact ⟨rfl, classed⟩
      · have skip : ¬(keepProps.contains name = true) := by
          rw [List.contains_iff_mem]
          exact keep
        rw [if_neg keep] at passed
        rw [List.filter_cons, if_neg skip]
        by_cases mirror : name ∈ mirrorProps
        · rw [if_pos mirror] at passed
          cases later : classify stock rest with
          | error reason =>
              rw [later] at passed
              split at passed
              · cases passed
              · cases passed
          | ok tail =>
              obtain ⟨same, classed⟩ := finish later (.inr (.inl mirror))
              rw [later] at passed
              split at passed
              · cases passed
                exact ⟨same, classed⟩
              · cases passed
                exact ⟨same, classed⟩
        · rw [if_neg mirror] at passed
          by_cases delete : name ∈ deleteProps
          · rw [if_pos delete] at passed
            cases later : classify stock rest with
            | error reason =>
                rw [later] at passed
                cases passed
            | ok tail =>
                rw [later] at passed
                cases passed
                exact finish later (.inr (.inr delete))
          · rw [if_neg delete] at passed
            cases passed

/-! ### The tree that is meant -/

/-- The stock properties of the mirrored names, in the order of the names. -/
def mirroredOf (stock : Tree) : List Property :=
  mirrorProps.filterMap (fun name =>
    stock.properties.find? (fun property => property.name = name))

def keptOf (boot : Tree) : List Property :=
  boot.properties.filter (fun property => keepProps.contains property.name)

theorem classes_readable : (mirrorProps ++ keepProps ++ deleteProps).all
    (fun name => name.all propChar) = true := by
  decide

theorem find_unique {properties : List Property} (unique : (properties.map Property.name).Nodup)
    {property : Property} (member : property ∈ properties) :
    properties.find? (fun other => other.name = property.name) = some property := by
  induction properties with
  | nil => cases member
  | cons first rest ih =>
      rw [List.map_cons, List.nodup_cons] at unique
      rw [List.find?_cons]
      rcases List.mem_cons.mp member with rfl | inside
      · simp
      · have other : first.name ≠ property.name := by
          intro same
          apply unique.1
          rw [same]
          exact List.mem_map.mpr ⟨property, inside, rfl⟩
        simp only [other, decide_false]
        exact ih unique.2 inside

theorem mem_mirroredOf {stock : Tree} {property : Property} :
    property ∈ mirroredOf stock ↔ property ∈ stock.properties ∧ property.name ∈ mirrorProps := by
  rw [mirroredOf, List.mem_filterMap]
  constructor
  · rintro ⟨name, member, found⟩
    have same := List.find?_some found
    rw [of_decide_eq_true same]
    exact ⟨List.mem_of_find?_eq_some found, member⟩
  · rintro ⟨inside, member⟩
    exact ⟨property.name, member, find_unique stock.unique inside⟩

theorem mem_keptOf {boot : Tree} {property : Property} :
    property ∈ keptOf boot ↔ property ∈ boot.properties ∧ property.name ∈ keepProps := by
  rw [keptOf, List.mem_filter, List.contains_iff_mem]

theorem mirroredOf_names (stock : Tree) (names : List Text) :
    ((names.filterMap (fun name => stock.properties.find? (fun property =>
      property.name = name))).map Property.name).Sublist names := by
  induction names with
  | nil => exact List.Sublist.slnil
  | cons name rest ih =>
      rw [List.filterMap_cons]
      split
      · exact ih.cons name
      · rename_i property found
        have same := List.find?_some found
        rw [List.map_cons, of_decide_eq_true same]
        exact ih.cons_cons name

theorem edited_unique (boot stock : Tree) :
    ((mirroredOf stock ++ keptOf boot).map Property.name).Nodup := by
  have names : mirrorProps.Nodup := by decide
  have apart : ∀ name ∈ mirrorProps, name ∉ keepProps := by decide
  rw [List.map_append, List.nodup_append]
  refine ⟨names.sublist (mirroredOf_names stock mirrorProps), ?_, ?_⟩
  · exact boot.unique.sublist (List.Sublist.map _ List.filter_sublist)
  · intro one first two second same
    obtain ⟨mirrored, inside, rfl⟩ := List.mem_map.mp first
    obtain ⟨kept, member, rfl⟩ := List.mem_map.mp second
    have keep := (mem_keptOf.mp member).2
    rw [← same] at keep
    exact apart _ (mem_mirroredOf.mp inside).2 keep

/-- The boot tree with the stock identity and its own structure at the root. -/
def editedTree (boot stock : Tree) : Tree where
  reserved := boot.reserved
  properties := mirroredOf stock ++ keptOf boot
  below := boot.below
  reservedLegal := boot.reservedLegal
  propertiesLegal := by
    apply List.all_eq_true.mpr
    intro property member
    rcases List.mem_append.mp member with mirrored | kept
    · exact List.all_eq_true.mp stock.propertiesLegal property (mem_mirroredOf.mp mirrored).1
    · exact List.all_eq_true.mp boot.propertiesLegal property (mem_keptOf.mp kept).1
  belowLegal := boot.belowLegal
  unique := edited_unique boot stock

/-! ### The lines of the edit -/

theorem readable_of_class {name : Text}
    (member : name ∈ mirrorProps ∨ name ∈ keepProps ∨ name ∈ deleteProps) :
    name.all propChar = true := by
  apply List.all_eq_true.mp classes_readable
  rcases member with mirror | keep | delete
  · exact List.mem_append_left _ (List.mem_append_left _ mirror)
  · exact List.mem_append_left _ (List.mem_append_right _ keep)
  · exact List.mem_append_right _ delete

theorem mirrored_lines (stock : Tree) :
    mirrorProps.filterMap (entries (stock.properties.filter Property.readable)).get =
      (mirroredOf stock).map (Property.line 1) := by
  rw [mirroredOf, List.map_filterMap]
  apply List.filterMap_congr
  intro name member
  have readable := readable_of_class (.inl member)
  rw [get_entries, List.find?_filter]
  congr 2
  funext property
  by_cases same : property.name = name
  · simp [same, Property.readable, readable]
  · simp [same]

theorem kept_lines (boot : Tree) :
    ((entries (boot.properties.filter Property.readable)).filter
      (fun item => keepProps.contains item.1)).map Prod.snd =
      (keptOf boot).map (Property.line 1) := by
  rw [entries, List.filter_map, List.map_map, List.filter_filter, keptOf]
  have same : boot.properties.filter (fun property =>
      ((fun item : Text × Text => keepProps.contains item.1) ∘
        fun property : Property => (property.name, property.line 1)) property &&
          property.readable) =
      boot.properties.filter (fun property => keepProps.contains property.name) := by
    apply List.filter_congr
    intro property _
    show (keepProps.contains property.name && property.readable) = _
    cases keep : keepProps.contains property.name with
    | false => rfl
    | true => exact readable_of_class (.inr (.inl (List.contains_iff_mem.mp keep)))
  rw [same]
  rfl

theorem joined_items (page : Page) : items (joined page) = items page := by
  cases page with
  | nil => rfl
  | cons line rest => rfl

theorem edited_items (stock : Tree) {boot : Tree} {region : Region}
    (found : boot.Regioned region) :
    items (region.front ++ joined ((mirroredOf stock).map (Property.line 1) ++
      (keptOf boot).map (Property.line 1)) ++ region.back) =
      items (editedTree boot stock).page := by
  have root : items [rootLine] = [rootLine] := items_cons 0 rootLine_item []
  have properties := items_properties 1 (editedTree boot stock).propertiesLegal
  rw [Tree.items_page, items_append, items_append, joined_items, ← List.map_append, found.front,
    found.back, items_append, header_items, root]
  show _ ++ items ((editedTree boot stock).properties.map (Property.line 1)) ++ _ = _
  rw [properties]
  simp [editedTree]

/-! ### The run -/

/-- A run that ends well writes the tree that is meant, and has classed every
property that it read. -/
theorem mirrorIds_ok {dtc : Dtc} {boot stock output : Tree}
    (run : mirrorIds dtc boot stock = .ok output) :
    output = editedTree boot stock ∧ ∀ property ∈ boot.properties, property.readable = true →
      property.name ∈ keepProps ∨ property.name ∈ mirrorProps ∨ property.name ∈ deleteProps := by
  unfold mirrorIds at run
  obtain ⟨props, read, run⟩ := (bind_eq_ok _ _ _).mp run
  obtain ⟨source, region, run⟩ := (bind_eq_ok _ _ _).mp run
  obtain ⟨⟨kept, deleted⟩, classed, run⟩ := (bind_eq_ok _ _ _).mp run
  have stockLines : props = entries (stock.properties.filter Property.readable) := by
    unfold stockProps at read
    obtain ⟨found, located, read⟩ := (bind_eq_ok _ _ _).mp read
    obtain ⟨_, _, read⟩ := (bind_eq_ok _ _ _).mp read
    obtain ⟨_, _, read⟩ := (bind_eq_ok _ _ _).mp read
    rw [← (pure_eq_ok _ _).mp read, parseProps_region (rootRegion_page located)]
  have placed := rootRegion_page region
  rw [parseProps_region placed] at classed
  obtain ⟨keptLines, classes⟩ := classify_ok classed
  rw [kept_lines] at keptLines
  rw [stockLines, mirrored_lines, keptLines] at run
  constructor
  · have meant := edited_items stock placed
    dsimp only at run
    rcases dtc.exact _ _ meant with refused | compiled
    · rw [refused] at run
      cases run
    · rw [compiled] at run
      obtain ⟨_, _, run⟩ := (bind_eq_ok _ _ _).mp run
      obtain ⟨_, _, run⟩ := (bind_eq_ok _ _ _).mp run
      obtain ⟨_, _, run⟩ := (bind_eq_ok _ _ _).mp run
      exact ((pure_eq_ok _ _).mp run).symm
  · intro property member readable
    have entry : (property.name, property.line 1) ∈
        entries (boot.properties.filter Property.readable) :=
      List.mem_map.mpr ⟨property, List.mem_filter.mpr ⟨member, readable⟩, rfl⟩
    exact classes _ entry

/-- What the tool declares: the root carries the stock identity and the boot tree's own
structure, below it nothing changes, and what is gone was meant to go. -/
structure Mirrored (boot stock output : Tree) : Prop where
  root : ∀ property, property ∈ output.properties ↔
    (property ∈ stock.properties ∧ property.name ∈ mirrorProps) ∨
      (property ∈ boot.properties ∧ property.name ∈ keepProps)
  below : output.below = boot.below
  reserved : output.reserved = boot.reserved
  declared : ∀ property ∈ boot.properties, property.name ∉ mirrorProps →
    property.name ∉ keepProps → property.name ∈ deleteProps

/-- It does so where every root property of the boot tree has a name that the pattern
reads, and only there. -/
theorem mirrored_iff {dtc : Dtc} {boot stock output : Tree}
    (run : mirrorIds dtc boot stock = .ok output) :
    Mirrored boot stock output ↔ ∀ property ∈ boot.properties, property.readable = true := by
  obtain ⟨rfl, classed⟩ := mirrorIds_ok run
  constructor
  · intro mirrored property member
    by_cases mirror : property.name ∈ mirrorProps
    · exact readable_of_class (.inl mirror)
    · by_cases keep : property.name ∈ keepProps
      · exact readable_of_class (.inr (.inl keep))
      · exact readable_of_class (.inr (.inr (mirrored.declared property member mirror keep)))
  · intro readable
    constructor
    · intro property
      show property ∈ mirroredOf stock ++ keptOf boot ↔ _
      rw [List.mem_append, mem_mirroredOf, mem_keptOf]
    · rfl
    · rfl
    · intro property member notMirror notKeep
      rcases classed property member (readable property member) with keep | mirror | delete
      · exact absurd keep notKeep
      · exact absurd mirror notMirror
      · exact delete

end Liuqin.DeviceTree
