/-
What the symbols tool reads of an input.

A printed page has few kinds of lines, and only the line that opens a node can be
taken for its marker.  So the block that is extracted is the body of the first node
of that name, and in a flat node without braces every property line is read.
-/

import Liuqin.DeviceTree.Symbols
import Liuqin.DeviceTree.Mirrored

namespace Liuqin.DeviceTree

open Liuqin.Library Liuqin.Library.Lines Liuqin.Library.Checked
open Liuqin.Library.Numerals (isSpace)

/-! ### Kinds of lines -/

/-- What dtc prints on a line. -/
inductive Printed : Text → Prop where
  | blank : Printed []
  | item (front : Text) : Printed (front ++ [';'])
  | root : Printed rootLine
  | node (depth : Nat) (name : Text) (legal : legalName name = true) :
      Printed (tabs depth ++ opening name)

theorem printed_closing (depth : Nat) : Printed (tabs depth ++ closing) := by
  have split : tabs depth ++ closing = (tabs depth ++ ['}']) ++ [';'] := by
    rw [List.append_assoc]
    rfl
  rw [split]
  exact .item _

theorem printed_property (depth : Nat) (property : Property) : Printed (property.line depth) := by
  obtain ⟨front, ends⟩ := item_semicolon property
  rw [Property.line, ends, ← List.append_assoc]
  exact .item _

theorem printed_nodes {nodes : Nodes} (legal : nodes.legal = true) (depth : Nat) :
    ∀ line ∈ nodes.page depth, Printed line := by
  induction nodes generalizing depth with
  | nil =>
      intro line member
      cases member
  | node name properties below rest ihBelow ihRest =>
      rw [Nodes.legal, Bool.and_eq_true, Bool.and_eq_true, Bool.and_eq_true] at legal
      obtain ⟨⟨⟨named, _⟩, under⟩, after⟩ := legal
      intro line member
      rw [Nodes.page] at member
      rcases List.mem_append.mp member with early | later
      · rcases List.mem_append.mp early with early | last
        · rcases List.mem_append.mp early with early | inside
          · rcases List.mem_append.mp early with first | own
            · rcases List.mem_cons.mp first with rfl | second
              · exact .blank
              · rw [List.mem_singleton.mp second]
                exact .node depth name named
            · obtain ⟨property, _, rfl⟩ := List.mem_map.mp own
              exact printed_property _ property
          · exact ihBelow under _ line inside
        · rw [List.mem_singleton.mp last]
          exact printed_closing depth
      · exact ihRest after _ line later

theorem printed_version : Printed "/dts-v1/;".toList := by
  have split : "/dts-v1/;".toList = "/dts-v1/".toList ++ [';'] := by decide
  have whole := Printed.item "/dts-v1/".toList
  rwa [← split] at whole

theorem printed_reservation (text : Text) : Printed (reservation text) := by
  have split : reservation text = ("/memreserve/\t".toList ++ text) ++ [';'] :=
    (List.append_assoc _ _ _).symm
  rw [split]
  exact .item _

theorem printed_header (reserved : List Text) : ∀ line ∈ header reserved, Printed line := by
  intro line member
  rcases List.mem_append.mp member with first | reservations
  · rcases List.mem_cons.mp first with rfl | second
    · exact printed_version
    · rw [List.mem_singleton.mp second]
      exact .blank
  · obtain ⟨text, _, rfl⟩ := List.mem_map.mp reservations
    exact printed_reservation text

theorem Tree.printed (tree : Tree) : ∀ line ∈ tree.page, Printed line := by
  intro line member
  rw [Tree.page] at member
  rcases List.mem_append.mp member with early | last
  · rcases List.mem_append.mp early with early | below
    · rcases List.mem_append.mp early with early | own
      · rcases List.mem_append.mp early with head | root
        · exact printed_header _ line head
        · rw [List.mem_singleton.mp root]
          exact .root
      · obtain ⟨property, _, rfl⟩ := List.mem_map.mp own
        exact printed_property 1 property
    · exact printed_nodes tree.belowLegal 1 line below
  · rw [List.mem_singleton.mp last]
    exact printed_closing 0

/-! ### Markers -/

theorem dropWhile_tabs_space (depth : Nat) {char : Char} (solid : isSpace char = false)
    (rest : Text) : (tabs depth ++ char :: rest).dropWhile isSpace = char :: rest := by
  induction depth with
  | zero =>
      have stops : ¬(isSpace char = true) := by rw [solid]; decide
      show (char :: rest).dropWhile isSpace = _
      rw [List.dropWhile_cons, if_neg stops]
  | succ depth ih =>
      have more : tabs (depth + 1) = '\t' :: tabs depth := rfl
      have tab : isSpace '\t' = true := by decide
      rw [more, List.cons_append, List.dropWhile_cons, if_pos tab, ih]

theorem legalName_cons {name : Text} (legal : legalName name = true) :
    ∃ char rest, name = char :: rest ∧ nodeChar char = true := by
  rw [legalName, Bool.and_eq_true] at legal
  cases name with
  | nil => exact absurd legal.1 (by decide)
  | cons char rest =>
      have all := legal.2
      rw [List.all_cons, Bool.and_eq_true] at all
      exact ⟨char, rest, rfl, all.1⟩

theorem legalName_chars {name : Text} (legal : legalName name = true) :
    ∀ char ∈ name, nodeChar char = true := by
  rw [legalName, Bool.and_eq_true] at legal
  exact List.all_eq_true.mp legal.2

/-- The blanks before a node are skipped. -/
theorem dropWhile_opening (depth : Nat) {name : Text} (legal : legalName name = true) :
    (tabs depth ++ opening name).dropWhile isSpace = opening name := by
  obtain ⟨char, rest, rfl, member⟩ := legalName_cons legal
  exact dropWhile_tabs_space depth (nodeChar_solid member) (rest ++ " \x7b".toList)

/-- A line that ends in a semicolon has no marker at its end. -/
theorem markerLine_item (name front : Text) : markerLine name (front ++ [';']) = false := by
  cases found : markerLine name (front ++ [';']) with
  | false => rfl
  | true =>
      rw [markerLine, Bool.and_eq_true] at found
      have ends := found.2
      split at ends
      · rename_i rest same
        have suffix : ('{' :: rest) <:+ front ++ [';'] := by
          rw [← same]
          exact (List.dropWhile_suffix _).trans ((List.drop_suffix _ _).trans
            (List.dropWhile_suffix _))
        have last : ('{' :: rest).getLast? = some ';' := by
          obtain ⟨lead, whole⟩ := suffix
          have both := congrArg List.getLast? whole
          rw [List.getLast?_append, List.getLast?_concat] at both
          cases tail : ('{' :: rest).getLast? with
          | none => exact absurd (List.getLast?_eq_none_iff.mp tail) (List.cons_ne_nil _ _)
          | some char =>
              rw [tail] at both
              exact both
        have member : ';' ∈ '{' :: rest := List.mem_of_getLast? last
        rcases List.mem_cons.mp member with brace | blank
        · exact absurd brace (by decide)
        · exact absurd (List.all_eq_true.mp ends ';' blank) (by decide)
      · cases ends

/-- Only the line that opens a node of the name is a marker. -/
theorem markerLine_opening {name other : Text} (depth : Nat) (legal : legalName name = true)
    (fine : legalName other = true) :
    markerLine name (tabs depth ++ opening other) = true ↔ other = name := by
  rw [markerLine, dropWhile_opening depth fine]
  constructor
  · intro found
    rw [Bool.and_eq_true] at found
    obtain ⟨tail, split⟩ := List.isPrefixOf_iff_prefix.mp found.1
    have ends := found.2
    rw [← split, List.drop_left] at ends
    -- the name stops inside the other one or with it, or goes on into the blank
    rcases List.append_eq_append_iff.mp split with ⟨more, within, after⟩ | ⟨more, same, rest⟩
    · cases more with
      | nil => rw [within, List.append_nil]
      | cons char more =>
          have member : nodeChar char = true := by
            apply legalName_chars fine
            rw [within]
            exact List.mem_append_right _ List.mem_cons_self
          have solid : ¬(isSpace char = true) := by
            rw [nodeChar_solid member]
            decide
          rw [after, List.cons_append, List.dropWhile_cons, if_neg solid] at ends
          split at ends
          · rename_i brace
            rw [(List.cons.inj brace).1] at member
            exact absurd member (by decide)
          · cases ends
    · cases more with
      | nil => rw [same, List.append_nil]
      | cons char more =>
          have blank : ' ' = char := (List.cons.inj rest).1
          have member : nodeChar char = true := by
            apply legalName_chars legal
            rw [same]
            exact List.mem_append_right _ List.mem_cons_self
          rw [← blank] at member
          exact absurd member (by decide)
  · rintro rfl
    have front : other.isPrefixOf (opening other) = true :=
      List.isPrefixOf_iff_prefix.mpr ⟨_, rfl⟩
    rw [front, opening, List.drop_left]
    decide

theorem markerLine_blank {name : Text} (legal : legalName name = true) :
    markerLine name [] = false := by
  obtain ⟨char, rest, rfl, _⟩ := legalName_cons legal
  rfl

theorem markerLine_root {name : Text} (legal : legalName name = true) :
    markerLine name rootLine = false := by
  obtain ⟨char, rest, rfl, member⟩ := legalName_cons legal
  have other : char ≠ '/' := by
    rintro rfl
    revert member
    decide
  have differs : (char :: rest).isPrefixOf (rootLine.dropWhile isSpace) = false := by
    have body : rootLine.dropWhile isSpace = '/' :: " \x7b".toList := by decide
    rw [body, List.isPrefixOf_cons_cons]
    simp [other]
  rw [markerLine, differs]
  rfl

/-- A marker on a printed page opens a node of the name. -/
theorem Printed.marker {name line : Text} (printed : Printed line)
    (legal : legalName name = true) (found : markerLine name line = true) :
    ∃ depth, line = tabs depth ++ opening name := by
  cases printed with
  | blank =>
      rw [markerLine_blank legal] at found
      cases found
  | item front =>
      rw [markerLine_item] at found
      cases found
  | root =>
      rw [markerLine_root legal] at found
      cases found
  | node depth other fine =>
      rw [(markerLine_opening depth legal fine).mp found]
      exact ⟨depth, rfl⟩

/-! ### The first node of a name -/

/-- The first node of the name in the order of the page: its properties and what is
below it. -/
def Nodes.find (name : Text) : Nodes → Option (List Property × Nodes)
  | .nil => none
  | .node other properties below rest =>
      if other = name then some (properties, below)
      else
        match below.find name with
        | some found => some found
        | none => rest.find name

/-- The node of the name on this level. -/
def Nodes.child (name : Text) : Nodes → Option (List Property × Nodes)
  | .nil => none
  | .node other properties below rest =>
      if other = name then some (properties, below) else rest.child name

/-- The lines of a node from its opening to its end. -/
def block (depth : Nat) (name : Text) (properties : List Property) (below : Nodes) : Page :=
  (tabs depth ++ opening name) :: (properties.map (Property.line (depth + 1)) ++
    below.page (depth + 1) ++ [tabs depth ++ closing])

theorem Nodes.page_node (depth : Nat) (name : Text) (properties : List Property)
    (below rest : Nodes) : (Nodes.node name properties below rest).page depth =
      [] :: (block depth name properties below ++ rest.page depth) := by
  simp [Nodes.page, block]

theorem markerLine_property (name : Text) (depth : Nat) (property : Property) :
    markerLine name (property.line depth) = false := by
  obtain ⟨front, ends⟩ := item_semicolon property
  rw [Property.line, ends, ← List.append_assoc]
  exact markerLine_item name _

theorem markerLine_closing (name : Text) (depth : Nat) :
    markerLine name (tabs depth ++ closing) = false := by
  have split : tabs depth ++ closing = (tabs depth ++ ['}']) ++ [';'] := by
    rw [List.append_assoc]
    rfl
  rw [split]
  exact markerLine_item name _

/-- A node of another name has a marker only below it. -/
theorem block_markers {name other : Text} (named : legalName name = true)
    (fine : legalName other = true) (differs : other ≠ name) {below : Nodes} {depth : Nat}
    (lower : ∀ line ∈ below.page (depth + 1), markerLine name line = false)
    (properties : List Property) :
    ∀ line ∈ block depth other properties below, markerLine name line = false := by
  intro line member
  rcases List.mem_cons.mp member with rfl | member
  · rw [Bool.eq_false_iff]
    intro found
    exact differs ((markerLine_opening depth named fine).mp found)
  · rcases List.mem_append.mp member with early | last
    · rcases List.mem_append.mp early with own | inside
      · obtain ⟨property, _, rfl⟩ := List.mem_map.mp own
        exact markerLine_property name _ property
      · exact lower line inside
    · rw [List.mem_singleton.mp last]
      exact markerLine_closing name depth

theorem page_missing {name : Text} (named : legalName name = true) {nodes : Nodes}
    (legal : nodes.legal = true) (missing : nodes.find name = none) (depth : Nat) :
    ∀ line ∈ nodes.page depth, markerLine name line = false := by
  induction nodes generalizing depth with
  | nil =>
      intro line member
      cases member
  | node other properties below rest ihBelow ihRest =>
      rw [Nodes.legal, Bool.and_eq_true, Bool.and_eq_true, Bool.and_eq_true] at legal
      obtain ⟨⟨⟨fine, _⟩, under⟩, after⟩ := legal
      rw [Nodes.find] at missing
      split at missing
      · cases missing
      · rename_i differs
        split at missing
        · cases missing
        · rename_i inside
          intro line member
          rw [Nodes.page_node] at member
          rcases List.mem_cons.mp member with rfl | member
          · exact markerLine_blank named
          · rcases List.mem_append.mp member with own | later
            · exact block_markers named fine differs (ihBelow under inside _) properties line own
            · exact ihRest after missing _ line later

/-- Where a page has the first node of a name. -/
theorem page_find {name : Text} (named : legalName name = true) {nodes : Nodes}
    (legal : nodes.legal = true) {found : List Property × Nodes}
    (first : nodes.find name = some found) (depth : Nat) :
    ∃ level front back, nodes.page depth = front ++ (block level name found.1 found.2 ++ back) ∧
      ∀ line ∈ front, markerLine name line = false := by
  induction nodes generalizing depth with
  | nil => cases first
  | node other properties below rest ihBelow ihRest =>
      rw [Nodes.legal, Bool.and_eq_true, Bool.and_eq_true, Bool.and_eq_true] at legal
      obtain ⟨⟨⟨fine, _⟩, under⟩, after⟩ := legal
      have blank : ∀ line ∈ ([[]] : Page), markerLine name line = false := by
        intro line member
        rw [List.mem_singleton.mp member]
        exact markerLine_blank named
      rw [Nodes.page_node]
      rw [Nodes.find] at first
      split at first
      · rename_i same
        cases first
        rw [same]
        exact ⟨depth, [[]], rest.page depth, rfl, blank⟩
      · rename_i differs
        split at first
        · rename_i inner inside
          cases first
          obtain ⟨level, front, back, split, plain⟩ := ihBelow under inside (depth + 1)
          refine ⟨level, [] :: (tabs depth ++ opening other) ::
            (properties.map (Property.line (depth + 1)) ++ front),
            back ++ ([tabs depth ++ closing] ++ rest.page depth), ?_, ?_⟩
          · rw [block, split]
            simp
          · intro line member
            rcases List.mem_cons.mp member with rfl | member
            · exact markerLine_blank named
            · rcases List.mem_cons.mp member with rfl | member
              · rw [Bool.eq_false_iff]
                intro marker
                exact differs ((markerLine_opening depth named fine).mp marker)
              · rcases List.mem_append.mp member with own | lower
                · obtain ⟨property, _, rfl⟩ := List.mem_map.mp own
                  exact markerLine_property name _ property
                · exact plain line lower
        · rename_i inside
          obtain ⟨level, front, back, split, plain⟩ := ihRest after first depth
          refine ⟨level, [] :: (block depth other properties below ++ front), back, ?_, ?_⟩
          · rw [split]
            simp
          · intro line member
            rcases List.mem_cons.mp member with rfl | member
            · exact markerLine_blank named
            · rcases List.mem_append.mp member with own | later
              · exact block_markers named fine differs (page_missing named under inside _)
                  properties line own
              · exact plain line later

/-! ### The block that is extracted -/

def braceless (text : Text) : Bool := text.all (fun char => char ≠ '{' && char ≠ '}')

theorem scan_braceless {front : Text} (plain : braceless front = true) (back : Text) :
    scan 1 (front ++ '}' :: back) = front ++ ['}'] := by
  induction front with
  | nil =>
      have stop : scan 0 back = [] := by rw [scan]
      have step : scan 1 ('}' :: back) = '}' :: scan 0 back := rfl
      rw [List.nil_append, step, stop]
      rfl
  | cons char rest ih =>
      rw [braceless, List.all_cons, Bool.and_eq_true, Bool.and_eq_true, decide_eq_true_eq,
        decide_eq_true_eq] at plain
      rw [List.cons_append, scan, if_neg plain.1.1, if_neg plain.1.2, ih plain.2]
      rfl

theorem braceless_append (one two : Text) :
    braceless (one ++ two) = (braceless one && braceless two) := List.all_append

theorem braceless_tabs (depth : Nat) : braceless (tabs depth) = true := by
  apply List.all_eq_true.mpr
  intro char member
  rw [List.eq_of_mem_replicate member]
  decide

/-- A label and its value, as the tool can read them. -/
def Property.label (property : Property) : Bool :=
  property.name.all symbolChar && property.value.any braceless

theorem symbolChar_brace {char : Char} (member : symbolChar char = true) :
    (char ≠ '{' && char ≠ '}') = true := by
  rw [Bool.and_eq_true, decide_eq_true_eq, decide_eq_true_eq]
  constructor
  · rintro rfl
    revert member
    decide
  · rintro rfl
    revert member
    decide

theorem label_braceless {property : Property} (label : property.label = true) (depth : Nat) :
    braceless (property.line depth) = true := by
  rw [Property.label, Bool.and_eq_true] at label
  have name : braceless property.name = true := by
    apply List.all_eq_true.mpr
    intro char member
    exact symbolChar_brace (List.all_eq_true.mp label.1 char member)
  rw [Property.line, braceless_append, braceless_tabs, Bool.true_and, Property.item]
  split
  · rename_i none
    rw [none] at label
    exact absurd label.2 (by decide)
  · rename_i value some
    rw [some] at label
    have plain : braceless value = true := label.2
    have equals : braceless " = ".toList = true := by decide
    have semicolon : braceless [';'] = true := by decide
    rw [braceless_append, braceless_append, braceless_append, name, plain, equals, semicolon]
    rfl

theorem terminated_braceless {lines : Page} (plain : ∀ line ∈ lines, braceless line = true) :
    braceless (terminated lines) = true := by
  induction lines with
  | nil => rfl
  | cons line rest ih =>
      have later := ih (fun other member => plain other (List.mem_cons_of_mem _ member))
      have here := plain line List.mem_cons_self
      have newline : braceless ('\n' :: terminated rest) = true := by
        rw [braceless, List.all_cons]
        exact later
      rw [terminated_cons, braceless_append, here, newline]
      rfl

theorem header_markers {name : Text} (named : legalName name = true) (reserved : List Text) :
    ∀ line ∈ header reserved, markerLine name line = false := by
  intro line member
  rcases List.mem_append.mp member with first | reservations
  · rcases List.mem_cons.mp first with version | second
    · have split : "/dts-v1/;".toList = "/dts-v1/".toList ++ [';'] := by decide
      rw [version, split]
      exact markerLine_item name _
    · rw [List.mem_singleton.mp second]
      exact markerLine_blank named
  · obtain ⟨text, _, rfl⟩ := List.mem_map.mp reservations
    have split : reservation text = ("/memreserve/\t".toList ++ text) ++ [';'] :=
      (List.append_assoc _ _ _).symm
    rw [split]
    exact markerLine_item name _

/-- The body of the first node of the name, when it is flat and holds labels. -/
theorem extractBlock_tree {tree : Tree} {name : Text} (named : legalName name = true)
    {properties : List Property} (first : tree.below.find name = some (properties, .nil))
    (labels : properties.all Property.label = true) :
    ∃ level, extractBlock tree.page name =
      some ('\n' :: (terminated (properties.map (Property.line (level + 1))) ++ tabs level)) := by
  obtain ⟨level, front, back, split, plain⟩ := page_find named tree.belowLegal first 1
  have before : ∀ line ∈ header tree.reserved ++ [rootLine] ++
      tree.properties.map (Property.line 1) ++ front, (!markerLine name line) = true := by
    intro line member
    rw [Bool.not_eq_true']
    rcases List.mem_append.mp member with early | later
    · rcases List.mem_append.mp early with early | own
      · rcases List.mem_append.mp early with head | root
        · exact header_markers named _ line head
        · rw [List.mem_singleton.mp root]
          exact markerLine_root named
      · obtain ⟨property, _, rfl⟩ := List.mem_map.mp own
        exact markerLine_property name _ property
    · exact plain line later
  have marker := (markerLine_opening level named named).mpr rfl
  have stops : ((block level name properties .nil ++ (back ++ [closing])).head?.any
      fun line => !markerLine name line) = false := by
    show (!markerLine name (tabs level ++ opening name)) = false
    rw [marker]
    rfl
  have page : tree.page = (header tree.reserved ++ [rootLine] ++
      tree.properties.map (Property.line 1) ++ front) ++
        (block level name properties .nil ++ (back ++ [closing])) := by
    rw [Tree.page, split]
    simp
  have parts := takeWhile_all before stops
  have body : terminated (properties.map (Property.line (level + 1)) ++
      Nodes.nil.page (level + 1) ++ [tabs level ++ closing] ++ (back ++ [closing])) =
      (terminated (properties.map (Property.line (level + 1))) ++ tabs level) ++
        '}' :: (';' :: '\n' :: terminated (back ++ [closing])) := by
    rw [terminated_append, terminated_append, Nodes.page, List.append_nil]
    have last : terminated [tabs level ++ closing] = tabs level ++ '}' :: [';', '\n'] := by
      rw [terminated_cons, List.append_assoc]
      rfl
    rw [last]
    simp
  have plainLines : ∀ line ∈ properties.map (Property.line (level + 1)),
      braceless line = true := by
    intro line member
    obtain ⟨property, inside, rfl⟩ := List.mem_map.mp member
    exact label_braceless (List.all_eq_true.mp labels property inside) _
  have plainBody : braceless ('\n' :: (terminated (properties.map (Property.line (level + 1))) ++
      tabs level)) = true := by
    have text := terminated_braceless plainLines
    have whole : braceless (terminated (properties.map (Property.line (level + 1))) ++
        tabs level) = true := by
      rw [braceless_append, text, braceless_tabs]
      rfl
    rw [braceless, List.all_cons]
    exact whole
  have scanned := scan_braceless plainBody (';' :: '\n' :: terminated (back ++ [closing]))
  refine ⟨level, ?_⟩
  rw [extractBlock, page, parts.2]
  show some (scan 1 ('\n' :: terminated (properties.map (Property.line (level + 1)) ++
    Nodes.nil.page (level + 1) ++ [tabs level ++ closing] ++ (back ++ [closing])))).dropLast = _
  rw [body, ← List.cons_append, scanned, List.dropLast_concat]

/-! ### The properties of the block -/

theorem mem_set {props : Props} {name line other : Text} :
    other ∈ (props.set name line).map Prod.fst ↔ other ∈ props.map Prod.fst ∨ other = name := by
  rw [Props.set]
  split
  · rename_i there
    have same : (props.map (fun item => if item.1 = name then (name, line) else item)).map
        Prod.fst = props.map Prod.fst := by
      rw [List.map_map]
      apply List.map_congr_left
      intro item _
      show (if item.1 = name then (name, line) else item).1 = item.1
      by_cases equal : item.1 = name
      · rw [if_pos equal, equal]
      · rw [if_neg equal]
    rw [same]
    constructor
    · exact .inl
    · rintro (member | rfl)
      · exact member
      · rw [Props.get, Option.isSome_map, List.find?_isSome] at there
        obtain ⟨item, member, equal⟩ := there
        exact List.mem_map.mpr ⟨item, member, of_decide_eq_true equal⟩
  · rw [List.map_append, List.mem_append, List.map_singleton, List.mem_singleton]

/-- One line of the block. -/
def readSymbol (props : Props) (line : Text) : Props :=
  match blockProperty line with
  | none => props
  | some (name, value) => props.set name value

theorem mem_foldl {lines : Page} {props : Props} {name : Text} :
    name ∈ (lines.foldl readSymbol props).map Prod.fst ↔
      name ∈ props.map Prod.fst ∨ ∃ line ∈ lines, ∃ value, blockProperty line = some (name, value) := by
  induction lines generalizing props with
  | nil => simp
  | cons line rest ih =>
      rw [List.foldl_cons, ih]
      cases found : blockProperty line with
      | none =>
          have same : readSymbol props line = props := by rw [readSymbol, found]
          simp [same, found]
      | some pair =>
          obtain ⟨own, value⟩ := pair
          have same : readSymbol props line = props.set own value := by rw [readSymbol, found]
          rw [same, mem_set]
          simp only [List.mem_cons, exists_eq_or_imp, found, Option.some.injEq, Prod.mk.injEq]
          constructor
          · rintro ((member | equal) | later)
            · exact .inl member
            · exact .inr (.inl ⟨value, equal.symm, rfl⟩)
            · exact .inr (.inr later)
          · rintro (member | ⟨_, equal, _⟩ | later)
            · exact .inl (.inl member)
            · exact .inl (.inr equal.symm)
            · exact .inr later

theorem blockProperty_tabs (depth : Nat) : blockProperty (tabs depth) = none := by
  have nothing : (tabs depth).dropWhile isSpace = [] := by
    induction depth with
    | zero => rfl
    | succ depth ih =>
        have more : tabs (depth + 1) = '\t' :: tabs depth := rfl
        have tab : isSpace '\t' = true := by decide
        rw [more, List.dropWhile_cons, if_pos tab, ih]
  rw [blockProperty, nothing]
  rfl

theorem valueText_some (text : Text) : ∃ value, valueText (text ++ [';']) = some value := by
  induction text with
  | nil => exact ⟨[], by decide⟩
  | cons char rest ih =>
      rw [List.cons_append, valueText]
      split
      · exact ⟨[], rfl⟩
      · obtain ⟨value, found⟩ := ih
        exact ⟨char :: value, by rw [found]; rfl⟩

theorem dropWhile_last {keep : Char → Bool} {char : Char} (stops : keep char = false)
    (text : Text) : ∃ rest, (text ++ [char]).dropWhile keep = rest ++ [char] := by
  induction text with
  | nil =>
      have stop : ¬(keep char = true) := by
        rw [stops]
        decide
      exact ⟨[], by rw [List.nil_append, List.dropWhile_cons, if_neg stop]⟩
  | cons first rest ih =>
      rw [List.cons_append, List.dropWhile_cons]
      split
      · exact ih
      · exact ⟨first :: rest, rfl⟩

theorem symbolChar_name {char : Char} (member : symbolChar char = true) : nameChar char = true := by
  have listed : "_,.+-".toList.all (",._+*#?-".toList.contains ·) = true := by decide
  rw [symbolChar, Bool.or_eq_true] at member
  rw [nameChar, Bool.or_eq_true]
  rcases member with letter | other
  · exact .inl letter
  · exact .inr (List.all_eq_true.mp listed char (List.contains_iff_mem.mp other))

/-- A label is read. -/
theorem blockProperty_label {property : Property} (legal : property.legal = true)
    (label : property.label = true) (depth : Nat) :
    ∃ value, blockProperty (property.line depth) = some (property.name, value) := by
  rw [Property.label, Bool.and_eq_true] at label
  rw [Property.legal, Bool.and_eq_true, Bool.and_eq_true] at legal
  cases valued : property.value with
  | none =>
      rw [valued] at label
      exact absurd label.2 (by decide)
  | some value =>
      cases named : property.name with
      | nil =>
          rw [named] at legal
          exact absurd legal.1.1 (by decide)
      | cons char rest =>
          have item : property.item = (char :: rest) ++ (" = ".toList ++ (value ++ [';'])) := by
            rw [Property.item, valued, named]
          have first : nodeChar char = true := by
            have all := legal.1.2
            rw [named, List.all_cons, Bool.and_eq_true] at all
            exact nameChar_node all.1
          have body : (property.line depth).dropWhile isSpace = property.item := by
            rw [Property.line, item]
            exact dropWhile_tabs_space depth (nodeChar_solid first) _
          have stops : (" = ".toList ++ (value ++ [';'])).head?.any symbolChar = false := rfl
          have all := List.all_eq_true.mp label.1
          rw [named] at all
          have parts := takeWhile_all all stops
          have equals : (" = ".toList ++ (value ++ [';'])).dropWhile isSpace =
              '=' :: ' ' :: (value ++ [';']) := by
            have blank : isSpace ' ' = true := by decide
            have solid : ¬(isSpace '=' = true) := by decide
            show (' ' :: '=' :: ' ' :: (value ++ [';'])).dropWhile isSpace = _
            rw [List.dropWhile_cons, if_pos blank, List.dropWhile_cons, if_neg solid]
          obtain ⟨text, same⟩ := dropWhile_last (show isSpace ';' = false by decide) (' ' :: value)
          obtain ⟨found, read⟩ := valueText_some text
          refine ⟨found, ?_⟩
          rw [blockProperty, body, item, parts.1, parts.2, if_neg (List.cons_ne_nil _ _), equals]
          show (valueText (((' ' :: value) ++ [';']).dropWhile isSpace)).map _ = _
          rw [same, read]
          rfl

/-! ### The names -/

/-- A tab or a printable character. -/
def Visible (char : Char) : Prop := char.toNat = 9 ∨ (32 ≤ char.toNat ∧ char.toNat ≤ 126)

theorem Visible.inside {char : Char} (visible : Visible char) : char ∉ boundaries := by
  intro member
  have listed : boundaries.all (fun other =>
      decide (other.toNat ≠ 9 ∧ (other.toNat < 32 ∨ 126 < other.toNat))) = true := by decide
  have outside := of_decide_eq_true (List.all_eq_true.mp listed char member)
  rcases visible with tab | range
  · exact outside.1 tab
  · omega

theorem visible_printable {char : Char} (shown : printable char = true) : Visible char := by
  rw [printable, Bool.and_eq_true, decide_eq_true_eq, decide_eq_true_eq] at shown
  have low : ' '.toNat ≤ char.toNat := UInt32.le_iff_toNat_le.mp shown.1
  have high : char.toNat ≤ '~'.toNat := UInt32.le_iff_toNat_le.mp shown.2
  have first : ' '.toNat = 32 := rfl
  have last : '~'.toNat = 126 := rfl
  right
  omega

theorem visible_line {property : Property} (legal : property.legal = true) (depth : Nat) :
    ∀ char ∈ property.line depth, Visible char := by
  rw [Property.legal, Bool.and_eq_true, Bool.and_eq_true] at legal
  have name : ∀ char ∈ property.name, Visible char := by
    intro char member
    have range := nodeChar_range (nameChar_node (List.all_eq_true.mp legal.1.2 char member))
    right
    omega
  have semicolon : Visible ';' := by
    right
    decide
  intro char member
  rcases List.mem_append.mp member with tab | item
  · left
    rw [List.eq_of_mem_replicate tab]
    rfl
  · rw [Property.item] at item
    split at item
    · rcases List.mem_append.mp item with own | last
      · exact name char own
      · rw [List.mem_singleton.mp last]
        exact semicolon
    · rename_i value valued
      rcases List.mem_append.mp item with own | tail
      · exact name char own
      · rcases List.mem_append.mp tail with equals | tail
        · have listed : " = ".toList.all printable = true := by decide
          exact visible_printable (List.all_eq_true.mp listed char equals)
        · rcases List.mem_append.mp tail with inside | last
          · have fine := legal.2
            rw [valued] at fine
            have parts : legalValue value = true := fine
            rw [legalValue, Bool.and_eq_true, Bool.and_eq_true] at parts
            exact visible_printable (List.all_eq_true.mp parts.1.1 char inside)
          · rw [List.mem_singleton.mp last]
            exact semicolon

theorem printable_line {property : Property} (legal : property.legal = true) (depth : Nat) :
    ∀ char ∈ property.line depth, char ∉ boundaries :=
  fun char member => (visible_line legal depth char member).inside

/-- What a tree names for the bootloader below the root. -/
def labels (node : Text) (tree : Tree) : List Text :=
  match tree.below.child node with
  | some (properties, _) => properties.map Property.name
  | none => []

/-- The first node of the name on the page is the one below the root; it is flat, and
its properties are labels. -/
def Plain (node : Text) (tree : Tree) : Prop :=
  ∃ properties, tree.below.find node = some (properties, .nil) ∧
    tree.below.child node = some (properties, .nil) ∧ properties.all Property.label = true

theorem find_legal {name : Text} {nodes : Nodes} (legal : nodes.legal = true)
    {found : List Property × Nodes} (first : nodes.find name = some found) :
    found.1.all Property.legal = true := by
  induction nodes with
  | nil => cases first
  | node other properties below rest ihBelow ihRest =>
      rw [Nodes.legal, Bool.and_eq_true, Bool.and_eq_true, Bool.and_eq_true] at legal
      rw [Nodes.find] at first
      split at first
      · cases first
        exact legal.1.1.2
      · split at first
        · rename_i inside
          cases first
          exact ihBelow legal.1.2 inside
        · exact ihRest legal.2 first

/-- From a plain tree the tool reads what the tree names. -/
theorem blockProperties_plain {node : Text} (named : legalName node = true) {tree : Tree}
    (plain : Plain node tree) : ∃ body, extractBlock tree.page node = some body ∧
      ∀ name, name ∈ (blockProperties body).map Prod.fst ↔ name ∈ labels node tree := by
  obtain ⟨properties, first, below, labelled⟩ := plain
  have legal := List.all_eq_true.mp (find_legal tree.belowLegal first)
  have label := List.all_eq_true.mp labelled
  obtain ⟨level, extracted⟩ := extractBlock_tree named first labelled
  refine ⟨_, extracted, ?_⟩
  intro name
  have plainLines : ∀ line ∈ [] :: properties.map (Property.line (level + 1)),
      ∀ char ∈ line, char ∉ boundaries := by
    intro line member
    rcases List.mem_cons.mp member with rfl | own
    · intro char inside
      cases inside
    · obtain ⟨property, inside, rfl⟩ := List.mem_map.mp own
      exact printable_line (legal property inside) _
  have plainTabs : ∀ char ∈ tabs level, char ∉ boundaries := by
    intro char member
    rw [List.eq_of_mem_replicate member]
    decide
  have lines : splitlines ('\n' :: (terminated (properties.map (Property.line (level + 1))) ++
      tabs level)) = ([] :: properties.map (Property.line (level + 1))) ++
        (if tabs level = [] then [] else [tabs level]) := by
    have whole := splitlines_append (tabs level) plainLines
    have tail : splitlines (tabs level) = if tabs level = [] then [] else [tabs level] :=
      splitFrom_plain plainTabs
    rw [tail] at whole
    exact whole
  have shown : labels node tree = properties.map Property.name := by
    rw [labels, below]
  show name ∈ ((splitlines _).foldl readSymbol []).map Prod.fst ↔ _
  rw [lines, mem_foldl, shown]
  constructor
  · rintro (impossible | ⟨line, member, value, read⟩)
    · cases impossible
    · rcases List.mem_append.mp member with own | last
      · rcases List.mem_cons.mp own with rfl | own
        · have nothing : blockProperty [] = none := by decide
          rw [nothing] at read
          cases read
        · obtain ⟨property, inside, rfl⟩ := List.mem_map.mp own
          obtain ⟨found, same⟩ := blockProperty_label (legal property inside)
            (label property inside) (level + 1)
          rw [same] at read
          cases read
          exact List.mem_map.mpr ⟨property, inside, rfl⟩
      · have same : line = tabs level := by
          split at last
          · cases last
          · exact List.mem_singleton.mp last
        rw [same, blockProperty_tabs] at read
        cases read
  · intro member
    obtain ⟨property, inside, rfl⟩ := List.mem_map.mp member
    obtain ⟨found, same⟩ := blockProperty_label (legal property inside)
      (label property inside) (level + 1)
    right
    refine ⟨_, List.mem_append_left _ (List.mem_cons_of_mem _ (List.mem_map.mpr
      ⟨property, inside, rfl⟩)), found, same⟩

end Liuqin.DeviceTree
