/-
Renaming a node on the page.

The pattern of a rename takes only lines that open a node.  Where exactly one line
of a page matches, the page that comes out is that of the tree in which this one
node has the new name.
-/

import Liuqin.DeviceTree.Labels

namespace Liuqin.DeviceTree

open Liuqin.Library Liuqin.Library.Lines
open Liuqin.Library.Numerals (isSpace)

/-! ### What the pattern takes -/

def renameText (old new text : Text) : Text :=
  match nodeText old text with
  | none => text
  | some suffix => new ++ (suffix ++ " \x7b".toList)

theorem nodeText_some {name text suffix : Text} (found : nodeText name text = some suffix) :
    text = opening (name ++ suffix) ∧ unitAddress suffix = true := by
  rw [nodeText] at found
  split at found
  · rename_i all
    cases found
    obtain ⟨front, ends, address⟩ := all
    obtain ⟨tail, split⟩ := List.isPrefixOf_iff_prefix.mp front
    rw [← split, List.drop_left] at ends address ⊢
    obtain ⟨lead, whole⟩ := List.isSuffixOf_iff_suffix.mp ends
    have kept : tail.take (tail.length - 2) = lead := by
      rw [← whole, List.length_append]
      exact List.take_left
    rw [kept] at address ⊢
    refine ⟨?_, address⟩
    rw [opening, List.append_assoc, whole]
  · cases found

theorem nodeText_opening {name suffix : Text} (address : unitAddress suffix = true) :
    nodeText name (opening (name ++ suffix)) = some suffix := by
  have front : name.isPrefixOf (opening (name ++ suffix)) = true := by
    apply List.isPrefixOf_iff_prefix.mpr
    rw [opening, List.append_assoc]
    exact List.prefix_append _ _
  have tail : (opening (name ++ suffix)).drop name.length = suffix ++ " \x7b".toList := by
    rw [opening, List.append_assoc, List.drop_left]
  have ends : " \x7b".toList.isSuffixOf (suffix ++ " \x7b".toList) = true :=
    List.isSuffixOf_iff_suffix.mpr (List.suffix_append _ _)
  have kept : (suffix ++ " \x7b".toList).take ((suffix ++ " \x7b".toList).length - 2) = suffix := by
    rw [List.length_append]
    exact List.take_left
  rw [nodeText, tail, kept, if_pos ⟨front, ends, address⟩]

theorem nodeText_item (name front : Text) : nodeText name (front ++ [';']) = none := by
  cases found : nodeText name (front ++ [';']) with
  | none => rfl
  | some suffix =>
      have same := (nodeText_some found).1
      have last : (front ++ [';']).getLast? = some '{' := by
        rw [same]
        exact List.getLast?_append
      rw [List.getLast?_concat] at last
      exact absurd (Option.some.inj last) (by decide)

theorem nodeText_property (name : Text) (property : Property) :
    nodeText name property.item = none := by
  obtain ⟨front, ends⟩ := item_semicolon property
  rw [ends]
  exact nodeText_item name front

theorem nodeText_closing (name : Text) : nodeText name closing = none := nodeText_item name ['}']

theorem nodeText_root {name : Text} (legal : legalName name = true) :
    nodeText name rootLine = none := by
  cases found : nodeText name rootLine with
  | none => rfl
  | some suffix =>
      obtain ⟨char, rest, rfl, member⟩ := legalName_cons legal
      have same := (nodeText_some found).1
      have first : '/' = char := (List.cons.inj same).1
      rw [← first] at member
      exact absurd member (by decide)

theorem hexDigit_node {char : Char} (digit : hexDigit char = true) : nodeChar char = true := by
  have letter : alphanumeric char = true := by
    rw [hexDigit, Bool.or_eq_true, Bool.or_eq_true] at digit
    rw [alphanumeric, Bool.or_eq_true, Bool.or_eq_true]
    rcases digit with (number | small) | large
    · exact .inr number
    · rw [Bool.and_eq_true, decide_eq_true_eq, decide_eq_true_eq] at small
      left
      left
      rw [Bool.and_eq_true, decide_eq_true_eq, decide_eq_true_eq]
      exact ⟨small.1, Char.le_trans small.2 (by decide)⟩
    · rw [Bool.and_eq_true, decide_eq_true_eq, decide_eq_true_eq] at large
      left
      right
      rw [Bool.and_eq_true, decide_eq_true_eq, decide_eq_true_eq]
      exact ⟨large.1, Char.le_trans large.2 (by decide)⟩
  rw [nodeChar, nameChar, letter]
  rfl

theorem unitAddress_chars {suffix : Text} (address : unitAddress suffix = true) :
    ∀ char ∈ suffix, nodeChar char = true := by
  unfold unitAddress at address
  split at address
  · intro char member
    cases member
  · rename_i digits
    rw [Bool.and_eq_true] at address
    intro char member
    rcases List.mem_cons.mp member with rfl | inside
    · decide
    · exact hexDigit_node (List.all_eq_true.mp address.2 char inside)
  · cases address

/-- A new name with the old address is a name. -/
theorem legalName_append {name suffix : Text} (legal : legalName name = true)
    (address : unitAddress suffix = true) : legalName (name ++ suffix) = true := by
  obtain ⟨char, rest, rfl, _⟩ := legalName_cons legal
  have chars := legalName_chars legal
  rw [legalName, Bool.and_eq_true]
  refine ⟨rfl, List.all_eq_true.mpr ?_⟩
  intro other member
  rcases List.mem_append.mp member with front | back
  · exact chars other front
  · exact unitAddress_chars address other back

/-! ### One node renamed -/

/-- One node has another name, and its address; all else is the same. -/
inductive Renamed (old new : Text) : Nodes → Nodes → Prop where
  | here (suffix : Text) (properties : List Property) (below rest : Nodes)
      (address : unitAddress suffix = true) :
      Renamed old new (.node (old ++ suffix) properties below rest)
        (.node (new ++ suffix) properties below rest)
  | under {name : Text} {properties : List Property} {first second rest : Nodes}
      (inside : Renamed old new first second) :
      Renamed old new (.node name properties first rest) (.node name properties second rest)
  | next {name : Text} {properties : List Property} {below first second : Nodes}
      (inside : Renamed old new first second) :
      Renamed old new (.node name properties below first) (.node name properties below second)

theorem Renamed.symm {old new : Text} {first second : Nodes} (renamed : Renamed old new first second) :
    Renamed new old second first := by
  induction renamed with
  | here suffix properties below rest address => exact .here suffix properties below rest address
  | under _ ih => exact .under ih
  | next _ ih => exact .next ih

theorem Renamed.legal {old new : Text} (fine : legalName new = true) {first second : Nodes}
    (renamed : Renamed old new first second) (legal : first.legal = true) :
    second.legal = true := by
  induction renamed with
  | here suffix properties below rest address =>
      rw [Nodes.legal, Bool.and_eq_true, Bool.and_eq_true, Bool.and_eq_true] at legal ⊢
      exact ⟨⟨⟨legalName_append fine address, legal.1.1.2⟩, legal.1.2⟩, legal.2⟩
  | under _ ih =>
      rw [Nodes.legal, Bool.and_eq_true, Bool.and_eq_true, Bool.and_eq_true] at legal ⊢
      exact ⟨⟨legal.1.1, ih legal.1.2⟩, legal.2⟩
  | next _ ih =>
      rw [Nodes.legal, Bool.and_eq_true, Bool.and_eq_true, Bool.and_eq_true] at legal ⊢
      exact ⟨legal.1, ih legal.2⟩

/-! ### The items of a renamed tree -/

def Marked (old : Text) (text : Text) : Bool := (nodeText old text).isSome

/-- How many lines match. -/
def marks (old : Text) (page : Page) : Nat := (page.filter (Marked old)).length

theorem marks_append (old : Text) (front back : Page) :
    marks old (front ++ back) = marks old front + marks old back := by
  rw [marks, List.filter_append, List.length_append]
  rfl

theorem marks_cons (old text : Text) (page : Page) :
    marks old (text :: page) = (if Marked old text = true then 1 else 0) + marks old page := by
  rw [marks, List.filter_cons]
  split
  · rw [List.length_cons, marks]
    omega
  · rw [marks]
    omega

theorem rename_unmarked {old : Text} (new : Text) {page : Page} (none : marks old page = 0) :
    page.map (renameText old new) = page := by
  induction page with
  | nil => rfl
  | cons text rest ih =>
      rw [marks_cons] at none
      have unmarked : ¬(Marked old text = true) := by
        intro marked
        rw [if_pos marked] at none
        omega
      have missing : nodeText old text = Option.none := by
        rw [Marked, Option.isSome_iff_ne_none, not_not] at unmarked
        exact unmarked
      have same : renameText old new text = text := by
        rw [renameText, missing]
      rw [List.map_cons, same, ih (by omega)]

theorem marks_properties (old : Text) (properties : List Property) :
    marks old (properties.map Property.item) = 0 := by
  induction properties with
  | nil => rfl
  | cons property rest ih =>
      have unmarked : Marked old property.item = false := by
        rw [Marked, nodeText_property]
        rfl
      rw [List.map_cons, marks_cons, unmarked, ih]
      rfl

theorem marks_closing (old : Text) (page : Page) : marks old (closing :: page) = marks old page := by
  have unmarked : Marked old closing = false := by
    rw [Marked, nodeText_closing]
    rfl
  rw [marks_cons, unmarked, if_neg Bool.false_ne_true, Nat.zero_add]

theorem rename_closing (old new : Text) : renameText old new closing = closing := by
  rw [renameText, nodeText_closing]

/-- One match among the nodes: one node is renamed, and its line with it. -/
theorem rename_nodes {old : Text} (new : Text) {nodes : Nodes} (one : marks old nodes.items = 1) :
    ∃ result, Renamed old new nodes result ∧
      result.items = nodes.items.map (renameText old new) := by
  induction nodes with
  | nil => cases one
  | node name properties below rest ihBelow ihRest =>
      have none := marks_properties old properties
      have same := rename_unmarked new none
      rw [Nodes.items, marks_cons, marks_append, none, marks_append, marks_closing] at one
      rw [Nodes.items, List.map_cons, List.map_append, List.map_append, List.map_cons, same,
        rename_closing]
      by_cases here : Marked old (opening name) = true
      · rw [if_pos here] at one
        have lower := rename_unmarked new (show marks old below.items = 0 by omega)
        have later := rename_unmarked new (show marks old rest.items = 0 by omega)
        obtain ⟨suffix, found⟩ := Option.isSome_iff_exists.mp here
        obtain ⟨equal, address⟩ := nodeText_some found
        have named : name = old ++ suffix := List.append_cancel_right equal
        refine ⟨.node (new ++ suffix) properties below rest, ?_, ?_⟩
        · rw [named]
          exact .here suffix properties below rest address
        · have text : renameText old new (opening name) = opening (new ++ suffix) := by
            rw [renameText, found]
            exact (List.append_assoc _ _ _).symm
          rw [lower, later, text, Nodes.items]
      · rw [if_neg here] at one
        have missing : nodeText old (opening name) = Option.none := by
          rw [Marked, Option.isSome_iff_ne_none, not_not] at here
          exact here
        have text : renameText old new (opening name) = opening name := by
          rw [renameText, missing]
        rw [text]
        rcases (show (marks old below.items = 1 ∧ marks old rest.items = 0) ∨
            (marks old below.items = 0 ∧ marks old rest.items = 1) by omega) with only | only
        · obtain ⟨result, renamed, items⟩ := ihBelow only.1
          refine ⟨.node name properties result rest, .under renamed, ?_⟩
          rw [Nodes.items, items, rename_unmarked new only.2]
        · obtain ⟨result, renamed, items⟩ := ihRest only.2
          refine ⟨.node name properties below result, .next renamed, ?_⟩
          rw [Nodes.items, items, rename_unmarked new only.1]

/-! ### Pages and their items -/

/-- Blank, or tabs and a text behind them. -/
inductive Indented : Text → Prop where
  | blank : Indented []
  | text (depth : Nat) (char : Char) (rest : Text) (solid : isSpace char = false) :
      Indented (tabs depth ++ char :: rest)

theorem solid_item {char : Char} (solid : isSpace char = false) (rest : Text) :
    Item (char :: rest) := by
  refine ⟨char, rest, rfl, ?_⟩
  rintro rfl
  revert solid
  decide

theorem takeWhile_tabs_space (depth : Nat) {char : Char} (solid : isSpace char = false)
    (rest : Text) : (tabs depth ++ char :: rest).takeWhile isSpace = tabs depth := by
  have spaces : ∀ other ∈ tabs depth, isSpace other = true := by
    intro other member
    rw [List.eq_of_mem_replicate member]
    decide
  exact (takeWhile_all spaces (show (char :: rest).head?.any isSpace = false from solid)).1

theorem nodeLine_text (old : Text) (depth : Nat) {char : Char} (solid : isSpace char = false)
    (rest : Text) : nodeLine old (tabs depth ++ char :: rest) = nodeText old (char :: rest) := by
  rw [nodeLine, dropWhile_tabs_space depth solid]

theorem nodeText_blank {old : Text} (legal : legalName old = true) : nodeText old [] = none := by
  obtain ⟨char, rest, rfl, _⟩ := legalName_cons legal
  rfl

theorem renameLine_text (old new : Text) (depth : Nat) {char : Char}
    (solid : isSpace char = false) (rest : Text) :
    renameLine old new (tabs depth ++ char :: rest) =
      tabs depth ++ renameText old new (char :: rest) := by
  rw [renameLine, renameText, nodeLine_text old depth solid, takeWhile_tabs_space depth solid]
  cases nodeText old (char :: rest) with
  | none => rfl
  | some suffix => rfl

theorem renameText_solid (old : Text) {new : Text} (legal : legalName new = true) {char : Char}
    (solid : isSpace char = false) (rest : Text) :
    ∃ first tail, renameText old new (char :: rest) = first :: tail ∧ isSpace first = false := by
  rw [renameText]
  cases nodeText old (char :: rest) with
  | none => exact ⟨char, rest, rfl, solid⟩
  | some suffix =>
      obtain ⟨first, tail, rfl, member⟩ := legalName_cons legal
      exact ⟨first, _, rfl, nodeChar_solid member⟩

/-- The lines of a page are renamed as its items are. -/
theorem rename_page {old new : Text} (oldLegal : legalName old = true)
    (newLegal : legalName new = true) {page : Page} (indented : ∀ line ∈ page, Indented line) :
    items (page.map (renameLine old new)) = (items page).map (renameText old new) ∧
    (page.filter (fun line => (nodeLine old line).isSome)).length = marks old (items page) ∧
    ∀ line ∈ page.map (renameLine old new), Indented line := by
  induction page with
  | nil => exact ⟨rfl, rfl, fun _ member => absurd member List.not_mem_nil⟩
  | cons line rest ih =>
      obtain ⟨texts, found, lines⟩ := ih (fun other member =>
        indented other (List.mem_cons_of_mem _ member))
      cases indented line List.mem_cons_self with
      | blank =>
          have missing : nodeLine old [] = none := nodeText_blank oldLegal
          have same : renameLine old new [] = [] := by rw [renameLine, missing]
          have unmarked : ¬((nodeLine old []).isSome = true) := by rw [missing]; decide
          rw [List.map_cons, same, items_blank, items_blank, List.filter_cons, if_neg unmarked]
          refine ⟨texts, found, ?_⟩
          intro other member
          rcases List.mem_cons.mp member with rfl | later
          · exact .blank
          · exact lines other later
      | text depth char tail solid =>
          obtain ⟨first, after, renamed, firstSolid⟩ :=
            renameText_solid old newLegal solid tail
          have line := renameLine_text old new depth solid tail
          rw [renamed] at line
          rw [List.map_cons, line, items_cons depth (solid_item firstSolid after),
            items_cons depth (solid_item solid tail), List.map_cons, renamed, texts, List.filter_cons,
            nodeLine_text old depth solid, marks_cons, Marked]
          refine ⟨rfl, ?_, ?_⟩
          · by_cases marked : (nodeText old (char :: tail)).isSome = true
            · rw [if_pos marked, if_pos marked, List.length_cons, found]
              omega
            · rw [if_neg marked, if_neg marked, found]
              omega
          · intro other member
            rcases List.mem_cons.mp member with rfl | later
            · exact .text depth first after firstSolid
            · exact lines other later

/-- The items of a tree with these nodes. -/
def pageItems (reserved : List Text) (properties : List Property) (nodes : Nodes) : Page :=
  ("/dts-v1/;".toList :: reserved.map reservation) ++
    rootLine :: (properties.map Property.item ++ (nodes.items ++ [closing]))

theorem marks_header (old : Text) (reserved : List Text) :
    marks old ("/dts-v1/;".toList :: reserved.map reservation) = 0 := by
  have version : Marked old "/dts-v1/;".toList = false := by
    have split : "/dts-v1/;".toList = "/dts-v1/".toList ++ [';'] := by decide
    rw [split, Marked, nodeText_item]
    rfl
  rw [marks_cons, version, if_neg Bool.false_ne_true, Nat.zero_add]
  induction reserved with
  | nil => rfl
  | cons text rest ih =>
      have split : reservation text = ("/memreserve/\t".toList ++ text) ++ [';'] :=
        (List.append_assoc _ _ _).symm
      have unmarked : Marked old (reservation text) = false := by
        rw [split, Marked, nodeText_item]
        rfl
      rw [List.map_cons, marks_cons, unmarked, if_neg Bool.false_ne_true, ih]

theorem marks_pageItems {old : Text} (legal : legalName old = true) (reserved : List Text)
    (properties : List Property) (nodes : Nodes) :
    marks old (pageItems reserved properties nodes) = marks old nodes.items := by
  have root : Marked old rootLine = false := by
    rw [Marked, nodeText_root legal]
    rfl
  have last : marks old [closing] = 0 := marks_closing old []
  rw [pageItems, marks_append, marks_header, marks_cons, root, if_neg Bool.false_ne_true,
    marks_append, marks_properties, marks_append, last]
  omega

theorem rename_pageItems {old : Text} (legal : legalName old = true) (new : Text)
    (reserved : List Text) (properties : List Property) (nodes : Nodes) :
    (pageItems reserved properties nodes).map (renameText old new) =
      ("/dts-v1/;".toList :: reserved.map reservation) ++ rootLine ::
        (properties.map Property.item ++ (nodes.items.map (renameText old new) ++ [closing])) := by
  have root : renameText old new rootLine = rootLine := by
    rw [renameText, nodeText_root legal]
  have head := rename_unmarked new (marks_header old reserved)
  have own := rename_unmarked new (marks_properties old properties)
  have last : [closing].map (renameText old new) = [closing] := by
    rw [List.map_singleton, rename_closing]
  rw [pageItems, List.map_append, head, List.map_cons, root, List.map_append, own,
    List.map_append, last]

/-! ### All renames -/

/-- One rename after the other. -/
inductive Chain : List (Text × Text) → Nodes → Nodes → Prop where
  | nil (nodes : Nodes) : Chain [] nodes nodes
  | cons {names : Text × Text} {rest : List (Text × Text)} {first second third : Nodes}
      (renamed : Renamed names.1 names.2 first second) (later : Chain rest second third) :
      Chain (names :: rest) first third

theorem Chain.snoc {renames : List (Text × Text)} {names : Text × Text}
    {first second third : Nodes} (chain : Chain renames first second)
    (last : Renamed names.1 names.2 second third) : Chain (renames ++ [names]) first third := by
  induction chain with
  | nil nodes => exact .cons last (.nil _)
  | cons renamed _ ih => exact .cons renamed (ih last)

/-- The renames the other way, the last one first. -/
def undo (renames : List (Text × Text)) : List (Text × Text) := (renames.map Prod.swap).reverse

theorem Chain.undone {renames : List (Text × Text)} {first second : Nodes}
    (chain : Chain renames first second) : Chain (undo renames) second first := by
  induction chain with
  | nil nodes => exact .nil nodes
  | @cons names rest first second third renamed later ih =>
      have whole : undo (names :: rest) = undo rest ++ [names.swap] := by
        rw [undo, List.map_cons, List.reverse_cons]
        rfl
      rw [whole]
      exact ih.snoc renamed.symm

/-- Both names of a rename are names of nodes. -/
def LegalSpec (spec : Text) : Prop :=
  ∀ names, splitSpec spec = .ok names → legalName names.1 = true ∧ legalName names.2 = true

theorem renameNodes_ok {reserved : List Text} {properties : List Property} {specs : List Text}
    {page final : Page} {renames : List (Text × Text)} {nodes : Nodes}
    (passed : renameNodes page specs = .ok (final, renames))
    (fine : ∀ spec ∈ specs, LegalSpec spec) (indented : ∀ line ∈ page, Indented line)
    (legal : nodes.legal = true) (same : items page = pageItems reserved properties nodes) :
    ∃ result, Chain renames nodes result ∧ result.legal = true ∧
      items final = pageItems reserved properties result := by
  induction specs generalizing page renames nodes with
  | nil =>
      cases passed
      exact ⟨nodes, .nil nodes, legal, same⟩
  | cons spec rest ih =>
      rw [renameNodes] at passed
      obtain ⟨names, split, passed⟩ := (Checked.bind_eq_ok _ _ _).mp passed
      obtain ⟨next, renamed, passed⟩ := (Checked.bind_eq_ok _ _ _).mp passed
      obtain ⟨⟨lastPage, others⟩, finished, passed⟩ := (Checked.bind_eq_ok _ _ _).mp passed
      cases (Checked.pure_eq_ok _ _).mp passed
      obtain ⟨oldLegal, newLegal⟩ := fine spec List.mem_cons_self names split
      obtain ⟨texts, found, lines⟩ := rename_page oldLegal newLegal indented
      rw [renameNode] at renamed
      split at renamed
      · cases renamed
      · rename_i once
        cases renamed
        rw [not_not, found, same, marks_pageItems oldLegal] at once
        obtain ⟨result, step, itemsSame⟩ := rename_nodes names.2 once
        have nextSame : items (page.map (renameLine names.1 names.2)) =
            pageItems reserved properties result := by
          rw [texts, same, rename_pageItems oldLegal, pageItems, itemsSame]
        obtain ⟨last, chain, lastLegal, lastSame⟩ := ih finished
          (fun other member => fine other (List.mem_cons_of_mem _ member)) lines
          (step.legal newLegal legal) nextSame
        exact ⟨last, .cons step chain, lastLegal, lastSame⟩

end Liuqin.DeviceTree
