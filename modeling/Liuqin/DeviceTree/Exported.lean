/-
What the symbols tool makes of a boot tree.

The page that dtc compiles is that of the boot tree with its renames and with two
more nodes behind its last one.  No rename can have touched these: the checks of the
result look for both.
-/

import Liuqin.DeviceTree.Phandles
import Liuqin.DeviceTree.Renamed
import Liuqin.DeviceTree.Union

namespace Liuqin.DeviceTree

open Liuqin.Library Liuqin.Library.Lines Liuqin.Library.Checked
open Liuqin.Library.Numerals (isSpace)

/-! ### The nodes that are added -/

def Nodes.append : Nodes → Nodes → Nodes
  | .nil, more => more
  | .node name properties below rest, more => .node name properties below (rest.append more)

/-- The sink and the symbols. -/
def added (phandle : Option Nat) (symbols : List Text) : Nodes :=
  .node sinkName (sinkProperties phandle) .nil
    (.node symbolsNode (symbols.map symbolProperty) .nil .nil)

theorem Nodes.append_items (front back : Nodes) :
    (front.append back).items = front.items ++ back.items := by
  induction front with
  | nil => rfl
  | node name properties below rest _ ih =>
      rw [Nodes.append, Nodes.items, Nodes.items, ih]
      simp

theorem Nodes.append_legal {front back : Nodes} (first : front.legal = true)
    (second : back.legal = true) : (front.append back).legal = true := by
  induction front with
  | nil => exact second
  | node name properties below rest _ ih =>
      rw [Nodes.legal, Bool.and_eq_true] at first
      rw [Nodes.append, Nodes.legal, first.1, ih first.2]
      rfl

theorem added_legal (phandle : Option Nat) {symbols : List Text}
    (legal : ∀ name ∈ symbols, (symbolProperty name).legal = true) :
    (added phandle symbols).legal = true := by
  have sink : legalName sinkName = true := by decide
  have table : legalName symbolsNode = true := by decide
  have own : (symbols.map symbolProperty).all Property.legal = true := by
    apply List.all_eq_true.mpr
    intro property member
    obtain ⟨name, inside, rfl⟩ := List.mem_map.mp member
    exact legal name inside
  rw [added, Nodes.legal, Nodes.legal, Nodes.legal, sink, table, sinkProperties_legal, own]
  rfl

theorem addition_items (phandle : Option Nat) {symbols : List Text}
    (legal : ∀ name ∈ symbols, (symbolProperty name).legal = true) :
    items (addition phandle symbols) = (added phandle symbols).items := by
  have own : (symbols.map symbolProperty).all Property.legal = true := by
    apply List.all_eq_true.mpr
    intro property member
    obtain ⟨name, inside, rfl⟩ := List.mem_map.mp member
    exact legal name inside
  have first : items [tabs 1 ++ opening sinkName] = [opening sinkName] :=
    items_cons 1 (opening_item (by decide)) []
  have second : items [tabs 1 ++ opening symbolsNode] = [opening symbolsNode] :=
    items_cons 1 (opening_item (by decide)) []
  have ended : items [tabs 1 ++ closing, []] = [closing] := items_cons 1 closing_item [[]]
  have last : items [tabs 1 ++ closing] = [closing] := items_cons 1 closing_item []
  rw [addition, items_append, items_append, items_append, items_append, items_append,
    items_properties 2 (sinkProperties_legal phandle), items_properties 2 own, first, second,
    ended, last]
  simp [added, Nodes.items]

/-! ### The page that is compiled -/

/-- A printed page without its last line. -/
def Tree.front (tree : Tree) : Page :=
  header tree.reserved ++ [rootLine] ++ tree.properties.map (Property.line 1) ++ tree.below.page 1

theorem insertBeforeEnd_page (tree : Tree) (lines : Page) :
    insertBeforeEnd tree.page lines = some (tree.front ++ lines ++ [closing]) := by
  have page : tree.page = tree.front ++ [closing] := rfl
  have stops : ¬((!closing.isPrefixOf closing) = true) := by decide
  have some_front : tree.front.reverse ≠ [] := by
    intro nothing
    have length := congrArg List.length nothing
    simp [Tree.front, header] at length
  rw [insertBeforeEnd, page, List.reverse_append, List.reverse_singleton, List.singleton_append,
    List.dropWhile_cons, if_neg stops, List.takeWhile_cons, if_neg stops]
  dsimp only
  rw [if_neg some_front, List.reverse_reverse]
  rfl

theorem patched_items (tree : Tree) (phandle : Option Nat) {symbols : List Text}
    (legal : ∀ name ∈ symbols, (symbolProperty name).legal = true) :
    items (tree.front ++ addition phandle symbols ++ [closing]) =
      pageItems tree.reserved tree.properties (tree.below.append (added phandle symbols)) := by
  have root : items [rootLine] = [rootLine] := items_cons 0 rootLine_item []
  have last : items [closing] = [closing] := items_cons 0 closing_item []
  rw [items_append, items_append, addition_items phandle legal, last, Tree.front, items_append,
    items_append, items_append, header_items, root, items_properties 1 tree.propertiesLegal,
    Nodes.items_page 1 tree.belowLegal, pageItems, Nodes.append_items]
  simp

theorem indented_property (depth : Nat) {property : Property} (legal : property.legal = true) :
    Indented (property.line depth) := by
  obtain ⟨char, rest, same, member⟩ := Property.item_head legal
  rw [Property.line, same]
  exact .text depth char rest (nodeChar_solid (nameChar_node member))

theorem indented_opening (depth : Nat) {name : Text} (legal : legalName name = true) :
    Indented (tabs depth ++ opening name) := by
  obtain ⟨char, rest, rfl, member⟩ := legalName_cons legal
  exact .text depth char _ (nodeChar_solid member)

theorem indented_closing (depth : Nat) : Indented (tabs depth ++ closing) :=
  .text depth '}' [';'] (by decide)

theorem indented_properties (depth : Nat) {properties : List Property}
    (legal : properties.all Property.legal = true) :
    ∀ line ∈ properties.map (Property.line depth), Indented line := by
  intro line member
  obtain ⟨property, inside, rfl⟩ := List.mem_map.mp member
  exact indented_property depth (List.all_eq_true.mp legal property inside)

theorem indented_append {front back : Page} (first : ∀ line ∈ front, Indented line)
    (second : ∀ line ∈ back, Indented line) : ∀ line ∈ front ++ back, Indented line := by
  intro line member
  rcases List.mem_append.mp member with early | late
  · exact first line early
  · exact second line late

theorem indented_single {text : Text} (line : Indented text) : ∀ other ∈ [text], Indented other := by
  intro other member
  rw [List.mem_singleton.mp member]
  exact line

theorem indented_nodes {nodes : Nodes} (legal : nodes.legal = true) (depth : Nat) :
    ∀ line ∈ nodes.page depth, Indented line := by
  induction nodes generalizing depth with
  | nil =>
      intro line member
      cases member
  | node name properties below rest ihBelow ihRest =>
      rw [Nodes.legal, Bool.and_eq_true, Bool.and_eq_true, Bool.and_eq_true] at legal
      obtain ⟨⟨⟨named, fine⟩, under⟩, after⟩ := legal
      have opened : ∀ line ∈ [[], tabs depth ++ opening name], Indented line :=
        indented_append (indented_single .blank) (indented_single (indented_opening depth named))
      rw [Nodes.page]
      exact indented_append (indented_append (indented_append (indented_append opened
        (indented_properties _ fine)) (ihBelow under _)) (indented_single (indented_closing depth)))
        (ihRest after _)

theorem indented_header (reserved : List Text) : ∀ line ∈ header reserved, Indented line := by
  intro line member
  rcases List.mem_append.mp member with first | reservations
  · rcases List.mem_cons.mp first with version | second
    · rw [version]
      exact .text 0 '/' _ (by decide)
    · rw [List.mem_singleton.mp second]
      exact .blank
  · obtain ⟨text, _, rfl⟩ := List.mem_map.mp reservations
    exact .text 0 '/' _ (by decide)

theorem indented_patched (tree : Tree) (phandle : Option Nat) {symbols : List Text}
    (legal : ∀ name ∈ symbols, (symbolProperty name).legal = true) :
    ∀ line ∈ tree.front ++ addition phandle symbols ++ [closing], Indented line := by
  have own : (symbols.map symbolProperty).all Property.legal = true := by
    apply List.all_eq_true.mpr
    intro property member
    obtain ⟨name, inside, rfl⟩ := List.mem_map.mp member
    exact legal name inside
  have root : Indented rootLine := .text 0 '/' _ (by decide)
  have front : ∀ line ∈ tree.front, Indented line :=
    indented_append (indented_append (indented_append (indented_header _) (indented_single root))
      (indented_properties 1 tree.propertiesLegal)) (indented_nodes tree.belowLegal 1)
  have ended : ∀ line ∈ [tabs 1 ++ closing, []], Indented line :=
    indented_append (indented_single (indented_closing 1)) (indented_single .blank)
  have middle : ∀ line ∈ addition phandle symbols, Indented line :=
    indented_append (indented_append (indented_append (indented_append (indented_append
      (indented_single (indented_opening 1 (by decide)))
      (indented_properties 2 (sinkProperties_legal phandle))) ended)
      (indented_single (indented_opening 1 (by decide)))) (indented_properties 2 own))
      (indented_single (indented_closing 1))
  exact indented_append (indented_append front middle) (indented_single (indented_closing 0))

/-! ### The added nodes keep their names -/

theorem suffix_empty {old suffix name : Text} (address : unitAddress suffix = true)
    (whole : old ++ suffix = name) (plain : '@' ∉ name) : old = name := by
  cases suffix with
  | nil => rw [← whole, List.append_nil]
  | cons char rest =>
      have unit : char = '@' := by
        unfold unitAddress at address
        split at address
        · rename_i impossible
          cases impossible
        · rename_i same
          exact (List.cons.inj same).1
        · cases address
      apply absurd _ plain
      rw [← whole, unit]
      exact List.mem_append_right _ List.mem_cons_self

/-- A rename that takes neither of the added nodes takes one before them. -/
theorem Renamed.append {old new : Text} {front result : Nodes} {phandle : Option Nat}
    {symbols : List Text} (notSink : old ≠ sinkName) (notTable : old ≠ symbolsNode)
    (renamed : Renamed old new (front.append (added phandle symbols)) result) :
    ∃ changed, result = changed.append (added phandle symbols) ∧ Renamed old new front changed := by
  induction front generalizing result with
  | nil =>
      exfalso
      have sinkPlain : '@' ∉ sinkName := by decide
      have tablePlain : '@' ∉ symbolsNode := by decide
      rw [Nodes.append, added] at renamed
      generalize whole : Nodes.node sinkName (sinkProperties phandle) .nil
        (.node symbolsNode (symbols.map symbolProperty) .nil .nil) = nodes at renamed
      cases renamed with
      | here suffix properties below rest address =>
          injection whole with named
          exact notSink (suffix_empty address named.symm sinkPlain)
      | under inside =>
          injection whole with _ _ empty
          subst empty
          cases inside
      | next later =>
          injection whole with _ _ _ tail
          subst tail
          generalize other : Nodes.node symbolsNode (symbols.map symbolProperty) .nil .nil =
            nodes at later
          cases later with
          | here suffix properties below rest address =>
              injection other with named
              exact notTable (suffix_empty address named.symm tablePlain)
          | under inside =>
              injection other with _ _ empty
              subst empty
              cases inside
          | next inside =>
              injection other with _ _ _ empty
              subst empty
              cases inside
  | node name properties below rest _ ih =>
      rw [Nodes.append] at renamed
      generalize whole : Nodes.node name properties below
        (rest.append (added phandle symbols)) = nodes at renamed
      cases renamed with
      | here suffix own lower later address =>
          injection whole with named props under after
          subst named props under after
          exact ⟨.node (new ++ suffix) properties below rest, rfl, .here suffix _ _ _ address⟩
      | @under _ _ _ second _ inside =>
          injection whole with named props under after
          subst named props under after
          exact ⟨.node name properties second rest, rfl, .under inside⟩
      | next inside =>
          injection whole with named props under after
          subst named props under after
          obtain ⟨changed, same, step⟩ := ih inside
          exact ⟨.node name properties below changed, by rw [same]; rfl, .next step⟩

theorem Chain.append {renames : List (Text × Text)} {front result : Nodes} {phandle : Option Nat}
    {symbols : List Text}
    (untouched : ∀ names ∈ renames, names.1 ≠ sinkName ∧ names.1 ≠ symbolsNode)
    (chain : Chain renames (front.append (added phandle symbols)) result) :
    ∃ stripped, result = stripped.append (added phandle symbols) ∧ Chain renames front stripped := by
  generalize whole : front.append (added phandle symbols) = nodes at chain
  induction chain generalizing front with
  | nil nodes => exact ⟨front, whole.symm, .nil front⟩
  | @cons names rest first second third renamed later ih =>
      subst whole
      have own := untouched names List.mem_cons_self
      obtain ⟨changed, same, step⟩ := renamed.append own.1 own.2
      obtain ⟨stripped, last, others⟩ := ih (fun other member =>
        untouched other (List.mem_cons_of_mem _ member)) same.symm
      exact ⟨stripped, last, .cons step others⟩

/-! ### The checks of the result -/

theorem extractBlock_marker {page : Page} {name body : Text}
    (found : extractBlock page name = some body) : ∃ line ∈ page, markerLine name line = true := by
  unfold extractBlock at found
  cases rest : page.dropWhile (fun line => !markerLine name line) with
  | nil =>
      rw [rest] at found
      cases found
  | cons line tail =>
      have suffix : line :: tail <:+ page := by
        rw [← rest]
        exact List.dropWhile_suffix _
      have head := List.head?_dropWhile_not (fun line => !markerLine name line) page
      rw [rest, List.head?_cons] at head
      have stops : (!markerLine name line) = false := head
      refine ⟨line, suffix.subset List.mem_cons_self, ?_⟩
      cases marker : markerLine name line with
      | true => rfl
      | false =>
          rw [marker] at stops
          exact absurd stops (by decide)

/-- Where a block is found, a line matches the pattern of a rename. -/
theorem block_survives {tree : Tree} {name body : Text} (legal : legalName name = true)
    (found : extractBlock tree.page name = some body) :
    tree.page.any (fun line => (nodeLine name line).isSome) = true := by
  obtain ⟨line, member, marker⟩ := extractBlock_marker found
  obtain ⟨depth, same⟩ := (tree.printed line member).marker legal marker
  have taken : nodeLine name line = some [] := by
    have whole : nodeText name (opening (name ++ [])) = some [] := nodeText_opening rfl
    rw [List.append_nil] at whole
    rw [same, nodeLine, dropWhile_opening depth legal, whole]
  apply List.any_eq_true.mpr
  exact ⟨line, member, by rw [taken]; rfl⟩

theorem required_ok {block : Option Text} {rejection : Rejection} {body : Text}
    (passed : required block rejection = .ok body) : block = some body := by
  cases block with
  | none => cases passed
  | some text =>
      cases passed
      rfl

/-- What passed the checks has both nodes, and no rename took their names. -/
theorem verifyOutput_untouched {tree : Tree} {symbols : List Text}
    {renames : List (Text × Text)} {phandle : Option Nat}
    (passed : verifyOutput tree.page symbols renames phandle = .ok ()) :
    ∀ names ∈ renames, names.1 ≠ sinkName ∧ names.1 ≠ symbolsNode := by
  unfold verifyOutput at passed
  obtain ⟨produced, table, passed⟩ := (bind_eq_ok _ _ _).mp passed
  obtain ⟨_, _, passed⟩ := (bind_eq_ok _ _ _).mp passed
  obtain ⟨_, renamed, passed⟩ := (bind_eq_ok _ _ _).mp passed
  obtain ⟨body, sink, _⟩ := (bind_eq_ok _ _ _).mp passed
  have sinkThere := block_survives (by decide) (required_ok sink)
  have tableThere := block_survives (by decide) (required_ok table)
  intro names member
  have gone := (forM_eq_ok).mp renamed names member
  unfold verifyRename at gone
  obtain ⟨_, absent, _⟩ := (bind_eq_ok _ _ _).mp gone
  have missing := (refuseIf_eq_ok _ _ _).mp absent
  constructor
  · intro same
    rw [same] at missing
    exact missing sinkThere
  · intro same
    rw [same] at missing
    exact missing tableThere

/-! ### The run -/

/-- What the tool declares: without the two nodes, and with the renames undone, the output
is the boot tree; the symbols are what the inputs name; the sink's phandle is new. -/
structure Exported {Path : Type} (files : Files Path) (options : Options Path)
    (boot output : Tree) (renames : List (Text × Text)) (stripped : Nodes)
    (phandle : Option Nat) (symbols : List Text) : Prop where
  reserved : output.reserved = boot.reserved
  root : output.properties = boot.properties
  nodes : output.below = stripped.append (added phandle symbols)
  undone : Chain (undo renames) stripped boot.below
  once : symbols.Nodup
  union : ∀ name, name ∈ symbols ↔ Wanted files options name
  explicit : phandle.isSome = options.sinkPhandle
  fresh : ∀ value, phandle = some value → value ∉ boot.phandles

theorem renameNodes_specs {specs : List Text} {page final : Page}
    {renames : List (Text × Text)} (passed : renameNodes page specs = .ok (final, renames)) :
    specs.mapM splitSpec = .ok renames := by
  induction specs generalizing page renames with
  | nil =>
      cases passed
      rfl
  | cons spec rest ih =>
      rw [renameNodes] at passed
      obtain ⟨names, split, passed⟩ := (bind_eq_ok _ _ _).mp passed
      obtain ⟨next, _, passed⟩ := (bind_eq_ok _ _ _).mp passed
      obtain ⟨⟨lastPage, others⟩, finished, passed⟩ := (bind_eq_ok _ _ _).mp passed
      cases (pure_eq_ok _ _).mp passed
      rw [List.mapM_cons, split, ih finished]
      rfl

theorem wanted_legal {Path : Type} {files : Files Path} {options : Options Path}
    (plain : PlainInputs files options) {name : Text} (wanted : Wanted files options name) :
    (symbolProperty name).legal = true := by
  have value : (some quotedPath).all legalValue = true := by decide
  have legal : ∀ {node : Text} {tree : Tree}, Plain node tree → name ∈ labels node tree →
      (!name.isEmpty && name.all nameChar) = true := by
    intro node tree flat member
    obtain ⟨properties, first, below, _⟩ := flat
    rw [labels, below] at member
    obtain ⟨property, inside, same⟩ := List.mem_map.mp member
    have fine := List.all_eq_true.mp (find_legal tree.belowLegal first) property inside
    rw [Property.legal, Bool.and_eq_true, same] at fine
    exact fine.1
  have named : (!name.isEmpty && name.all nameChar) = true := by
    rcases wanted with ⟨path, tree, overlay, decoded, member⟩ | ⟨path, tree, given, decoded, member⟩
    · exact legal (plain.overlays path tree overlay decoded) member
    · exact legal (plain.bases path tree given decoded) member
  show (!name.isEmpty && name.all nameChar && (some quotedPath).all legalValue) = true
  rw [named, value]
  rfl

/-- The tree with these nodes below its root. -/
def Tree.withNodes (tree : Tree) (nodes : Nodes) (legal : nodes.legal = true) : Tree :=
  { tree with below := nodes, belowLegal := legal }

theorem exportSymbols_ok {Path : Type} [DecidableEq Path] {dtc : Dtc} {files : Files Path}
    {options : Options Path} {boot output : Tree}
    (run : exportSymbols dtc files options boot = .ok output) (plain : PlainInputs files options)
    (legal : ∀ spec ∈ options.renameNode, LegalSpec spec) :
    ∃ renames stripped phandle symbols, options.renameNode.mapM splitSpec = .ok renames ∧
      Exported files options boot output renames stripped phandle symbols := by
  unfold exportSymbols at run
  obtain ⟨symbols, united, run⟩ := (bind_eq_ok _ _ _).mp run
  obtain ⟨_, _, run⟩ := (bind_eq_ok _ _ _).mp run
  obtain ⟨once, union⟩ := symbolUnion_ok plain united
  have fine : ∀ name ∈ symbols, (symbolProperty name).legal = true :=
    fun name member => wanted_legal plain ((union name).mp member)
  obtain ⟨phandle, explicit⟩ : ∃ phandle, (if options.sinkPhandle = true then
      some (maxPhandle boot.page + 1) else none) = phandle := ⟨_, rfl⟩
  rw [explicit] at run
  dsimp only at run
  rw [insertBeforeEnd_page] at run
  obtain ⟨⟨final, renames⟩, renamed, run⟩ := (bind_eq_ok _ _ _).mp run
  obtain ⟨result, chain, resultLegal, same⟩ := renameNodes_ok renamed legal
    (indented_patched boot phandle fine)
    (Nodes.append_legal boot.belowLegal (added_legal phandle fine))
    (patched_items boot phandle fine)
  have meant : items final = items (boot.withNodes result resultLegal).page := by
    rw [same, Tree.items_page]
    rfl
  rcases dtc.exact _ _ meant with refused | compiled
  · dsimp only at run
    rw [refused] at run
    cases run
  · dsimp only at run
    rw [compiled] at run
    obtain ⟨_, verified, run⟩ := (bind_eq_ok _ _ _).mp run
    have written := (pure_eq_ok _ _).mp run
    obtain ⟨stripped, whole, kept⟩ := chain.append (verifyOutput_untouched verified)
    refine ⟨renames, stripped, phandle, symbols, renameNodes_specs renamed, ?_⟩
    rw [← written]
    constructor
    · rfl
    · rfl
    · exact whole
    · exact kept.undone
    · exact once
    · exact union
    · rw [← explicit]
      cases options.sinkPhandle with
      | false => rfl
      | true => rfl
    · intro value given member
      have bound := phandle_le_max member
      rw [given] at explicit
      split at explicit
      · have new := Option.some.inj explicit
        omega
      · cases explicit

end Liuqin.DeviceTree
