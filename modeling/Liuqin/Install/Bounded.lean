/-
No line is too long for the RAM shell.

A clean text has no single quote and only ASCII, so the outer quotes add two
characters and nothing else.  A word is quoted as itself.  What is left is to add
up the longest words of each command.
-/

import Liuqin.Install.Commands
import Liuqin.Layout.Applied

namespace Liuqin.Install.Commands

open Liuqin.Library Liuqin.Library.Lines Liuqin.Library.Checked
open Liuqin.Install.Channel (quote safe frameCommand asText Token ramShellLineBytes hush launch
  grade finish)
open Liuqin.Layout (Plan Disk Mode Info SgdiskArgument planLayout sgdiskArguments userdataName
  rootName homeName)

/-! ### Clean texts -/

def Clean (char : Char) : Prop := char ≠ '\'' ∧ char.val.toNat < 128

instance (char : Char) : Decidable (Clean char) := inferInstanceAs (Decidable (_ ∧ _))

/-- A clean text of bounded length. -/
structure Bounded (limit : Nat) (text : Text) : Prop where
  clean : ∀ char ∈ text, Clean char
  short : text.length ≤ limit

/-- A text that needs no quoting, of bounded length. -/
structure Solid (limit : Nat) (text : Text) : Prop where
  safe : ∀ char ∈ text, safe char = true
  some : text ≠ []
  short : text.length ≤ limit

theorem safe_clean {char : Char} (fine : safe char = true) : Clean char := by
  have listed : "_@%+=:,./-".toList.all (fun other => decide (Clean other)) = true := by decide
  have range : ∀ low high : Char, 39 < low.val.toNat → high.val.toNat < 128 →
      (low ≤ char && char ≤ high) = true → Clean char := by
    intro low high above below inside
    rw [Bool.and_eq_true, decide_eq_true_eq, decide_eq_true_eq] at inside
    have first : low.val.toNat ≤ char.val.toNat := UInt32.le_iff_toNat_le.mp inside.1
    have last : char.val.toNat ≤ high.val.toNat := UInt32.le_iff_toNat_le.mp inside.2
    constructor
    · intro quoted
      rw [quoted] at first
      have value : ('\'' : Char).val.toNat = 39 := rfl
      omega
    · omega
  rw [safe, Bool.or_eq_true, Bool.or_eq_true, Bool.or_eq_true] at fine
  rcases fine with ((small | large) | digit) | other
  · exact range 'a' 'z' (by decide) (by decide) small
  · exact range 'A' 'Z' (by decide) (by decide) large
  · exact range '0' '9' (by decide) (by decide) digit
  · have member := List.all_eq_true.mp listed char (List.contains_iff_mem.mp other)
    exact of_decide_eq_true member

theorem Word.solid {limit : Nat} (word : Word limit) : Solid limit word.text :=
  ⟨word.safe, word.some, word.short⟩

section Parts

variable {limit other : Nat} {one two : Text}

theorem Solid.bounded (solid : Solid limit one) : Bounded limit one where
  clean := fun char member => safe_clean (solid.safe char member)
  short := solid.short

theorem Solid.quoted (solid : Solid limit one) : quote one = one := by
  rw [quote, if_neg solid.some, if_pos (List.all_eq_true.mpr solid.safe)]

theorem Bounded.append (front : Bounded limit one) (back : Bounded other two) :
    Bounded (limit + other) (one ++ two) where
  clean := by
    intro char member
    rcases List.mem_append.mp member with early | late
    · exact front.clean char early
    · exact back.clean char late
  short := by
    have first := front.short
    have second := back.short
    rw [List.length_append]
    omega

theorem Solid.append (front : Solid limit one) (back : Solid other two) :
    Solid (limit + other) (one ++ two) where
  safe := by
    intro char member
    rcases List.mem_append.mp member with early | late
    · exact front.safe char early
    · exact back.safe char late
  some := fun nothing => front.some (List.append_eq_nil_iff.mp nothing).1
  short := by
    have first := front.short
    have second := back.short
    rw [List.length_append]
    omega

theorem Bounded.mono (bounded : Bounded limit one) (less : limit ≤ other) : Bounded other one :=
  ⟨bounded.clean, Nat.le_trans bounded.short less⟩

theorem Solid.mono (solid : Solid limit one) (less : limit ≤ other) : Solid other one :=
  ⟨solid.safe, solid.some, Nat.le_trans solid.short less⟩

end Parts

/-! Literals are checked by evaluation. -/

theorem solid_literal {limit : Nat} {text : Text}
    (checked : text.all safe = true ∧ text ≠ [] ∧ text.length ≤ limit) : Solid limit text :=
  ⟨List.all_eq_true.mp checked.1, checked.2.1, checked.2.2⟩

theorem bounded_literal {limit : Nat} {text : Text}
    (checked : text.all (fun char => decide (Clean char)) = true ∧ text.length ≤ limit) :
    Bounded limit text where
  clean := fun char member => of_decide_eq_true (List.all_eq_true.mp checked.1 char member)
  short := checked.2

/-! ### Numbers -/

theorem plain_safe {char : Char} (plain : Numerals.Plain char) : safe char = true := by
  obtain ⟨digit, bound, rfl⟩ := plain
  interval_cases digit <;> decide

theorem number_solid {value width : Nat} (positive : 0 < width) (bound : value < 10 ^ width) :
    Solid width (number value) where
  safe := fun char member => plain_safe (Numerals.numeral_plain value char member)
  some := Numerals.numeral_nonempty value
  short := Numerals.numeral_length positive bound

theorem uint64_solid (value : UInt64) : Solid 20 (number value.toNat) := by
  have bound := value.toNat_lt
  exact number_solid (by decide) (Nat.lt_trans bound (by decide))

theorem uint8_solid (value : UInt8) : Solid 3 (number value.toNat) := by
  have bound := value.toNat_lt
  exact number_solid (by decide) (Nat.lt_trans bound (by decide))

/-! ### The frame -/

/-- One byte a character, and no more than so many. -/
structure Short (limit : Nat) (text : Text) : Prop where
  ascii : Bytes.Ascii text
  short : text.length ≤ limit

theorem short_literal {limit : Nat} {text : Text}
    (checked : text.all (fun char => decide (char.val.toNat < 128)) = true ∧ text.length ≤ limit) :
    Short limit text where
  ascii := fun char member => of_decide_eq_true (List.all_eq_true.mp checked.1 char member)
  short := checked.2

theorem Short.append {limit other : Nat} {one two : Text} (front : Short limit one)
    (back : Short other two) : Short (limit + other) (one ++ two) where
  ascii := by
    intro char member
    rcases List.mem_append.mp member with early | late
    · exact front.ascii char early
    · exact back.ascii char late
  short := by
    have first := front.short
    have second := back.short
    rw [List.length_append]
    omega

theorem Bounded.plain {limit : Nat} {text : Text} (bounded : Bounded limit text) :
    Short limit text :=
  ⟨fun char member => (bounded.clean char member).2, bounded.short⟩

/-- In a clean text nothing is escaped. -/
theorem escaped_clean {text : Text} (clean : ∀ char ∈ text, Clean char) :
    text.flatMap (fun char => if char = '\'' then "'\"'\"'".toList else [char]) = text := by
  induction text with
  | nil => rfl
  | cons char rest ih =>
      have first := clean char List.mem_cons_self
      have others := ih (fun other member => clean other (List.mem_cons_of_mem _ member))
      rw [List.flatMap_cons, if_neg first.1, others]
      rfl

theorem Bounded.quoted {limit : Nat} {text : Text} (bounded : Bounded limit text) :
    Short (limit + 2) (quote text) := by
  unfold quote
  split
  · have nothing : Short 2 "''".toList := short_literal (by decide)
    exact ⟨nothing.ascii, Nat.le_trans nothing.short (by omega)⟩
  · split
    · exact ⟨bounded.plain.ascii, Nat.le_trans bounded.short (by omega)⟩
    · rw [escaped_clean bounded.clean]
      have mark : Short 1 ['\''] := short_literal (by decide)
      have whole := (mark.append bounded.plain).append mark
      exact ⟨whole.ascii, Nat.le_trans whole.short (by omega)⟩

/-- What the fixed parts of the input line come to. -/
theorem frame_parts : hush.length + launch.length + grade.length + finish.length = 79 := by
  decide +kernel

theorem frameCommand_fits {text start stop : Text} (clean : Bounded 854 text)
    (front : Solid 45 start) (back : Solid 43 stop) :
    ∃ line, frameCommand text start stop = .ok line ∧ line.length ≤ ramShellLineBytes := by
  have one : Short hush.length hush := short_literal (by decide +kernel)
  have two : Short launch.length launch := short_literal (by decide +kernel)
  have three : Short grade.length grade := short_literal (by decide +kernel)
  have four : Short finish.length finish := short_literal (by decide +kernel)
  have whole := (((((one.append front.bounded.plain).append two).append clean.quoted).append
    three).append back.bounded.plain).append four
  have sum := frame_parts
  have length := (Bytes.encode_length_ascii _).mpr whole.ascii
  have short := whole.short
  have limit : ramShellLineBytes = 1023 := rfl
  rw [frameCommand, front.quoted, back.quoted]
  refine ⟨_, if_neg ?_, ?_⟩
  · omega
  · omega

/-! ### The markers -/

theorem hexByte_safe {byte : UInt8} (hex : Channel.hexByte byte = true) :
    safe (Char.ofNat byte.toNat) = true := by
  have digits : ∀ value, 48 ≤ value → value ≤ 57 → safe (Char.ofNat value) = true := by
    intro value low high
    interval_cases value <;> decide
  have letters : ∀ value, 97 ≤ value → value ≤ 102 → safe (Char.ofNat value) = true := by
    intro value low high
    interval_cases value <;> decide
  rw [Channel.hexByte, Bool.or_eq_true] at hex
  rcases hex with digit | letter
  · rw [Channel.digitByte, Bool.and_eq_true, decide_eq_true_eq, decide_eq_true_eq] at digit
    exact digits _ (UInt8.le_iff_toNat_le.mp digit.1) (UInt8.le_iff_toNat_le.mp digit.2)
  · rw [Bool.and_eq_true, decide_eq_true_eq, decide_eq_true_eq] at letter
    exact letters _ (UInt8.le_iff_toNat_le.mp letter.1) (UInt8.le_iff_toNat_le.mp letter.2)

theorem token_solid (token : Token) {mark : Bytes} {limit : Nat}
    (fine : (asText mark).all safe = true) (length : mark.length + 39 ≤ limit) :
    Solid limit (asText (token.text ++ mark)) where
  safe := by
    intro char member
    rw [asText, Token.text, List.map_append, List.map_append] at member
    rcases List.mem_append.mp member with early | late
    · rcases List.mem_append.mp early with name | uuid
      · have named : (asText [76, 73, 85, 81, 73, 78, 95]).all safe = true := by decide
        exact List.all_eq_true.mp named char name
      · obtain ⟨byte, inside, rfl⟩ := List.mem_map.mp uuid
        exact hexByte_safe (token.hex byte inside)
    · exact List.all_eq_true.mp fine char late
  some := by
    intro nothing
    cases nothing
  short := by
    have uuid := token.length
    rw [asText, List.length_map, List.length_append, Token.text, List.length_append, uuid]
    show 7 + 32 + mark.length ≤ limit
    omega

theorem start_solid (token : Token) : Solid 45 (asText token.start) := by
  apply token_solid
  · decide
  · decide

theorem stop_solid (token : Token) : Solid 43 (asText token.stop) := by
  apply token_solid
  · decide
  · decide

/-! ### Rows of words -/

/-- Solid words that take no more than so many characters with a blank behind each. -/
inductive Row : Nat → List Text → Prop where
  | nil (limit : Nat) : Row limit []
  | cons {limit rest : Nat} {word : Text} {words : List Text} (first : Solid limit word)
      (others : Row rest words) : Row (limit + 1 + rest) (word :: words)

theorem Row.mono {limit other : Nat} {words : List Text} (row : Row limit words)
    (less : limit ≤ other) : Row other words := by
  induction row generalizing other with
  | nil => exact .nil other
  | @cons size rest word words first others ih =>
      have room : rest ≤ other - (size + 1) := by omega
      have row := Row.cons first (ih room)
      have same : size + 1 + (other - (size + 1)) = other := by omega
      rw [same] at row
      exact row

theorem Row.append {limit other : Nat} {front back : List Text} (first : Row limit front)
    (second : Row other back) : Row (limit + other) (front ++ back) := by
  induction first with
  | nil => exact second.mono (by omega)
  | cons word others ih =>
      rw [Nat.add_assoc]
      exact .cons word ih

theorem Row.when {limit : Nat} {words : List Text} (row : Row limit words) (condition : Prop)
    [Decidable condition] : Row limit (if condition then words else []) := by
  by_cases holds : condition
  · rw [if_pos holds]
    exact row
  · rw [if_neg holds]
    exact .nil limit

theorem blank_bounded : Bounded 1 [' '] := bounded_literal (by decide)

/-- Solid words are joined as they are. -/
theorem join_bounded {limit : Nat} {words : List Text} (row : Row limit words) :
    Bounded limit (join words) := by
  induction row with
  | nil =>
      constructor
      · intro char member
        cases member
      · exact Nat.zero_le _
  | @cons size rest word words first others ih =>
      cases words with
      | nil =>
          have whole : join [word] = word := by
            rw [join, List.map_singleton, List.intercalate_singleton, first.quoted]
          rw [whole]
          exact first.bounded.mono (by omega)
      | cons next more =>
          have whole : join (word :: next :: more) = word ++ ([' '] ++ join (next :: more)) := by
            unfold join
            rw [List.map_cons, List.map_cons, List.intercalate_cons_cons, first.quoted,
              List.append_assoc]
          rw [whole]
          exact (first.bounded.append (blank_bounded.append ih)).mono (by omega)

/-! ### The arguments of sgdisk -/

theorem text_number (value : Nat) : (toString value).toList = number value :=
  Numerals.toList_toString value

theorem text_sector {sector : Int} (positive : 0 ≤ sector) :
    (toString sector).toList = number sector.toNat := by
  obtain ⟨value, rfl⟩ := Int.eq_ofNat_of_zero_le positive
  exact text_number value

theorem index_solid {value : Nat} (bound : value < 2 ^ 64) : Solid 20 (number value) :=
  number_solid (by decide) (Nat.lt_trans bound (by decide))

/-- A number that is a small literal. -/
theorem small_solid {value : Nat} (bound : value < 100) : Solid 2 (number value) :=
  number_solid (by decide) bound

section Arguments

variable {limit : Nat} {number : Nat} (numbered : Solid limit (Commands.number number))

include numbered

theorem new_solid {first last : Int} (firstBound : 0 ≤ first ∧ first < 2 ^ 64)
    (lastBound : 0 ≤ last ∧ last < 2 ^ 64) :
    Solid (limit + 48) (SgdiskArgument.new number first last).text.toList := by
  have option : Solid 6 "--new=".toList := solid_literal (by decide)
  have colon : Solid 1 ":".toList := solid_literal (by decide)
  have one : Solid 20 (Commands.number first.toNat) := index_solid (by omega)
  have two : Solid 20 (Commands.number last.toNat) := index_solid (by omega)
  have whole := ((((option.append numbered).append colon).append one).append colon).append two
  have same : (SgdiskArgument.new number first last).text =
      "--new=" ++ toString number ++ ":" ++ toString first ++ ":" ++ toString last := rfl
  rw [same, String.toList_append, String.toList_append, String.toList_append,
    String.toList_append, String.toList_append, text_number, text_sector firstBound.1,
    text_sector lastBound.1]
  exact whole.mono (by omega)

theorem typecode_solid {width : Nat} {code : String} (word : Solid width code.toList) :
    Solid (limit + width + 12) (SgdiskArgument.typecode number code).text.toList := by
  have option : Solid 11 "--typecode=".toList := solid_literal (by decide)
  have colon : Solid 1 ":".toList := solid_literal (by decide)
  have whole := ((option.append numbered).append colon).append word
  have same : (SgdiskArgument.typecode number code).text =
      "--typecode=" ++ toString number ++ ":" ++ code := rfl
  rw [same, String.toList_append, String.toList_append, String.toList_append,
    text_number]
  exact whole.mono (by omega)

theorem partitionGuid_solid {width : Nat} {guid : String} (word : Solid width guid.toList) :
    Solid (limit + width + 18) (SgdiskArgument.partitionGuid number guid).text.toList := by
  have option : Solid 17 "--partition-guid=".toList := solid_literal (by decide)
  have colon : Solid 1 ":".toList := solid_literal (by decide)
  have whole := ((option.append numbered).append colon).append word
  have same : (SgdiskArgument.partitionGuid number guid).text =
      "--partition-guid=" ++ toString number ++ ":" ++ guid := rfl
  rw [same, String.toList_append, String.toList_append, String.toList_append,
    text_number]
  exact whole.mono (by omega)

theorem changeName_solid {width : Nat} {name : String} (word : Solid width name.toList) :
    Solid (limit + width + 15) (SgdiskArgument.changeName number name).text.toList := by
  have option : Solid 14 "--change-name=".toList := solid_literal (by decide)
  have colon : Solid 1 ":".toList := solid_literal (by decide)
  have whole := ((option.append numbered).append colon).append word
  have same : (SgdiskArgument.changeName number name).text =
      "--change-name=" ++ toString number ++ ":" ++ name := rfl
  rw [same, String.toList_append, String.toList_append, String.toList_append,
    text_number]
  exact whole.mono (by omega)

theorem attributes_solid {width : Nat} {flags : String} (word : Solid width flags.toList) :
    Solid (limit + width + 16) (SgdiskArgument.attributes number flags).text.toList := by
  have option : Solid 13 "--attributes=".toList := solid_literal (by decide)
  have colon : Solid 3 ":=:".toList := solid_literal (by decide)
  have whole := ((option.append numbered).append colon).append word
  have same : (SgdiskArgument.attributes number flags).text =
      "--attributes=" ++ toString number ++ ":=:" ++ flags := rfl
  rw [same, String.toList_append, String.toList_append, String.toList_append,
    text_number]
  exact whole.mono (by omega)

theorem delete_solid : Solid (limit + 9) (SgdiskArgument.delete number).text.toList := by
  have option : Solid 9 "--delete=".toList := solid_literal (by decide)
  have whole := option.append numbered
  have same : (SgdiskArgument.delete number).text =
      "--delete=" ++ toString number := rfl
  rw [same, String.toList_append, text_number]
  exact whole.mono (by omega)

end Arguments

theorem setAlignment_solid : Solid 17 (SgdiskArgument.setAlignment 1).text.toList :=
  solid_literal (by decide)

theorem create_row {item : Layout.Entry} {sector : Int} {width : Nat}
    (few : item.number < 100) (named : Solid width item.name.toList)
    (firstBound : 0 ≤ item.firstSector sector ∧ item.firstSector sector < 2 ^ 64)
    (lastBound : 0 ≤ item.lastSector sector ∧ item.lastSector sector < 2 ^ 64) :
    Row (width + 88) ((Layout.createArguments sector item).map (fun item => item.text.toList)) := by
  have numbered := small_solid few
  have code : Solid 4 Layout.linuxTypecode.toList := solid_literal (by decide)
  have row := Row.cons (new_solid numbered firstBound lastBound) (.cons
    (typecode_solid numbered code) (.cons (changeName_solid numbered named) (.nil 0)))
  exact row.mono (by omega)

theorem shrink_row {item : Layout.Entry} {sector : Int} {info : Info}
    (few : item.number < 2 ^ 64)
    (firstBound : 0 ≤ item.firstSector sector ∧ item.firstSector sector < 2 ^ 64)
    (lastBound : 0 ≤ item.lastSector sector ∧ item.lastSector sector < 2 ^ 64)
    (typecode : Solid 36 info.typecode.toList) (guid : Solid 36 info.guid.toList)
    (attributes : Solid 16 info.attributes.toList) :
    Row 310 ((Layout.shrinkArguments sector item info).map (fun item => item.text.toList)) := by
  have numbered := index_solid few
  have named : Solid 8 userdataName.toList := solid_literal (by decide)
  have row := Row.cons (new_solid numbered firstBound lastBound) (.cons
    (typecode_solid numbered typecode) (.cons (partitionGuid_solid numbered guid) (.cons
    (changeName_solid numbered named) (.cons (attributes_solid numbered attributes) (.nil 0)))))
  exact row.mono (by omega)

/-! ### The whole sgdisk line -/

theorem planLayout_entries {disk : Disk} {mode : Mode} {android root : Int} {keepHome : Bool}
    {plan : Plan} (planned : planLayout disk mode android root keepHome = .ok plan) :
    ∃ userdata cursor rootEnd, plan.entries =
      [Layout.userdataEntry userdata userdata.start disk.usableEnd android,
        Layout.rootEntry cursor rootEnd, Layout.homeEntry rootEnd disk.usableEnd] := by
  unfold planLayout at planned
  obtain ⟨found, _, planned⟩ := (bind_eq_ok _ _ _).mp planned
  cases found with
  | none => cases planned
  | some userdata =>
      simp only [bind_eq_ok, pure_eq_ok] at planned
      obtain ⟨_, _, _, _, _, _, _, _, _, _, _, _, same⟩ := planned
      exact ⟨userdata, _, _, by rw [← same]⟩

theorem sgdiskArguments_parts {plan : Plan} {first second third : Layout.Entry} {info : Info}
    {device : String} {arguments : List SgdiskArgument}
    (entries : plan.entries = [first, second, third]) (named : first.name = userdataName)
    (secondOther : second.name ≠ userdataName) (thirdOther : third.name ≠ userdataName)
    (rendered : sgdiskArguments plan device info = .ok arguments) :
    arguments = [.setAlignment 1, .delete first.number] ++
      (if first.action ≠ .delete then
        Layout.shrinkArguments plan.disk.sectorSize first info else []) ++
      (Layout.createArguments plan.disk.sectorSize second ++
        Layout.createArguments plan.disk.sectorSize third) ++ [.device device] := by
  have found : plan.entry userdataName = some first := by
    simp [Plan.entry, entries, named]
  simp only [sgdiskArguments, found, bind_eq_ok, pure_eq_ok] at rendered
  obtain ⟨_, _, same⟩ := rendered
  rw [← same]
  simp [entries, named, secondOther, thirdOther]

theorem edit_row (edit : Edit) :
    Row 591 (edit.arguments.map (fun argument => argument.text.toList)) := by
  obtain ⟨userdata, cursor, rootEnd, entries⟩ := planLayout_entries edit.planned
  have parts := sgdiskArguments_parts entries (Layout.userdataEntry_name _ _ _ _)
    (show rootName ≠ userdataName by decide) (show homeName ≠ userdataName by decide)
    edit.rendered
  obtain ⟨typecode, typed⟩ := edit.typecode
  obtain ⟨guid, identified⟩ := edit.guid
  obtain ⟨attributes, flagged⟩ := edit.attributes
  have member : ∀ item, item ∈ [Layout.userdataEntry userdata userdata.start edit.disk.usableEnd
      edit.android, Layout.rootEntry cursor rootEnd, Layout.homeEntry rootEnd
      edit.disk.usableEnd] → item ∈ edit.plan.entries := by
    intro item inside
    rw [entries]
    exact inside
  have first := member _ List.mem_cons_self
  have second := member _ (List.mem_cons_of_mem _ List.mem_cons_self)
  have third := member _ (List.mem_cons_of_mem _ (List.mem_cons_of_mem _ List.mem_cons_self))
  have numbered := index_solid (edit.numbers _ first)
  have shrink := shrink_row (edit.numbers _ first)
    ⟨(edit.sectors _ first).1, (edit.sectors _ first).2.1⟩ (edit.sectors _ first).2.2
    (typed ▸ typecode.solid) (identified ▸ guid.solid) (flagged ▸ attributes.solid)
  have rootFew : (Layout.rootEntry cursor rootEnd).number < 100 :=
    show Layout.rootNumber < 100 by decide
  have homeFew : (Layout.homeEntry rootEnd edit.disk.usableEnd).number < 100 :=
    show Layout.homeNumber < 100 by decide
  have rootNamed : Solid 10 rootName.toList := solid_literal (by decide)
  have homeNamed : Solid 10 homeName.toList := solid_literal (by decide)
  have root := create_row rootFew rootNamed
    ⟨(edit.sectors _ second).1, (edit.sectors _ second).2.1⟩ (edit.sectors _ second).2.2
  have home := create_row homeFew homeNamed
    ⟨(edit.sectors _ third).1, (edit.sectors _ third).2.1⟩ (edit.sectors _ third).2.2
  have directory : Solid 5 "/dev/".toList := solid_literal (by decide)
  have device := directory.append edit.node.solid
  have path : (SgdiskArgument.device (String.ofList ("/dev/".toList ++ edit.node.text))).text.toList =
      "/dev/".toList ++ edit.node.text := String.toList_ofList
  have front := Row.cons setAlignment_solid (.cons (delete_solid numbered) (.nil 0))
  have back := Row.cons (path ▸ device) (.nil 0)
  have whole := ((front.append (shrink.when
    ((Layout.userdataEntry userdata userdata.start edit.disk.usableEnd edit.android).action ≠
      .delete))).append (root.append home)).append back
  rw [parts, List.map_append, List.map_append, List.map_append, List.map_append, apply_ite
    (List.map (fun argument : SgdiskArgument => argument.text.toList))]
  exact whole.mono (by omega)

/-! ### What sgdisk prints of an entry -/

theorem digitChar_safe {digit : Nat} (bound : digit < 16) : safe (Hex.digitChar digit) = true := by
  interval_cases digit <;> decide

theorem encode_safe (width value : Nat) : ∀ char ∈ Hex.encode width value, safe char = true := by
  intro char member
  obtain ⟨digit, bound, rfl⟩ := Hex.encode_mem width value char member
  exact digitChar_safe bound

theorem Solid.word {limit : Nat} {text : Text} (solid : Solid limit text) :
    ∃ word : Word limit, text = word.text :=
  ⟨⟨text, solid.safe, solid.some, solid.short⟩, rfl⟩

theorem guidText_word (guid : Layout.Guid) :
    ∃ word : Word 36, (Layout.guidText guid).toList = word.text := by
  have length : (Layout.guidText guid).toList.length = 36 := by
    rw [Layout.guidText, String.toList_ofList, Hex.grouped_length, Hex.encode_length]
    rfl
  have fine : ∀ char ∈ (Layout.guidText guid).toList, safe char = true := by
    intro char member
    rw [Layout.guidText, String.toList_ofList] at member
    rcases Hex.grouped_mem char member with rfl | digit
    · decide
    · exact encode_safe _ _ char digit
  exact Solid.word ⟨fine, List.ne_nil_of_length_pos (by omega), length.le⟩

theorem attributesText_word (attributes : Layout.Attributes) :
    ∃ word : Word 16, (Layout.attributesText attributes).toList = word.text := by
  have length : (Layout.attributesText attributes).toList.length = 16 := by
    rw [Layout.attributesText, String.toList_ofList, Hex.encode_length]
  have fine : ∀ char ∈ (Layout.attributesText attributes).toList, safe char = true := by
    intro char member
    rw [Layout.attributesText, String.toList_ofList] at member
    exact encode_safe _ _ char member
  exact Solid.word ⟨fine, List.ne_nil_of_length_pos (by omega), length.le⟩

/-- So an edit may carry what is printed of any entry. -/
theorem info_words (entry : Layout.GptEntry) :
    (∃ word : Word 36, entry.info.typecode.toList = word.text) ∧
    (∃ word : Word 36, entry.info.guid.toList = word.text) ∧
    ∃ word : Word 16, entry.info.attributes.toList = word.text :=
  ⟨guidText_word entry.typecode, guidText_word entry.guid, attributesText_word entry.attributes⟩

/-! ### The installation of the root -/

theorem address_solid (address : Address) : Solid 15 address.text := by
  have dot : Solid 1 ['.'] := solid_literal (by decide)
  have third := (uint8_solid address.third).append (dot.append (uint8_solid address.fourth))
  have second := (uint8_solid address.second).append (dot.append third)
  exact (uint8_solid address.first).append (dot.append second)

theorem baseUrl_solid (address : Address) (port : UInt16) : Solid 28 (baseUrl address port) := by
  have scheme : Solid 7 "http://".toList := solid_literal (by decide)
  have colon : Solid 1 [':'] := solid_literal (by decide)
  have bound := port.toNat_lt
  have digits : Solid 5 (number port.toNat) :=
    number_solid (by decide) (Nat.lt_trans bound (by decide))
  exact scheme.append ((address_solid address).append (colon.append digits))

theorem switchStore_row {base : Text} (solid : Solid 28 base) (ubuntu android : Image) :
    Row 284 (switchStoreArguments base ubuntu android) := by
  have option : Solid 12 "SWITCH-STORE".toList := solid_literal (by decide)
  have one : Solid 6 "ubuntu".toList := solid_literal (by decide)
  have two : Solid 7 "android".toList := solid_literal (by decide)
  have boot : Solid 9 "/boot.img".toList := solid_literal (by decide)
  have androidBoot : Solid 17 "/android-boot.img".toList := solid_literal (by decide)
  have row := Row.cons option (.cons one (.cons (solid.append boot) (.cons ubuntu.sha256.solid
    (.cons (uint64_solid ubuntu.bytes) (.cons two (.cons (solid.append androidBoot)
    (.cons android.sha256.solid (.cons (uint64_solid android.bytes) (.nil 0)))))))))
  exact row.mono (by omega)

theorem installRoot_row (bootId : BootId) (installation : Installation) :
    Row 558 (installRootCommand bootId installation) := by
  have shell : Solid 2 "sh".toList := solid_literal (by decide)
  have script : Solid 31 "/usr/lib/liuqin/install-root.sh".toList := solid_literal (by decide)
  have archive : Solid 14 "/rootfs.tar.gz".toList := solid_literal (by decide)
  have phrase : Solid 21 "ERASE-LIUQIN-USERDATA".toList := solid_literal (by decide)
  have root : Solid 10 "linux_root".toList := solid_literal (by decide)
  have home : Solid 10 "linux_home".toList := solid_literal (by decide)
  have rescue : Solid 17 "ENABLE-USB-RESCUE".toList := solid_literal (by decide)
  have keep : Solid 9 "KEEP-HOME".toList := solid_literal (by decide)
  have base := baseUrl_solid installation.address installation.port
  have fixed := Row.cons shell (.cons script (.cons bootId.solid (.cons (base.append archive)
    (.cons installation.archive.sha256.solid (.cons (uint64_solid installation.archive.bytes)
    (.cons phrase (.cons root (.cons home (.nil 0)))))))))
  have options := (fixed.append ((Row.cons rescue (.nil 0)).when (installation.enableRescue = true))
    ).append ((Row.cons keep (.nil 0)).when (installation.keepHome = true))
  unfold installRootCommand
  cases store : installation.store with
  | none => exact (options.append (.nil 0)).mono (by omega)
  | some images =>
      exact (options.append (switchStore_row base images.1 images.2)).mono (by omega)

/-! ### Every command -/

theorem layoutCall_bounded (bootId : BootId) {limit : Nat} {arguments : List Text}
    (row : Row limit arguments) : Bounded (limit + 74) (layoutCall bootId arguments) := by
  have shell : Solid 2 "sh".toList := solid_literal (by decide)
  have script : Solid 33 "/usr/lib/liuqin/install-layout.sh".toList := solid_literal (by decide)
  have front := Row.cons shell (.cons script (.cons bootId.solid (.nil 0)))
  exact join_bounded ((front.append row).mono (by omega))

theorem Half.solid (half : Half) : Solid 4 half.text := by
  cases half with
  | head => exact solid_literal (by decide)
  | tail => exact solid_literal (by decide)

theorem anchor_solid : Solid 7 anchor := solid_literal (by decide)

theorem partlabel_solid (name : PartitionName) : Solid 59 (partlabel name) := by
  have directory : Solid 23 "/dev/disk/by-partlabel/".toList := solid_literal (by decide)
  exact directory.append name.solid

theorem blobPath_bounded (half : Half) : Bounded 40 (blobPath half) := by
  have directory : Solid 18 layoutWork := solid_literal (by decide)
  have name : Solid 12 "/liuqin-gpt-".toList := solid_literal (by decide)
  have suffix : Solid 4 ".b64".toList := solid_literal (by decide)
  exact (directory.append (name.append (half.solid.append suffix))).bounded.mono (by omega)

theorem base64_safe {char : Char} (member : base64 char = true) : safe char = true := by
  rw [base64, Bool.or_eq_true, Bool.or_eq_true, Bool.or_eq_true] at member
  rw [safe, Bool.or_eq_true, Bool.or_eq_true, Bool.or_eq_true]
  rcases member with ((large | small) | digit) | other
  · exact .inl (.inl (.inr large))
  · exact .inl (.inl (.inl small))
  · exact .inl (.inr digit)
  · have listed : ['+', '/', '='].all ("_@%+=:,./-".toList.contains ·) = true := by decide
    exact .inr (List.all_eq_true.mp listed char (List.contains_iff_mem.mp other))

theorem cut_solid (blob : Blob) (index : Fin blob.text.length) :
    Solid 500 (blob.cut index.val) where
  safe := by
    intro char member
    exact base64_safe (blob.alphabet char (List.mem_of_mem_drop (List.mem_of_mem_take member)))
  some := by
    intro nothing
    have length := congrArg List.length nothing
    rw [Blob.cut, List.length_take, List.length_drop, List.length_nil] at length
    have inside := index.isLt
    omega
  short := by
    rw [Blob.cut, List.length_take]
    exact Nat.min_le_left _ _

theorem Command.text_bounded (bootId : BootId) (command : Command) :
    Bounded 766 (command.text bootId) := by
  cases command with
  | cmdline =>
      show Bounded 766 "cat /proc/cmdline".toList
      exact bounded_literal (by decide)
  | release =>
      show Bounded 766 "uname -r".toList
      exact bounded_literal (by decide)
  | reboot =>
      show Bounded 766 "(sleep 2; /usr/sbin/liuqin-reboot bootloader) >/dev/null 2>&1 &".toList
      exact bounded_literal (by decide)
  | report =>
      have verb : Solid 6 "report".toList := solid_literal (by decide)
      exact (layoutCall_bounded bootId (.cons verb (.cons anchor_solid (.nil 0)))).mono (by omega)
  | geometry =>
      have verb : Solid 8 "geometry".toList := solid_literal (by decide)
      exact (layoutCall_bounded bootId (.cons verb (.cons anchor_solid (.nil 0)))).mono (by omega)
  | backupGpt half =>
      have verb : Solid 10 "backup-gpt".toList := solid_literal (by decide)
      exact (layoutCall_bounded bootId (.cons verb (.cons anchor_solid
        (.cons half.solid (.nil 0))))).mono (by omega)
  | restoreGpt =>
      have verb : Solid 11 "restore-gpt".toList := solid_literal (by decide)
      exact (layoutCall_bounded bootId (.cons verb (.cons anchor_solid (.nil 0)))).mono (by omega)
  | info =>
      have verb : Solid 4 "info".toList := solid_literal (by decide)
      have name : Solid 8 "userdata".toList := solid_literal (by decide)
      exact (layoutCall_bounded bootId (.cons verb (.cons name (.nil 0)))).mono (by omega)
  | wipe metadata =>
      have verb : Solid 9 "wipe-head".toList := solid_literal (by decide)
      have name : Solid 8 (if metadata then "metadata".toList else "userdata".toList) := by
        cases metadata with
        | false => exact solid_literal (by decide)
        | true => exact solid_literal (by decide)
      have size : Solid 8 (number wipeBytes) := number_solid (by decide) (by decide)
      exact (layoutCall_bounded bootId (.cons verb (.cons name (.cons size (.nil 0))))).mono
        (by omega)
  | digest partition bytes =>
      have verb : Solid 6 "digest".toList := solid_literal (by decide)
      exact (layoutCall_bounded bootId (.cons verb (.cons partition.solid
        (.cons (uint64_solid bytes) (.nil 0))))).mono (by omega)
  | apply edit =>
      have verb : Solid 5 "apply".toList := solid_literal (by decide)
      have front := Row.cons verb (.cons anchor_solid (.nil 0))
      exact (layoutCall_bounded bootId (front.append (edit_row edit))).mono (by omega)
  | backup name =>
      have test : Bounded 8 "test -b ".toList := bounded_literal (by decide)
      have dump : Bounded 26 " && /bin/busybox base64 ".toList := bounded_literal (by decide)
      have device := (partlabel_solid name).bounded
      exact (test.append (device.append (dump.append device))).mono (by omega)
  | sha256sum name =>
      have tool : Bounded 23 "/bin/busybox sha256sum ".toList := bounded_literal (by decide)
      exact (tool.append (partlabel_solid name).bounded).mono (by omega)
  | size name =>
      have tool : Bounded 36 "/bin/busybox blockdev --getsize64 ".toList :=
        bounded_literal (by decide)
      have same : Command.text bootId (.size name) =
          "/bin/busybox blockdev --getsize64 ".toList ++ quote (partlabel name) := rfl
      rw [same, (partlabel_solid name).quoted]
      exact (tool.append (partlabel_solid name).bounded).mono (by omega)
  | makeWork =>
      show Bounded 766 ("mkdir -p ".toList ++ quote layoutWork)
      exact bounded_literal (by decide)
  | truncate half =>
      have redirect : Bounded 2 ":>".toList := bounded_literal (by decide)
      exact (redirect.append (blobPath_bounded half)).mono (by omega)
  | chunk half blob index =>
      have print : Bounded 10 "printf %s ".toList := bounded_literal (by decide)
      have redirect : Bounded 3 " >>".toList := bounded_literal (by decide)
      have cut := cut_solid blob index
      have same : Command.text bootId (.chunk half blob index) = "printf %s ".toList ++
          (quote (blob.cut index.val) ++ (" >>".toList ++ blobPath half)) := rfl
      rw [same, cut.quoted]
      exact (print.append (cut.bounded.append (redirect.append (blobPath_bounded half)))).mono
        (by omega)
  | endBlob half =>
      have print : Bounded 14 "printf \"\\n\" >>".toList := bounded_literal (by decide)
      exact (print.append (blobPath_bounded half)).mono (by omega)
  | installRoot installation =>
      exact (join_bounded (installRoot_row bootId installation)).mono (by omega)

/-! ### The lines -/

theorem guard_bounded (bootId : BootId) : Bounded 84 (guard bootId) := by
  have test : Bounded 48 "test \"$(cat /proc/sys/kernel/random/boot_id)\" = ".toList :=
    bounded_literal (by decide)
  unfold guard
  rw [bootId.solid.quoted]
  exact test.append bootId.solid.bounded

/-- Whatever the installer sends to the RAM shell is a line that it accepts: before
the boot id is known, and every command after that. -/
theorem lines_fit :
    (∀ token, ∃ line, identify token = .ok line ∧ line.length ≤ ramShellLineBytes) ∧
    ∀ bootId command token, ∃ line, remote bootId command token = .ok line ∧
      line.length ≤ ramShellLineBytes := by
  constructor
  · intro token
    apply frameCommand_fits _ (start_solid token) (stop_solid token)
    exact bounded_literal (by decide)
  · intro bootId command token
    have both : Bounded 4 " && ".toList := bounded_literal (by decide)
    have whole := (guard_bounded bootId).append (both.append (command.text_bounded bootId))
    exact frameCommand_fits (whole.mono (by omega)) (start_solid token) (stop_solid token)

end Liuqin.Install.Commands
