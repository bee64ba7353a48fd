/-
Which rows of the table report the pattern takes.

A row has six words before its name.  With a name, each column is read as it was
printed; without one the pattern, which wants seven words, refuses the row.
-/

import Liuqin.Layout.Report

namespace Liuqin.Layout.Report

open Liuqin.Library.Lines
open Liuqin.Library.Numerals
open Liuqin.Library.Regex

/-! ### Columns -/

section Columns

variable {β : Type} {passed rest : Text} {result : β}
  {next : Cursor Char → List Text → Option β}

theorem run_blanks {gap : Text} (some_gap : gap ≠ []) (spaces : ∀ char ∈ gap, isSpace char = true)
    (starts : ∀ char, rest.head? = some char → isSpace char = false)
    (behind : next ⟨gap.reverse ++ passed, rest⟩ [] = some result) :
    run blanks ⟨passed, gap ++ rest⟩ next = some result :=
  run_several some_gap spaces starts behind

theorem run_mayBlank {gap : Text} (spaces : ∀ char ∈ gap, isSpace char = true)
    (starts : ∀ char, rest.head? = some char → isSpace char = false)
    (behind : next ⟨gap.reverse ++ passed, rest⟩ [] = some result) :
    run mayBlank ⟨passed, gap ++ rest⟩ next = some result :=
  run_many spaces starts behind

/-- A number that what follows it ends. -/
theorem run_number {value : Nat}
    (stops : ∀ char, rest.head? = some char → isDigit char = false)
    (behind : next ⟨(numeral value).reverse ++ passed, rest⟩ [numeral value] = some result) :
    run (.group digits) ⟨passed, numeral value ++ rest⟩ next = some result := by
  rw [run_group]
  apply run_several (numeral_nonempty value) (numeral_digits value) stops
  rw [until_advance]
  exact behind

/-- A number and the gap behind it. -/
theorem run_column {gap : Text} {value : Nat} {more : Pattern Char} (between : Gap gap)
    (starts : ∀ char, rest.head? = some char → isSpace char = false)
    (behind : run more ⟨gap.reverse ++ ((numeral value).reverse ++ passed), rest⟩
      (fun later groups => next later (numeral value :: groups)) = some result) :
    run (.seq (.group digits) (.seq blanks more))
      ⟨passed, numeral value ++ (gap ++ rest)⟩ next = some result := by
  rw [run_seq]
  apply run_number (between.stops rfl)
  rw [run_seq]
  apply run_blanks between.some_gap between.spaces starts
  exact behind

theorem run_size {row : Row} {more : Pattern Char}
    (behind : run more ⟨(numeral row.size ++ row.decimal).reverse ++ passed, [' '] ++ rest⟩ next =
      some result) :
    run (.seq digits (.seq (.option (.seq (.one (fun char => decide (char = '.'))) digits)) more))
      ⟨passed, numeral row.size ++ (row.decimal ++ ([' '] ++ rest))⟩ next = some result := by
  rw [List.reverse_append, List.append_assoc] at behind
  have space : isDigit ' ' = false := rfl
  rw [run_seq]
  apply run_several (numeral_nonempty _) (numeral_digits _)
  · intro char head
    cases tenth : row.tenth with
    | none =>
        rw [Row.decimal, tenth] at head
        injection head with head
        rw [← head]
        rfl
    | some value =>
        rw [Row.decimal, tenth] at head
        injection head with head
        rw [← head]
        rfl
  · rw [run_seq]
    cases tenth : row.tenth with
    | none =>
        rw [Row.decimal, tenth] at behind ⊢
        apply run_skipped
        · rfl
        · exact behind
    | some value =>
        rw [Row.decimal, tenth, List.reverse_cons, List.append_assoc] at behind
        rw [Row.decimal, tenth]
        apply run_option
        rw [run_seq, List.cons_append, run_taken (by rfl)]
        apply run_several (numeral_nonempty value) (numeral_digits value) (gap_one.stops space)
        exact behind

theorem run_word {word gap : Text} {more : Pattern Char} (some_word : word ≠ [])
    (all : word.all solid = true) (between : Gap gap)
    (starts : ∀ char, rest.head? = some char → isSpace char = false)
    (behind : run more ⟨gap.reverse ++ (word.reverse ++ passed), rest⟩ next = some result) :
    run (.seq (several solid) (.seq blanks more)) ⟨passed, word ++ (gap ++ rest)⟩ next =
      some result := by
  rw [run_seq]
  apply run_several some_word (List.all_eq_true.mp all) (between.stops rfl)
  rw [run_seq]
  apply run_blanks between.some_gap between.spaces starts
  exact behind

theorem run_code {code : Text} (four : code.length = 4) (hex : code.all isHex = true)
    (behind : next ⟨code.reverse ++ passed, rest⟩ [] = some result) :
    run codeDigits ⟨passed, code ++ rest⟩ next = some result := by
  have all := List.all_eq_true.mp hex
  match code, four with
  | [one, two, three, four], _ =>
      have first := all one (by simp)
      have second := all two (by simp)
      have third := all three (by simp)
      have fourth := all four (by simp)
      simp only [codeDigits, Pattern.all, run_seq, List.cons_append, run_taken first,
        run_taken second, run_taken third, run_taken fourth]
      exact behind

/-- The end of a row: blanks at most, and nothing after them. -/
theorem run_rest_none {char : Char} (listed : char ∈ rest) (visible : isSpace char = false) :
    run (.seq mayBlank (.seq (.finish isNewline) .nothing)) ⟨passed, rest⟩ next = none := by
  cases found : run (.seq mayBlank (.seq (.finish isNewline) .nothing)) ⟨passed, rest⟩ next with
  | none => rfl
  | some result =>
      obtain ⟨text, left, groups, same, spelt, _⟩ := run_sound found
      obtain ⟨front, back, _, _, rfl, _, taken, ended⟩ := spells_seq.mp spelt
      obtain ⟨one, two, _, _, rfl, _, finish, nothing⟩ := spells_seq.mp ended
      obtain ⟨rfl, here, _⟩ := spells_finish.mp finish
      obtain ⟨rfl, _⟩ := spells_nothing.mp nothing
      have spaces := (spells_many.mp taken).1
      rw [same, List.append_nil, List.append_nil] at listed
      rcases List.mem_append.mp listed with early | late
      · rw [spaces char early] at visible
        cases visible
      · match left, here, late with
        | [only], here, late =>
            have newline : only = '\n' := of_decide_eq_true here
            rw [List.mem_singleton.mp late, newline] at visible
            cases visible

/-- A name that neither begins nor ends with a blank, up to the end of the row. -/
theorem run_name {core trail : Text} (some_core : core ≠ [])
    (starts : ∀ char, core.head? = some char → isSpace char = false)
    (ends : ∀ char, core.getLast? = some char → isSpace char = false)
    (plain : ∀ char ∈ core, inLine char = true) (spaces : ∀ char ∈ trail, isSpace char = true)
    (behind : next ⟨trail.reverse ++ (core.reverse ++ passed), []⟩ [core] = some result) :
    run (.seq nameColumn (.seq mayBlank (.seq (.finish isNewline) .nothing)))
      ⟨passed, core ++ trail⟩ next = some result := by
  cases core with
  | nil => exact absurd rfl some_core
  | cons first more =>
      have begins : solid first = true := solid_iff.mpr (starts first rfl)
      rw [run_seq, nameColumn, run_group, run_seq, List.cons_append, run_taken begins]
      have before : ∀ front char back, more = front ++ char :: back →
          ∃ last, last ∈ char :: back ++ trail ∧ isSpace last = false := by
        intro front char back same
        cases back with
        | nil =>
            refine ⟨char, List.mem_append_left _ List.mem_cons_self, ends char ?_⟩
            rw [same, List.getLast?_cons, List.getLast?_append]
            rfl
        | cons other back =>
            refine ⟨(other :: back).getLast (List.cons_ne_nil _ _), ?_, ends _ ?_⟩
            · apply List.mem_append_left
              exact List.mem_cons_of_mem _ (List.getLast_mem _)
            · rw [same, List.getLast?_cons, List.getLast?_append, List.getLast?_cons_cons,
                List.getLast?_eq_getLast_of_ne_nil (List.cons_ne_nil other back)]
              rfl
      have whole (left : Text) : Cursor.until ⟨passed, first :: (more ++ trail)⟩
          ⟨more.reverse ++ first :: passed, left⟩ = first :: more := by
        have reached := until_advance passed (first :: more) left (first :: (more ++ trail))
        rw [List.reverse_cons, List.append_assoc] at reached
        exact reached
      apply run_lazy (fun char member => plain char (List.mem_cons_of_mem _ member))
      · intro front char back same
        obtain ⟨last, listed, visible⟩ := before front char back same
        exact run_rest_none listed visible
      · rw [whole, run_seq]
        have nowhere : ∀ char, ([] : Text).head? = some char → isSpace char = false :=
          fun _ none => nomatch none
        rw [← List.append_nil trail]
        apply run_mayBlank spaces nowhere
        rw [List.reverse_cons, List.append_assoc] at behind
        exact behind

end Columns

/-! ### A row with a name -/

theorem code_head {row : Row} {rest : Text} :
    ∀ char, (row.code ++ rest).head? = some char → isSpace char = false := by
  intro char head
  cases code : row.code with
  | nil =>
      have length := row.code_hex.1
      rw [code] at length
      cases length
  | cons first more =>
      rw [code] at head
      injection head with same
      rw [← same]
      apply isHex_solid
      apply List.all_eq_true.mp row.code_hex.2
      rw [code]
      exact List.mem_cons_self

theorem unit_head {row : Row} {rest : Text} :
    ∀ char, (row.unit ++ rest).head? = some char → isSpace char = false := by
  intro char head
  cases unit : row.unit with
  | nil => exact absurd unit row.unit_word.1
  | cons first more =>
      rw [unit] at head
      injection head with same
      rw [← same]
      apply solid_iff.mp
      apply List.all_eq_true.mp row.unit_word.2
      rw [unit]
      exact List.mem_cons_self

theorem numeral_head {value : Nat} {rest : Text} :
    ∀ char, (numeral value ++ rest).head? = some char → isSpace char = false :=
  isDigit_head rfl

theorem printable_inLine {text : Text} (plain : printable text = true) :
    ∀ char ∈ text, inLine char = true := by
  intro char member
  have outside := List.all_eq_true.mp plain char member
  apply Bool.eq_false_imp_eq_true.mp
  intro ending
  have newline : char = '\n' := by
    rw [inLine, Bool.not_eq_false'] at ending
    exact of_decide_eq_true ending
  rw [newline] at outside
  exact absurd outside (by decide)

/-- A row with a name is read as it was printed. -/
theorem readRow_named (sectorSize : Nat) {row : Row} (named : strip row.name ≠ []) :
    readRow sectorSize row.line = some (row.partition sectorSize) := by
  obtain ⟨margin, one, two, three, four, five, line, spaces, gapOne, gapTwo, gapThree, gapFour,
    gapFive⟩ := row.line_columns
  obtain ⟨lead, trail, split, leading, trailing, starts, ends⟩ := strip_split row.name
  have plain : ∀ char ∈ strip row.name, inLine char = true := by
    intro char member
    apply printable_inLine row.name_printable
    rw [split]
    exact List.mem_append_left _ (List.mem_append_right _ member)
  have beyond : ∀ char, (strip row.name ++ trail).head? = some char → isSpace char = false := by
    intro char head
    apply starts
    cases core : strip row.name with
    | nil => exact absurd core named
    | cons first more =>
        rw [core] at head
        exact head
  have last : five ++ row.name = (five ++ lead) ++ (strip row.name ++ trail) := by
    rw [List.append_assoc, ← List.append_assoc lead, ← split]
  have some_gap : five ++ lead ≠ [] :=
    fun empty => gapFive.some_gap (List.append_eq_nil_iff.mp empty).1
  have blank : ∀ char ∈ five ++ lead, isSpace char = true := by
    intro char member
    rcases List.mem_append.mp member with early | late
    · exact gapFive.spaces char early
    · exact leading char late
  have found : ∃ stop, matchAt printRow ⟨[], row.line⟩ =
      some { start := ⟨[], row.line⟩
             stop := stop
             groups := [numeral row.number, numeral row.first, numeral row.last,
               strip row.name] } := by
    rw [line, last, matchAt]
    apply Exists.intro
    rw [printRow, Pattern.all, run_seq, run_start rfl, Pattern.all, run_seq]
    apply run_mayBlank spaces numeral_head
    apply run_column gapOne numeral_head
    apply run_column gapTwo numeral_head
    apply run_column gapThree numeral_head
    apply run_size
    rw [Pattern.all, run_seq]
    apply run_blanks gap_one.some_gap gap_one.spaces unit_head
    apply run_word row.unit_word.1 row.unit_word.2 gapFour code_head
    rw [Pattern.all, run_seq]
    apply run_code row.code_hex.1 row.code_hex.2
    rw [Pattern.all, run_seq]
    apply run_blanks some_gap blank beyond
    apply run_name named starts ends plain trailing
    rfl
  obtain ⟨stop, found⟩ := found
  rw [readRow, found]
  show some _ = some _
  simp only [groupNumber, List.getD_cons_zero, List.getD_cons_succ, Row.partition,
    number_numeral, Nat.sub_self, Nat.reduceSub]

/-! ### A row without a name -/

theorem words_lead {lead back : Text} (spaces : ∀ char ∈ lead, isSpace char = true) :
    wordsFrom isSpace false (lead ++ back) = wordsFrom isSpace false back := by
  cases lead with
  | nil => rfl
  | cons char more =>
      have gap : wordsFrom isSpace false ([] ++ (char :: more ++ back)) =
          wordsFrom isSpace false [] + wordsFrom isSpace false back :=
        wordsFrom_gap (List.cons_ne_nil char more) spaces
      rw [List.nil_append] at gap
      rw [gap, wordsFrom, Nat.zero_add]

/-- A column has one word and its gap ends it. -/
theorem words_column {word between back : Text} (some_word : word ≠ [])
    (visible : ∀ char ∈ word, isSpace char = false) (some_gap : between ≠ [])
    (spaces : ∀ char ∈ between, isSpace char = true) :
    wordsFrom isSpace false (word ++ (between ++ back)) =
      1 + wordsFrom isSpace false back := by
  rw [wordsFrom_gap some_gap spaces, wordsFrom_word some_word visible]

/-- A column that begins with a word. -/
theorem words_begun {word more between back : Text} (some_word : word ≠ [])
    (visible : ∀ char ∈ word, isSpace char = false) (some_gap : between ≠ [])
    (spaces : ∀ char ∈ between, isSpace char = true) :
    1 + wordsFrom isSpace false back ≤
      wordsFrom isSpace false (word ++ (more ++ (between ++ back))) := by
  rw [← List.append_assoc, wordsFrom_gap some_gap spaces]
  cases word with
  | nil => exact absurd rfl some_word
  | cons char rest =>
      have first : 1 ≤ wordsFrom isSpace false (char :: rest ++ more) :=
        wordsFrom_pos (visible char List.mem_cons_self)
      omega

theorem words_row {row : Row} (unnamed : strip row.name = []) :
    wordsFrom isSpace false row.line = 6 := by
  obtain ⟨margin, one, two, three, four, five, line, spaces, gapOne, gapTwo, gapThree, gapFour,
    gapFive⟩ := row.line_columns
  have size : ∀ char ∈ numeral row.size ++ row.decimal, isSpace char = false := by
    intro char member
    rcases List.mem_append.mp member with early | late
    · exact numeral_solid _ char early
    · cases tenth : row.tenth with
      | none =>
          rw [Row.decimal, tenth] at late
          exact absurd late List.not_mem_nil
      | some value =>
          rw [Row.decimal, tenth] at late
          rcases List.mem_cons.mp late with rfl | inside
          · rfl
          · exact numeral_solid _ char inside
  have some_size : numeral row.size ++ row.decimal ≠ [] :=
    fun empty => numeral_nonempty _ (List.append_eq_nil_iff.mp empty).1
  have unit : ∀ char ∈ row.unit, isSpace char = false :=
    fun char member => solid_iff.mp (List.all_eq_true.mp row.unit_word.2 char member)
  have code : ∀ char ∈ row.code, isSpace char = false :=
    fun char member => isHex_solid (List.all_eq_true.mp row.code_hex.2 char member)
  have some_code : row.code ≠ [] := by
    intro empty
    have length := row.code_hex.1
    rw [empty] at length
    cases length
  rw [line, words_lead spaces]
  rw [words_column (numeral_nonempty _) (numeral_solid _) gapOne.some_gap gapOne.spaces]
  rw [words_column (numeral_nonempty _) (numeral_solid _) gapTwo.some_gap gapTwo.spaces]
  rw [words_column (numeral_nonempty _) (numeral_solid _) gapThree.some_gap gapThree.spaces]
  rw [← List.append_assoc (numeral row.size)]
  rw [words_column some_size size gap_one.some_gap gap_one.spaces]
  rw [words_column row.unit_word.1 unit gapFour.some_gap gapFour.spaces]
  rw [words_column some_code code gapFive.some_gap gapFive.spaces]
  rw [wordsFrom_blank (strip_nil.mp unnamed)]

theorem several_word {accepts : Char → Bool} {passed text rest : Text} {groups : List Text}
    (spelt : Spells (several accepts) passed text rest groups)
    (visible : ∀ char, accepts char = true → isSpace char = false) :
    text ≠ [] ∧ ∀ char ∈ text, isSpace char = false := by
  obtain ⟨some_text, all, _⟩ := spells_several.mp spelt
  exact ⟨some_text, fun char member => visible char (all char member)⟩

theorem isDigit_visible {char : Char} (digit : isDigit char = true) : isSpace char = false := by
  apply Bool.eq_false_iff.mpr
  intro space
  have listed : char.toNat ∈ spaces := List.contains_iff_mem.mp space
  have range : ∀ code ∈ spaces, ∀ first ∈ digitZeros, ¬(first ≤ code ∧ code < first + 10) := by
    decide
  rw [isDigit, digitOf, List.findSome?_isSome_iff] at digit
  obtain ⟨first, member, inside⟩ := digit
  have outside := range char.toNat listed first member
  rw [if_neg outside] at inside
  cases inside

section Spelt

variable {passed text rest : Text} {groups : List Text} {more : Pattern Char}

theorem spells_digits (spelt : Spells digits passed text rest groups) :
    text ≠ [] ∧ ∀ char ∈ text, isSpace char = false :=
  several_word spelt (fun _ => isDigit_visible)

theorem spells_blanks (spelt : Spells blanks passed text rest groups) :
    text ≠ [] ∧ ∀ char ∈ text, isSpace char = true := by
  obtain ⟨some_text, all, _⟩ := spells_several.mp spelt
  exact ⟨some_text, all⟩

/-- What a column and its gap take; the rest has a word less. -/
theorem spells_column
    (spelt : Spells (.seq (.group digits) (.seq blanks more)) passed text rest groups) :
    ∃ later back others, Spells more later back rest others ∧
      wordsFrom isSpace false (text ++ rest) = 1 + wordsFrom isSpace false (back ++ rest) := by
  obtain ⟨word, after, _, _, rfl, _, column, behind⟩ := spells_seq.mp spelt
  obtain ⟨between, back, _, _, rfl, _, gap, remaining⟩ := spells_seq.mp behind
  obtain ⟨_, _, inner⟩ := spells_group.mp column
  obtain ⟨some_word, visible⟩ := spells_digits inner
  obtain ⟨some_gap, spaces⟩ := spells_blanks gap
  refine ⟨_, back, _, remaining, ?_⟩
  rw [List.append_assoc, List.append_assoc]
  exact words_column some_word visible some_gap spaces

theorem spells_size {inner : Pattern Char}
    (spelt : Spells (.seq digits (.seq (.option inner) (.seq blanks more))) passed text rest
      groups) :
    ∃ later back others, Spells more later back rest others ∧
      1 + wordsFrom isSpace false (back ++ rest) ≤ wordsFrom isSpace false (text ++ rest) := by
  obtain ⟨word, after, _, _, rfl, _, column, behind⟩ := spells_seq.mp spelt
  obtain ⟨decimal, beyond, _, _, rfl, _, _, further⟩ := spells_seq.mp behind
  obtain ⟨between, back, _, _, rfl, _, gap, remaining⟩ := spells_seq.mp further
  obtain ⟨some_word, visible⟩ := spells_digits column
  obtain ⟨some_gap, spaces⟩ := spells_blanks gap
  refine ⟨_, back, _, remaining, ?_⟩
  rw [List.append_assoc, List.append_assoc, List.append_assoc]
  exact words_begun some_word visible some_gap spaces

theorem spells_word
    (spelt : Spells (.seq (several solid) (.seq blanks more)) passed text rest groups) :
    ∃ later back others, Spells more later back rest others ∧
      wordsFrom isSpace false (text ++ rest) = 1 + wordsFrom isSpace false (back ++ rest) := by
  obtain ⟨word, after, _, _, rfl, _, column, behind⟩ := spells_seq.mp spelt
  obtain ⟨between, back, _, _, rfl, _, gap, remaining⟩ := spells_seq.mp behind
  obtain ⟨some_word, visible⟩ := several_word column (fun _ => solid_iff.mp)
  obtain ⟨some_gap, spaces⟩ := spells_blanks gap
  refine ⟨_, back, _, remaining, ?_⟩
  rw [List.append_assoc, List.append_assoc]
  exact words_column some_word visible some_gap spaces

theorem spells_code (spelt : Spells codeDigits passed text rest groups) :
    text ≠ [] ∧ ∀ char ∈ text, isSpace char = false := by
  obtain ⟨_, _, _, _, rfl, _, one, others⟩ := spells_seq.mp spelt
  obtain ⟨_, _, _, _, rfl, _, two, others⟩ := spells_seq.mp others
  obtain ⟨_, _, _, _, rfl, _, three, others⟩ := spells_seq.mp others
  obtain ⟨_, _, _, _, rfl, _, four, none⟩ := spells_seq.mp others
  obtain ⟨first, rfl, first_hex, _⟩ := spells_one.mp one
  obtain ⟨second, rfl, second_hex, _⟩ := spells_one.mp two
  obtain ⟨third, rfl, third_hex, _⟩ := spells_one.mp three
  obtain ⟨fourth, rfl, fourth_hex, _⟩ := spells_one.mp four
  obtain ⟨rfl, _⟩ := spells_nothing.mp none
  constructor
  · exact List.cons_ne_nil _ _
  · intro char member
    simp only [List.cons_append, List.nil_append, List.mem_cons, List.not_mem_nil, or_false]
      at member
    rcases member with rfl | rfl | rfl | rfl
    · exact isHex_solid first_hex
    · exact isHex_solid second_hex
    · exact isHex_solid third_hex
    · exact isHex_solid fourth_hex

/-- Whatever the row pattern spells has seven words. -/
theorem spells_printRow (spelt : Spells printRow passed text rest groups) :
    7 ≤ wordsFrom isSpace false (text ++ rest) := by
  obtain ⟨_, _, _, _, rfl, _, anchor, others⟩ := spells_seq.mp spelt
  obtain ⟨rfl, _, _⟩ := spells_start.mp anchor
  obtain ⟨margin, back, _, _, rfl, _, blank, columns⟩ := spells_seq.mp others
  obtain ⟨spaces, _⟩ := spells_many.mp blank
  obtain ⟨_, one, _, others, number⟩ := spells_column columns
  obtain ⟨_, two, _, others, first⟩ := spells_column others
  obtain ⟨_, three, _, others, last⟩ := spells_column others
  obtain ⟨_, four, _, others, size⟩ := spells_size others
  obtain ⟨_, five, _, others, unit⟩ := spells_word others
  obtain ⟨code, six, _, _, rfl, _, hex, others⟩ := spells_seq.mp others
  obtain ⟨gap, seven, _, _, rfl, _, between, others⟩ := spells_seq.mp others
  obtain ⟨some_code, code_visible⟩ := spells_code hex
  obtain ⟨some_gap, gaps⟩ := spells_blanks between
  obtain ⟨name, eight, _, _, rfl, _, named, _⟩ := spells_seq.mp others
  obtain ⟨_, _, inner⟩ := spells_group.mp named
  obtain ⟨start, tail, _, _, rfl, _, begun, _⟩ := spells_seq.mp inner
  obtain ⟨char, rfl, visible, _⟩ := spells_one.mp begun
  have last_two : 2 ≤ wordsFrom isSpace false
      (code ++ (gap ++ ([char] ++ tail ++ eight)) ++ rest) := by
    rw [List.append_assoc, List.append_assoc]
    rw [words_column some_code code_visible some_gap gaps]
    have some_name : 1 ≤ wordsFrom isSpace false ([char] ++ tail ++ eight ++ rest) :=
      wordsFrom_pos (solid_iff.mp visible)
    omega
  rw [List.nil_append, List.append_assoc, words_lead spaces]
  omega

end Spelt

/-- A row without a name is passed over. -/
theorem readRow_unnamed (sectorSize : Nat) {row : Row} (unnamed : strip row.name = []) :
    readRow sectorSize row.line = none := by
  have refused : matchAt printRow ⟨[], row.line⟩ = none := by
    apply matchAt_none
    intro text rest groups same spelt
    have seven := spells_printRow spelt
    rw [← same, words_row unnamed] at seven
    omega
  rw [readRow, refused]
  rfl

end Liuqin.Layout.Report
