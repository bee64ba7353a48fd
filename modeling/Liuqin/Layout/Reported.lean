/-
The whole table report, read.

The four values of the heading are found in their lines whatever stands in the
others, and every row with a name becomes one partition.  The table that the
installer decides on is therefore complete exactly when every entry has a name;
an entry without one is left out, and a changed table can pass for the factory one.
-/

import Liuqin.Layout.Rows

namespace Liuqin.Layout.Report

open Liuqin.Library.Lines
open Liuqin.Library.Numerals
open Liuqin.Library.Regex

/-! ### The heading that sgdisk prints -/

def modelWord : Text := "Model: ".toList
def bytesWord : Text := " bytes".toList
def guidWord : Text := "Disk identifier (GUID): ".toList
def mainWord : Text := "Main partition table begins at sector ".toList
def endsWord : Text := " and ends at sector ".toList
def alignedWord : Text := "Partitions will be aligned on ".toList
def boundariesWord : Text := "-sector boundaries".toList
def freeWord : Text := "Total free space is ".toList
def freeSectorsWord : Text := " sectors (".toList
def laterColumns : Text := "    End (sector)  Size       Code  Name".toList

structure Heading where
  path : Text
  total : Nat
  size : Text
  model : Option Text
  sector : Nat
  physical : Option Nat
  guid : Text
  entries : Nat
  mainFirst : Nat
  mainLast : Nat
  first : Nat
  last : Nat
  aligned : Nat
  free : Nat
  freeSize : Text

def Heading.diskLine (heading : Heading) : Text :=
  diskWord ++ ([' '] ++ (heading.path ++ ([':'] ++ ([' '] ++ (numeral heading.total ++
    ([' '] ++ (sectorsWord ++ ([',', ' '] ++ heading.size))))))))

def Heading.modelLine (heading : Heading) : List Text :=
  (heading.model.map (fun model => modelWord ++ model)).toList

def Heading.sectorLine (heading : Heading) : Text :=
  match heading.physical with
  | none => sectorWord ++ (sectorMark ++ ([' '] ++ (numeral heading.sector ++ bytesWord)))
  | some physical =>
      sectorWord ++ (physicalWord ++ (sectorMark ++ ([' '] ++ (numeral heading.sector ++
        (['/'] ++ numeral physical ++ bytesWord)))))

def Heading.guidLine (heading : Heading) : Text := guidWord ++ heading.guid

def Heading.entriesLine (heading : Heading) : Text :=
  holdsWord ++ (numeral heading.entries ++ entriesWord)

def Heading.mainLine (heading : Heading) : Text :=
  mainWord ++ (numeral heading.mainFirst ++ (endsWord ++ numeral heading.mainLast))

def Heading.usableLine (heading : Heading) : Text :=
  firstWord ++ (numeral heading.first ++ (lastWord ++ numeral heading.last))

def Heading.lastLines (heading : Heading) : List Text :=
  [alignedWord ++ (numeral heading.aligned ++ boundariesWord),
    freeWord ++ (numeral heading.free ++ (freeSectorsWord ++ (heading.freeSize ++ [')']))), []]

def Heading.lines (heading : Heading) : List Text :=
  heading.diskLine :: (heading.modelLine ++ heading.sectorLine :: heading.guidLine ::
    heading.entriesLine :: heading.mainLine :: heading.usableLine :: heading.lastLines)

/-- A heading as it is printed: a path without blanks, lines that are lines, and
the words over the columns nowhere before the columns. -/
structure Heading.Printed (heading : Heading) : Prop where
  path_word : heading.path ≠ [] ∧ heading.path.all solid = true
  line : ∀ line ∈ heading.lines, '\n' ∉ line
  before_columns : ∀ line ∈ heading.lines, breakAt columnsWord line = none

/-- A partition table as `sgdisk -p` prints it. -/
structure Table where
  heading : Heading
  heading_printed : heading.Printed
  rows : List Row

def Table.body (table : Table) : Text := terminated (laterColumns :: table.rows.map Row.line)

def Table.text (table : Table) : Text :=
  terminated table.heading.lines ++ (columnsWord ++ table.body)

/-- The disk that some of the rows make. -/
def Heading.disk (heading : Heading) (rows : List Row) : Disk :=
  { sectorSize := heading.sector
    totalSectors := heading.total
    firstUsable := heading.first
    lastUsable := heading.last
    entryCount := heading.entries
    partitions := sorted (rows.map (Row.partition heading.sector)) }

/-- One partition for every row, in the order of the first sectors. -/
def Table.disk (table : Table) : Disk := table.heading.disk table.rows

/-! ### The lines of the heading -/

theorem disk_head : diskWord.head? = some 'D' := rfl
theorem model_head : modelWord.head? = some 'M' := rfl
theorem sector_head : sectorWord.head? = some 'S' := rfl
theorem guid_head : guidWord.head? = some 'D' := rfl
theorem holds_head : holdsWord.head? = some 'P' := rfl
theorem main_head : mainWord.head? = some 'M' := rfl
theorem first_head : firstWord.head? = some 'F' := rfl

/-- The line begins with this character. -/
def Begins (char : Char) (line : Text) : Prop := line.head? = some char

theorem Begins.append {char : Char} {word rest : Text} (begins : word.head? = some char) :
    Begins char (word ++ rest) := by
  rw [Begins, List.head?_append, begins]
  rfl

theorem Begins.unlike {one other : Char} {word line rest : Text} (begins : Begins other line)
    (different : one ≠ other) (head : word.head? = some one) : ¬word <+: line ++ rest := by
  intro start
  cases word with
  | nil => cases head
  | cons first more =>
      cases line with
      | nil => cases begins
      | cons second line =>
          injection head with head
          injection begins with begins
          apply different
          rw [← head, ← begins]
          exact (List.cons_prefix_cons.mp start).1

theorem Heading.diskLine_begins (heading : Heading) : Begins 'D' heading.diskLine :=
  Begins.append disk_head

theorem Heading.modelLine_begins {heading : Heading} {line : Text}
    (member : line ∈ heading.modelLine) : Begins 'M' line := by
  unfold Heading.modelLine at member
  cases model : heading.model with
  | none =>
      rw [model] at member
      exact absurd member List.not_mem_nil
  | some name =>
      rw [model] at member
      rw [List.mem_singleton.mp member]
      exact Begins.append model_head

theorem Heading.sectorLine_begins (heading : Heading) : Begins 'S' heading.sectorLine := by
  unfold Heading.sectorLine
  cases heading.physical with
  | none => exact Begins.append sector_head
  | some physical => exact Begins.append sector_head

theorem Heading.guidLine_begins (heading : Heading) : Begins 'D' heading.guidLine :=
  Begins.append guid_head

theorem Heading.entriesLine_begins (heading : Heading) : Begins 'P' heading.entriesLine :=
  Begins.append holds_head

theorem Heading.mainLine_begins (heading : Heading) : Begins 'M' heading.mainLine :=
  Begins.append main_head

/-- Lines that begin otherwise are passed over. -/
theorem searchFrom_lines {word : Text} {more : Pattern Char} {start : Char} {front : List Text}
    {passed rest : Text} (head : word.head? = some start)
    (plain : ∀ line ∈ front, '\n' ∉ line)
    (others : ∀ line ∈ front, ∃ other, Begins other line ∧ start ≠ other) :
    ∃ before, searchFrom (anchored isNewline word more) passed (terminated front ++ rest) =
        searchFrom (anchored isNewline word more) before rest ∧
      (atStart (some isNewline) passed = true → atStart (some isNewline) before = true) := by
  induction front generalizing passed with
  | nil => exact ⟨passed, rfl, id⟩
  | cons line front ih =>
      obtain ⟨other, begins, different⟩ := others line List.mem_cons_self
      have within : ∀ char ∈ line, isNewline char = false := by
        intro char member
        apply decide_eq_false
        intro same
        rw [same] at member
        exact plain line List.mem_cons_self member
      obtain ⟨before, same, starts⟩ := ih
        (fun next member => plain next (List.mem_cons_of_mem _ member))
        (fun next member => others next (List.mem_cons_of_mem _ member))
      rw [terminated_cons, List.append_assoc, List.cons_append]
      rw [searchFrom_skip (fun _ => begins.unlike different head) within]
      exact ⟨before, same, fun _ => starts rfl⟩

theorem one_line {word : Text} {more : Pattern Char} {start : Char} {front : List Text}
    {rest : Text} {label : String} {group : Nat} {groups : List Text}
    (head : word.head? = some start) (plain : ∀ line ∈ front, '\n' ∉ line)
    (others : ∀ line ∈ front, ∃ other, Begins other line ∧ start ≠ other)
    (here : ∀ passed, atStart (some isNewline) passed = true →
      ∃ stop, matchAt (anchored isNewline word more) ⟨passed, rest⟩ =
        some { start := ⟨passed, rest⟩, stop := stop, groups := groups }) :
    one (terminated front ++ rest) (anchored isNewline word more) label group =
      .ok (number (groups.getD (group - 1) [])) := by
  obtain ⟨before, same, starts⟩ :
      ∃ before, searchFrom (anchored isNewline word more) [] (terminated front ++ rest) =
          searchFrom (anchored isNewline word more) before rest ∧
        (atStart (some isNewline) [] = true → atStart (some isNewline) before = true) :=
    searchFrom_lines head plain others
  obtain ⟨stop, found⟩ := here before (starts rfl)
  have whole : search (anchored isNewline word more) (terminated front ++ rest) 0 =
      some { start := ⟨before, rest⟩, stop := stop, groups := groups } := by
    rw [search, List.take_zero, List.drop_zero, List.reverse_nil, same]
    exact searchFrom_here found
  rw [one, whole]
  rfl

/-! ### The four values -/

theorem physical_head : physicalWord.head? = some '/' := rfl
theorem mark_head : sectorMark.head? = some ')' := rfl
theorem bytes_head : bytesWord.head? = some ' ' := rfl
theorem last_head : lastWord.head? = some ',' := rfl
theorem entries_head : entriesWord.head? = some ' ' := rfl
theorem sectors_head : sectorsWord.head? = some 's' := rfl

/-- A number ends where a word begins with something else. -/
theorem ends_at {word rest : Text} {start : Char} (head : word.head? = some start)
    (other : isDigit start = false) :
    ∀ char, (word ++ rest).head? = some char → isDigit char = false := by
  intro char begins
  rw [List.head?_append, head] at begins
  injection begins with same
  rw [← same]
  exact other

section Values

variable (heading : Heading) {passed : Text} (later : Text)

theorem sector_match (start : atStart (some isNewline) passed = true) :
    ∃ stop, matchAt sectorPattern ⟨passed, heading.sectorLine ++ '\n' :: later⟩ =
      some { start := ⟨passed, heading.sectorLine ++ '\n' :: later⟩
             stop := stop
             groups := [numeral heading.sector] } := by
  rw [Heading.sectorLine]
  cases heading.physical with
  | none =>
      have skipped : (sectorMark ++ ([' '] ++ (numeral heading.sector ++
          (bytesWord ++ '\n' :: later)))).head? = some ')' := by
        rw [List.head?_append, mark_head]
        rfl
      apply Exists.intro
      simp only [List.append_assoc]
      rw [matchAt, sectorPattern, Pattern.all, run_seq, lineStart, run_start start, Pattern.all,
        run_seq, run_literal, Pattern.all, run_seq]
      apply run_skipped (run_literal_other physical_head skipped (by decide))
      rw [Pattern.all, run_seq, run_literal, Pattern.all, run_seq]
      apply run_mayBlank gap_one.spaces numeral_head
      rw [Pattern.all, run_seq]
      apply run_number (ends_at bytes_head rfl)
      rfl
  | some physical =>
      apply Exists.intro
      simp only [List.append_assoc]
      rw [matchAt, sectorPattern, Pattern.all, run_seq, lineStart, run_start start, Pattern.all,
        run_seq, run_literal, Pattern.all, run_seq]
      apply run_option
      rw [run_literal, Pattern.all, run_seq, run_literal, Pattern.all, run_seq]
      apply run_mayBlank gap_one.spaces numeral_head
      rw [Pattern.all, run_seq]
      have slash : ['/'].head? = some '/' := rfl
      apply run_number (ends_at slash rfl)
      rfl

theorem usable_match (start : atStart (some isNewline) passed = true) :
    ∃ stop, matchAt usablePattern ⟨passed, heading.usableLine ++ '\n' :: later⟩ =
      some { start := ⟨passed, heading.usableLine ++ '\n' :: later⟩
             stop := stop
             groups := [numeral heading.first, numeral heading.last] } := by
  rw [Heading.usableLine]
  apply Exists.intro
  have stops : ∀ char, ('\n' :: later).head? = some char → isDigit char = false := by
    intro char head
    injection head with same
    rw [← same]
    rfl
  simp only [List.append_assoc]
  rw [matchAt, usablePattern, Pattern.all, run_seq, lineStart, run_start start, Pattern.all,
    run_seq, run_literal, Pattern.all, run_seq]
  apply run_number (ends_at last_head rfl)
  rw [Pattern.all, run_seq, run_literal, Pattern.all, run_seq]
  apply run_number stops
  rfl

theorem entries_match (start : atStart (some isNewline) passed = true) :
    ∃ stop, matchAt entriesPattern ⟨passed, heading.entriesLine ++ '\n' :: later⟩ =
      some { start := ⟨passed, heading.entriesLine ++ '\n' :: later⟩
             stop := stop
             groups := [numeral heading.entries] } := by
  rw [Heading.entriesLine]
  apply Exists.intro
  simp only [List.append_assoc]
  rw [matchAt, entriesPattern, Pattern.all, run_seq, lineStart, run_start start, Pattern.all,
    run_seq, run_literal, Pattern.all, run_seq]
  apply run_number (ends_at entries_head rfl)
  rw [Pattern.all, run_seq, run_literal]
  rfl

/-- The path is taken with its colon first, and the colon is given back. -/
theorem disk_match (path : heading.path ≠ [] ∧ heading.path.all solid = true)
    (start : atStart (some isNewline) passed = true) :
    ∃ stop, matchAt diskPattern ⟨passed, heading.diskLine ++ '\n' :: later⟩ =
      some { start := ⟨passed, heading.diskLine ++ '\n' :: later⟩
             stop := stop
             groups := [numeral heading.total] } := by
  rw [Heading.diskLine]
  have all := List.all_eq_true.mp path.2
  cases name : heading.path with
  | nil => exact absurd name path.1
  | cons first more =>
      rw [name] at all
      apply Exists.intro
      simp only [List.append_assoc]
      rw [matchAt, diskPattern, Pattern.all, run_seq, lineStart, run_start start, Pattern.all,
        run_seq, run_literal, Pattern.all, run_seq]
      have visible : ∀ char, (first :: more ++ ([':'] ++ ([' '] ++ (numeral heading.total ++
          ([' '] ++ (sectorsWord ++ ([',', ' '] ++ (heading.size ++ '\n' :: later)))))))).head? =
          some char → isSpace char = false := by
        intro char head
        injection head with same
        rw [← same]
        exact solid_iff.mp (all first List.mem_cons_self)
      apply run_blanks gap_one.some_gap gap_one.spaces visible
      rw [Pattern.all, run_seq, several, run_seq, List.cons_append,
        run_taken (all first List.mem_cons_self)]
      apply greedily_back (fun char member => all char (List.mem_cons_of_mem _ member)) rfl
        (gap_one.stops rfl)
      · rfl
      · show run (.seq (literal [':']) _) ⟨_, [':'] ++ _⟩ _ = _
        rw [run_seq, run_literal, Pattern.all, run_seq]
        apply run_mayBlank gap_one.spaces numeral_head
        have word : ∀ char, (sectorsWord ++ ([',', ' '] ++ (heading.size ++ '\n' :: later))).head? =
            some char → isSpace char = false := by
          intro char head
          rw [List.head?_append, sectors_head] at head
          injection head with same
          rw [← same]
          rfl
        apply run_column gap_one word
        rw [Pattern.all, run_seq, run_literal]
        rfl

end Values

section Whole

variable (table : Table)

/-- The report around one line of its heading. -/
theorem Table.text_around {front back : List Text} {line : Text}
    (lines : table.heading.lines = front ++ line :: back) :
    table.text = terminated front ++ (line ++ '\n' :: (terminated back ++
      (columnsWord ++ table.body))) := by
  rw [Table.text, lines, terminated_append, terminated_cons, List.append_assoc, List.append_assoc]
  rfl

theorem Table.front_plain {front back : List Text}
    (lines : table.heading.lines = front ++ back) : ∀ line ∈ front, '\n' ∉ line := by
  intro line member
  apply table.heading_printed.line
  rw [lines]
  exact List.mem_append_left _ member

theorem Table.value_read {word : Text} {more : Pattern Char} {start : Char}
    {front back : List Text} {line : Text} {label : String} {group value : Nat}
    {groups : List Text} (lines : table.heading.lines = front ++ line :: back)
    (head : word.head? = some start)
    (others : ∀ line ∈ front, ∃ other, Begins other line ∧ start ≠ other)
    (here : ∀ passed later, atStart (some isNewline) passed = true →
      ∃ stop, matchAt (anchored isNewline word more) ⟨passed, line ++ '\n' :: later⟩ =
        some { start := ⟨passed, line ++ '\n' :: later⟩, stop := stop, groups := groups })
    (meant : number (groups.getD (group - 1) []) = value) :
    one table.text (anchored isNewline word more) label group = .ok value := by
  rw [table.text_around lines, ← meant]
  exact one_line head (table.front_plain lines) others (fun passed start => here passed _ start)

theorem Table.total_read (label : String) :
    one table.text diskPattern label 1 = .ok table.heading.total := by
  have lines : table.heading.lines = [] ++ table.heading.diskLine :: _ := rfl
  apply table.value_read lines disk_head (fun _ member => (List.not_mem_nil member).elim)
  · intro passed later start
    exact disk_match table.heading later table.heading_printed.path_word start
  · exact number_numeral _

theorem Table.sector_read (label : String) :
    one table.text sectorPattern label 1 = .ok table.heading.sector := by
  have lines : table.heading.lines =
      (table.heading.diskLine :: table.heading.modelLine) ++ table.heading.sectorLine :: _ := rfl
  apply table.value_read lines sector_head
  · intro line member
    rcases List.mem_cons.mp member with rfl | model
    · exact ⟨'D', table.heading.diskLine_begins, by decide⟩
    · exact ⟨'M', Heading.modelLine_begins model, by decide⟩
  · intro passed later start
    exact sector_match table.heading later start
  · exact number_numeral _

theorem Table.entries_read (label : String) :
    one table.text entriesPattern label 1 = .ok table.heading.entries := by
  have lines : table.heading.lines = (table.heading.diskLine :: (table.heading.modelLine ++
      [table.heading.sectorLine, table.heading.guidLine])) ++ table.heading.entriesLine ::
        table.heading.mainLine :: table.heading.usableLine :: table.heading.lastLines := by
    rw [List.cons_append, List.append_assoc]
    rfl
  apply table.value_read lines holds_head
  · intro line member
    rcases List.mem_cons.mp member with rfl | member
    · exact ⟨'D', table.heading.diskLine_begins, by decide⟩
    rcases List.mem_append.mp member with model | member
    · exact ⟨'M', Heading.modelLine_begins model, by decide⟩
    rcases List.mem_cons.mp member with rfl | member
    · exact ⟨'S', table.heading.sectorLine_begins, by decide⟩
    · rw [List.mem_singleton.mp member]
      exact ⟨'D', table.heading.guidLine_begins, by decide⟩
  · intro passed later start
    exact entries_match table.heading later start
  · exact number_numeral _

theorem Table.usable_lines :
    table.heading.lines = (table.heading.diskLine :: (table.heading.modelLine ++
      [table.heading.sectorLine, table.heading.guidLine, table.heading.entriesLine,
        table.heading.mainLine])) ++ table.heading.usableLine :: table.heading.lastLines := by
  rw [List.cons_append, List.append_assoc]
  rfl

theorem Table.usable_before {line : Text}
    (member : line ∈ table.heading.diskLine :: (table.heading.modelLine ++
      [table.heading.sectorLine, table.heading.guidLine, table.heading.entriesLine,
        table.heading.mainLine])) : ∃ other, Begins other line ∧ 'F' ≠ other := by
  rcases List.mem_cons.mp member with rfl | member
  · exact ⟨'D', table.heading.diskLine_begins, by decide⟩
  rcases List.mem_append.mp member with model | member
  · exact ⟨'M', Heading.modelLine_begins model, by decide⟩
  rcases List.mem_cons.mp member with rfl | member
  · exact ⟨'S', table.heading.sectorLine_begins, by decide⟩
  rcases List.mem_cons.mp member with rfl | member
  · exact ⟨'D', table.heading.guidLine_begins, by decide⟩
  rcases List.mem_cons.mp member with rfl | member
  · exact ⟨'P', table.heading.entriesLine_begins, by decide⟩
  · rw [List.mem_singleton.mp member]
    exact ⟨'M', table.heading.mainLine_begins, by decide⟩

theorem Table.first_read (label : String) :
    one table.text usablePattern label 1 = .ok table.heading.first := by
  apply table.value_read table.usable_lines first_head (fun _ => table.usable_before)
  · intro passed later start
    exact usable_match table.heading later start
  · exact number_numeral _

theorem Table.last_read (label : String) :
    one table.text usablePattern label 2 = .ok table.heading.last := by
  apply table.value_read table.usable_lines first_head (fun _ => table.usable_before)
  · intro passed later start
    exact usable_match table.heading later start
  · exact number_numeral _

end Whole

/-! ### The rows -/

theorem boundaries_space : ∀ char ∈ boundaries, isSpace char = true := by
  apply List.all_eq_true.mp
  rfl

theorem solid_inside {char : Char} (visible : isSpace char = false) : char ∉ boundaries := by
  intro boundary
  rw [boundaries_space char boundary] at visible
  cases visible

theorem blank_inside : ' ' ∉ boundaries := by decide

theorem printable_inside {text : Text} (plain : printable text = true) :
    ∀ char ∈ text, char ∉ boundaries := by
  intro char member boundary
  have outside := List.all_eq_true.mp plain char member
  rw [List.contains_iff_mem.mpr boundary] at outside
  cases outside

theorem later_inside : ∀ char ∈ laterColumns, char ∉ boundaries := by
  apply printable_inside
  rfl

/-- No row holds a line end of any kind. -/
theorem Row.line_inside (row : Row) : ∀ char ∈ row.line, char ∉ boundaries := by
  have number (value : Nat) : ∀ char ∈ numeral value, char ∉ boundaries :=
    fun char member => solid_inside (numeral_solid value char member)
  have blank (width : Nat) (text : Text) : ∀ char ∈ indent width text, char ∉ boundaries := by
    intro char member
    rw [indent_blank width text char member]
    exact blank_inside
  have unit : ∀ char ∈ row.unit, char ∉ boundaries := fun char member =>
    solid_inside (solid_iff.mp (List.all_eq_true.mp row.unit_word.2 char member))
  have code : ∀ char ∈ row.code, char ∉ boundaries := fun char member =>
    solid_inside (isHex_solid (List.all_eq_true.mp row.code_hex.2 char member))
  have decimal : ∀ char ∈ row.decimal, char ∉ boundaries := by
    intro char member
    unfold Row.decimal at member
    cases tenth : row.tenth with
    | none =>
        rw [tenth] at member
        exact absurd member List.not_mem_nil
    | some value =>
        rw [tenth] at member
        rcases List.mem_cons.mp member with rfl | inside
        · exact solid_inside rfl
        · exact number value char inside
  have gap {text : Text} (between : Gap text) : ∀ char ∈ text, char ∉ boundaries := by
    intro char member
    rw [between.blank char member]
    exact blank_inside
  have size : ∀ char ∈ row.sizeText, char ∉ boundaries := by
    simp only [Row.sizeText, List.forall_mem_append]
    exact ⟨⟨⟨number _, decimal⟩, gap gap_one⟩, unit⟩
  have name := printable_inside row.name_printable
  simp only [Row.line, List.forall_mem_append, and_assoc]
  exact ⟨blank _ _, number _, gap gap_two, blank _ _, number _, gap gap_two, blank _ _, number _,
    gap gap_three, size, blank _ _, gap gap_two, code, gap gap_two, name⟩

theorem filterMap_rows (sectorSize : Nat) (rows : List Row) :
    (rows.map Row.line).filterMap (readRow sectorSize) =
      (rows.filter (fun row => decide (strip row.name ≠ []))).map (Row.partition sectorSize) := by
  induction rows with
  | nil => rfl
  | cons row rows ih =>
      rw [List.map_cons, List.filterMap_cons]
      by_cases named : strip row.name = []
      · rw [readRow_unnamed sectorSize named, List.filter_cons_of_neg (by simpa using named)]
        exact ih
      · rw [readRow_named sectorSize named, List.filter_cons_of_pos (by simpa using named),
          List.map_cons, ← ih]

theorem columns_nonempty : columnsWord ≠ [] := by decide
theorem columns_line : '\n' ∉ columnsWord := by decide

/-- The rows that have a name, each as it was printed. -/
theorem Table.rows_read (table : Table) (sectorSize : Nat) :
    readRows sectorSize table.text =
      (table.rows.filter (fun row => decide (strip row.name ≠ []))).map
        (Row.partition sectorSize) := by
  have found : breakAt columnsWord table.text =
      some (terminated table.heading.lines, table.body) :=
    breakAt_lines columns_nonempty columns_line table.heading_printed.before_columns
  have lines : splitlines table.body = laterColumns :: table.rows.map Row.line := by
    apply splitlines_terminated
    intro line member
    rcases List.mem_cons.mp member with rfl | inside
    · exact later_inside
    · obtain ⟨row, _, rfl⟩ := List.mem_map.mp inside
      exact row.line_inside
  rw [readRows, found]
  show ((splitlines table.body).drop 1).filterMap (readRow sectorSize) = _
  rw [lines, List.drop_one, List.tail_cons, filterMap_rows]

/-! ### The whole report -/

theorem parsePrint_text (table : Table) :
    parsePrint table.text = .ok (table.heading.disk
      (table.rows.filter (fun row => decide (strip row.name ≠ [])))) := by
  rw [parsePrint, table.sector_read, table.total_read, table.first_read, table.last_read,
    table.entries_read]
  show Except.ok (Disk.mk _ _ _ _ _ (sorted (readRows table.heading.sector table.text))) = _
  rw [table.rows_read]
  rfl

/-- The report is read in full exactly when every entry of the table has a name. -/
theorem report_complete (table : Table) :
    parsePrint table.text = .ok table.disk ↔ ∀ row ∈ table.rows, strip row.name ≠ [] := by
  rw [parsePrint_text]
  constructor
  · intro complete row member
    have counted : (table.rows.filter (fun row => decide (strip row.name ≠ []))).length =
        table.rows.length := by
      have lengths := congrArg (fun disk => disk.partitions.length) (Except.ok.inj complete)
      simpa only [Table.disk, Heading.disk, sorted, List.length_insertionSort, List.length_map]
        using lengths
    exact of_decide_eq_true (List.length_filter_eq_length_iff.mp counted row member)
  · intro named
    rw [List.filter_eq_self.mpr (fun row member => decide_eq_true (named row member))]
    rfl

/-- The partitions of a report read in full are its rows, in order. -/
theorem Table.disk_rows (table : Table) :
    table.disk.partitions.Perm (table.rows.map (Row.partition table.heading.sector)) ∧
      table.disk.partitions.Pairwise (fun one two => one.firstSector ≤ two.firstSector) := by
  constructor
  · exact List.perm_insertionSort _ _
  · have total : Std.Total (fun one two : Partition => one.firstSector ≤ two.firstSector) :=
      ⟨fun one two => Int.le_total _ _⟩
    have trans : IsTrans Partition (fun one two => one.firstSector ≤ two.firstSector) :=
      ⟨fun _ _ _ => Int.le_trans⟩
    exact List.pairwise_insertionSort _ _

/-! ### The report of a GPT -/

/-- A row shows an entry. -/
structure Row.Shows (row : Row) (entry : GptEntry) : Prop where
  number : row.number = entry.number
  first : (row.first : Int) = entry.firstSector
  last : (row.last : Int) = entry.lastSector
  name : row.name = entry.name.toList

/-- The report of a GPT: its header, and its entries by number. -/
structure Table.Prints (printed : Table) (table : Gpt) : Prop where
  sector : (printed.heading.sector : Int) = table.sectorSize
  total : (printed.heading.total : Int) = table.totalSectors
  first : (printed.heading.first : Int) = table.firstUsable
  last : (printed.heading.last : Int) = table.lastUsable
  entries : (printed.heading.entries : Int) = table.entryCount
  rows : List.Forall₂ Row.Shows printed.rows
    (table.entries.insertionSort (fun one two => one.number ≤ two.number))

theorem Row.Shows.partition {row : Row} {entry : GptEntry} (shows : row.Shows entry)
    {sector : Nat} {sectorSize : Int} (same : (sector : Int) = sectorSize)
    (trimmed : strip entry.name.toList = entry.name.toList) :
    row.partition sector = entry.partition sectorSize := by
  rw [Row.partition, GptEntry.partition, shows.number, shows.first, shows.last, shows.name, same,
    trimmed, String.ofList_toList]

theorem shown_rows {rows : List Row} {entries : List GptEntry} {sector : Nat} {sectorSize : Int}
    (shown : List.Forall₂ Row.Shows rows entries) (same : (sector : Int) = sectorSize)
    (trimmed : ∀ entry ∈ entries, strip entry.name.toList = entry.name.toList)
    (named : ∀ entry ∈ entries, entry.name.toList ≠ []) :
    (∀ row ∈ rows, strip row.name ≠ []) ∧
      rows.map (Row.partition sector) = entries.map (GptEntry.partition sectorSize) := by
  induction shown with
  | nil => exact ⟨fun _ member => (List.not_mem_nil member).elim, rfl⟩
  | @cons row entry rows entries shows shown ih =>
      obtain ⟨others, later⟩ := ih (fun next member => trimmed next (List.mem_cons_of_mem _ member))
        (fun next member => named next (List.mem_cons_of_mem _ member))
      have here := trimmed entry List.mem_cons_self
      constructor
      · intro next member
        rcases List.mem_cons.mp member with rfl | inside
        · rw [shows.name, here]
          exact named entry List.mem_cons_self
        · exact others next inside
      · rw [List.map_cons, List.map_cons, shows.partition same here, later]

/-- Entries whose names are trimmed and not empty are all read: this is the
report that the installer works on. -/
theorem report_read {printed : Table} {table : Gpt} (prints : printed.Prints table)
    (trimmed : ∀ entry ∈ table.entries, strip entry.name.toList = entry.name.toList)
    (named : ∀ entry ∈ table.entries, entry.name.toList ≠ []) :
    parsePrint printed.text = .ok table.report := by
  have listed : ∀ entry ∈ table.entries.insertionSort (fun one two => one.number ≤ two.number),
      entry ∈ table.entries :=
    fun entry member => (List.perm_insertionSort _ _).mem_iff.mp member
  obtain ⟨rows, partitions⟩ := shown_rows prints.rows prints.sector
    (fun entry member => trimmed entry (listed entry member))
    (fun entry member => named entry (listed entry member))
  rw [parsePrint_text, List.filter_eq_self.mpr (fun row member => decide_eq_true (rows row member)),
    Heading.disk, partitions, prints.sector, prints.total, prints.first, prints.last,
    prints.entries]
  rfl

/-! ### A changed table that passes for the factory one -/

/-- A row of 4 KiB and code 0700. -/
def sampleRow (number first last : Nat) (name : String) : Option Row :=
  if plain : printable name.toList = true then
    some { number := number, first := first, last := last, size := 4, tenth := some 0
           unit := ['K', 'i', 'B'], code := ['0', '7', '0', '0'], name := name.toList
           unit_word := ⟨List.cons_ne_nil _ _, rfl⟩
           code_hex := ⟨rfl, rfl⟩
           name_printable := plain }
  else none

/-- The factory entries, with an entry without a name in front of userdata. -/
def changedRows : List Row :=
  (stockTable.dropLast ++ [(36, 2758144, 2762239, ""), (35, 2762240, 61731834, "userdata")]).filterMap
    (fun (entry : Nat × Int × Int × String) =>
      sampleRow entry.1 entry.2.1.toNat entry.2.2.1.toNat entry.2.2.2)

def sampleHeading : Heading :=
  { path := "/dev/block/sda".toList
    total := 61731840
    size := "235.5 GiB".toList
    model := none
    sector := 4096
    physical := some 4096
    guid := "98101B32-BBE2-4BF2-A06E-2BB33D000C20".toList
    entries := 64
    mainFirst := 2
    mainLast := 5
    first := 6
    last := 61731834
    aligned := 2
    free := 0
    freeSize := "0 bytes".toList }

theorem sampleHeading_printed : sampleHeading.Printed := by
  constructor
  · constructor
    · decide +kernel
    · decide +kernel
  · decide +kernel
  · decide +kernel

def changedTable : Table :=
  { heading := sampleHeading
    heading_printed := sampleHeading_printed
    rows := changedRows }

/-- What the installer reads of it: the factory table with a shorter userdata. -/
def passing : Disk :=
  { sectorSize := 4096
    totalSectors := 61731840
    firstUsable := 6
    lastUsable := 61731834
    entryCount := 64
    partitions := (stockTable.dropLast ++ [(35, 2762240, 61731834, "userdata")]).map
      (fun (entry : Nat × Int × Int × String) =>
        { number := entry.1
          firstSector := entry.2.1
          lastSector := entry.2.2.1
          name := entry.2.2.2
          sectorSize := 4096 }) }

theorem changed_read : parsePrint changedTable.text = .ok passing := by
  rw [parsePrint_text]
  apply congrArg
  decide +kernel

theorem changed_passes :
    changedTable.rows.length = 36 ∧ parsePrint changedTable.text = .ok passing ∧
      passing.partitions.length = 35 ∧ classify passing = .ok .stock ∧
      checkStockDevice passing = .ok () := by
  refine ⟨by decide +kernel, changed_read, rfl, ?_, ?_⟩
  · decide +kernel
  · decide +kernel

end Liuqin.Layout.Report
