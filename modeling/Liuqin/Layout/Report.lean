/-
The table report of sgdisk and how the installer reads it
(tools/lib/liuqin_layout.py, PRINT_ROW and parse_print).

The rows are matched one by one, and a row that does not match is passed over
in silence.  The reports here are those that `sgdisk -p` prints: a heading of
fixed lines, then a row for every entry, in columns.
-/

import Mathlib.Data.List.Sort
import Liuqin.Library.Lines
import Liuqin.Library.Numerals
import Liuqin.Library.Regex
import Liuqin.Layout.Gpt

namespace Liuqin.Layout.Report

open Liuqin.Library.Lines
open Liuqin.Library.Numerals
open Liuqin.Library.Regex

/-! ### The reader -/

def isNewline (char : Char) : Bool := decide (char = '\n')
def solid (char : Char) : Bool := !isSpace char
/-- `.` -/
def inLine (char : Char) : Bool := !isNewline char

/-- `[0-9A-Fa-f]` -/
def isHex (char : Char) : Bool :=
  (48 ≤ char.toNat && char.toNat ≤ 57) || (65 ≤ char.toNat && char.toNat ≤ 70) ||
    (97 ≤ char.toNat && char.toNat ≤ 102)

def blanks : Pattern Char := several isSpace
def mayBlank : Pattern Char := .many false isSpace
def digits : Pattern Char := several isDigit
def lineStart : Pattern Char := .start (some isNewline)

def codeDigits : Pattern Char :=
  .all [.one isHex, .one isHex, .one isHex, .one isHex]

/-- `(\S.*?)` -/
def nameColumn : Pattern Char := .group (.seq (.one solid) (.many true inLine))

/-- `PRINT_ROW` -/
def printRow : Pattern Char :=
  .all [.start none, mayBlank, .group digits, blanks, .group digits, blanks, .group digits, blanks,
    digits, .option (.seq (.one (fun char => decide (char = '.'))) digits), blanks, several solid,
    blanks, codeDigits, blanks, nameColumn, mayBlank, .finish isNewline]

def sectorWord : Text := "Sector size (logical".toList
def physicalWord : Text := "/physical".toList
def sectorMark : Text := "):".toList
def diskWord : Text := "Disk".toList
def sectorsWord : Text := "sectors".toList
def firstWord : Text := "First usable sector is ".toList
def lastWord : Text := ", last usable sector is ".toList
def holdsWord : Text := "Partition table holds up to ".toList
def entriesWord : Text := " entries".toList
def columnsWord : Text := "Number  Start (sector)".toList

def sectorPattern : Pattern Char :=
  .all [lineStart, literal sectorWord, .option (literal physicalWord), literal sectorMark,
    mayBlank, .group digits]

def diskPattern : Pattern Char :=
  .all [lineStart, literal diskWord, blanks, several solid, literal [':'], mayBlank,
    .group digits, blanks, literal sectorsWord]

def usablePattern : Pattern Char :=
  .all [lineStart, literal firstWord, .group digits, literal lastWord, .group digits]

def entriesPattern : Pattern Char :=
  .all [lineStart, literal holdsWord, .group digits, literal entriesWord]

/-- `int(match[group])` -/
def groupNumber (found : Match Char) (group : Nat) : Nat := number (found.groups.getD (group - 1) [])

def one (text : Text) (pattern : Pattern Char) (label : String) (group : Nat) :
    Except LayoutError Nat :=
  match search pattern text 0 with
  | none => .error ⟨"cannot read " ++ label ++ " from the partition table report"⟩
  | some found => .ok (groupNumber found group)

def readRow (sectorSize : Nat) (line : Text) : Option Partition :=
  (matchAt printRow ⟨[], line⟩).map (fun found =>
    { number := groupNumber found 1
      firstSector := groupNumber found 2
      lastSector := groupNumber found 3
      name := String.ofList (found.groups.getD 3 [])
      sectorSize := sectorSize })

def readRows (sectorSize : Nat) (text : Text) : List Partition :=
  match breakAt columnsWord text with
  | none => []
  | some (_, body) => ((splitlines body).drop 1).filterMap (readRow sectorSize)

def sorted (partitions : List Partition) : List Partition :=
  partitions.insertionSort (fun one two => one.firstSector ≤ two.firstSector)

/-- Parse the output of `sgdisk -p DEVICE`. -/
def parsePrint (text : Text) : Except LayoutError Disk := do
  let sectorSize ← one text sectorPattern "the sector size" 1
  let total ← one text diskPattern "the disk size" 1
  let first ← one text usablePattern "the usable range" 1
  let last ← one text usablePattern "the usable range" 2
  let entries ← one text entriesPattern "the table capacity" 1
  return { sectorSize := sectorSize
           totalSectors := total
           firstUsable := first
           lastUsable := last
           entryCount := entries
           partitions := sorted (readRows sectorSize text) }

/-! ### The rows that sgdisk prints -/

def printable (text : Text) : Bool := text.all (fun char => !boundaries.contains char)

/-- One row of the report: number, bounds, size with its unit, type code, name. -/
structure Row where
  number : Nat
  first : Nat
  last : Nat
  size : Nat
  tenth : Option Nat
  unit : Text
  code : Text
  name : Text
  unit_word : unit ≠ [] ∧ unit.all solid = true
  code_hex : code.length = 4 ∧ code.all isHex = true
  name_printable : printable name = true

/-- The blanks in front of a column that is set to the right. -/
def indent (width : Nat) (text : Text) : Text := List.replicate (width - text.length) ' '

def Row.decimal (row : Row) : Text :=
  match row.tenth with
  | none => []
  | some tenth => '.' :: numeral tenth

def Row.sizeText (row : Row) : Text := numeral row.size ++ row.decimal ++ [' '] ++ row.unit

def Row.line (row : Row) : Text :=
  indent 4 (numeral row.number) ++ numeral row.number ++ [' ', ' '] ++
    indent 14 (numeral row.first) ++ numeral row.first ++ [' ', ' '] ++
    indent 14 (numeral row.last) ++ numeral row.last ++ [' ', ' ', ' '] ++
    row.sizeText ++ indent 10 row.sizeText ++ [' ', ' '] ++ row.code ++ [' ', ' '] ++ row.name

def Row.partition (sectorSize : Nat) (row : Row) : Partition :=
  { number := row.number
    firstSector := row.first
    lastSector := row.last
    name := String.ofList (strip row.name)
    sectorSize := sectorSize }

/-! ### Blanks and columns -/

theorem isSpace_blank : isSpace ' ' = true := rfl

theorem solid_iff {char : Char} : solid char = true ↔ isSpace char = false := by
  rw [solid, Bool.not_eq_true']

theorem indent_blank (width : Nat) (text : Text) : ∀ char ∈ indent width text, char = ' ' :=
  fun _ member => List.eq_of_mem_replicate member

/-- Blanks between two columns. -/
structure Gap (gap : Text) : Prop where
  some_gap : gap ≠ []
  blank : ∀ char ∈ gap, char = ' '

theorem Gap.spaces {gap : Text} (between : Gap gap) : ∀ char ∈ gap, isSpace char = true := by
  intro char member
  rw [between.blank char member]
  rfl

/-- What does not take a blank stops in front of a gap. -/
theorem Gap.stops {gap rest : Text} {accepts : Char → Bool} (between : Gap gap)
    (refuses : accepts ' ' = false) :
    ∀ char, (gap ++ rest).head? = some char → accepts char = false := by
  intro char head
  cases gap with
  | nil => exact absurd rfl between.some_gap
  | cons first more =>
      injection head with same
      rw [← same, between.blank first List.mem_cons_self]
      exact refuses

theorem Gap.indent {front : Text} (between : Gap front) (width : Nat) (text : Text) :
    Gap (front ++ indent width text) := by
  constructor
  · intro empty
    exact between.some_gap (List.append_eq_nil_iff.mp empty).1
  · intro char member
    rcases List.mem_append.mp member with early | late
    · exact between.blank char early
    · exact indent_blank width text char late

theorem Gap.indented {back : Text} (between : Gap back) (width : Nat) (text : Text) :
    Gap (Report.indent width text ++ back) := by
  constructor
  · intro empty
    exact between.some_gap (List.append_eq_nil_iff.mp empty).2
  · intro char member
    rcases List.mem_append.mp member with early | late
    · exact indent_blank width text char early
    · exact between.blank char late

theorem gap_two : Gap [' ', ' '] := by
  constructor
  · exact List.cons_ne_nil _ _
  · intro char member
    simpa using member

theorem gap_three : Gap [' ', ' ', ' '] := by
  constructor
  · exact List.cons_ne_nil _ _
  · intro char member
    simpa using member

theorem gap_one : Gap [' '] := by
  constructor
  · exact List.cons_ne_nil _ _
  · intro char member
    simpa using member

theorem numeral_digits (value : Nat) : ∀ char ∈ numeral value, isDigit char = true :=
  fun char member => (numeral_plain value char member).isDigit

theorem numeral_solid (value : Nat) : ∀ char ∈ numeral value, isSpace char = false :=
  fun char member => (numeral_plain value char member).isSpace

theorem isHex_solid {char : Char} (hex : isHex char = true) : isSpace char = false := by
  apply Bool.eq_false_iff.mpr
  intro space
  have range := isSpace_cases space
  simp only [isHex, Bool.or_eq_true, Bool.and_eq_true, decide_eq_true_eq] at hex
  omega

theorem isDigit_head {text rest : Text} {value : Nat} (begins : text = numeral value ++ rest) :
    ∀ char, text.head? = some char → isSpace char = false := by
  intro char head
  cases written : numeral value with
  | nil => exact absurd written (numeral_nonempty value)
  | cons first more =>
      rw [begins, written] at head
      injection head with same
      rw [← same]
      apply numeral_solid value
      rw [written]
      exact List.mem_cons_self

/-- A row in its columns, with whatever gaps. -/
theorem Row.line_columns (row : Row) :
    ∃ margin one two three four five,
      row.line = margin ++ (numeral row.number ++ (one ++ (numeral row.first ++ (two ++
        (numeral row.last ++ (three ++ (numeral row.size ++ (row.decimal ++ ([' '] ++ (row.unit ++
          (four ++ (row.code ++ (five ++ row.name))))))))))))) ∧
      (∀ char ∈ margin, isSpace char = true) ∧
      Gap one ∧ Gap two ∧ Gap three ∧ Gap four ∧ Gap five := by
  refine ⟨indent 4 (numeral row.number), [' ', ' '] ++ indent 14 (numeral row.first),
    [' ', ' '] ++ indent 14 (numeral row.last), [' ', ' ', ' '],
    indent 10 row.sizeText ++ [' ', ' '], [' ', ' '], ?_, ?_, gap_two.indent _ _,
    gap_two.indent _ _, gap_three, gap_two.indented _ _, gap_two⟩
  · simp only [Row.line, Row.sizeText, List.append_assoc]
  · intro char member
    rw [indent_blank _ _ char member]
    rfl

end Liuqin.Layout.Report
