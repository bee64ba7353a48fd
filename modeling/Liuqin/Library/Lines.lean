/-
Texts as lines and fields.

A text is a list of characters.  The readers here are those of a shell and of
Python: lines that a newline ends, lines that any line boundary ends, the first
occurrence of a separator, and two fields split at blanks.
-/

import Mathlib.Algebra.GroupWithZero.Nat
import Mathlib.Data.List.Basic

namespace Liuqin.Library.Lines

abbrev Text := List Char

/-! ### Literals -/

def texts (strings : List String) : List Text := strings.map String.toList

theorem texts_nil : texts [] = [] := rfl

theorem texts_cons {string : String} {text : Text} {strings : List String} {rest : List Text}
    (same : string = String.ofList text) (later : texts strings = rest) :
    texts (string :: strings) = text :: rest := by
  rw [texts, List.map_cons, same, String.toList_ofList]
  rw [texts] at later
  rw [later]

/-- A check of literals is run on their characters. -/
theorem check_texts {check : List Text → Bool} {strings : List String} {explicit : List Text}
    (same : texts strings = explicit) (checked : check explicit = true) :
    check (texts strings) = true := by
  rw [same]
  exact checked

/-! ### The first occurrence of a separator -/

section Break

variable {α : Type} [DecidableEq α]

/-- What stands before and after the first occurrence. -/
def breakAt (separator : List α) : List α → Option (List α × List α)
  | [] => none
  | first :: rest =>
      if separator.isPrefixOf (first :: rest) then
        some ([], (first :: rest).drop separator.length)
      else (breakAt separator rest).map (fun pieces => (first :: pieces.1, pieces.2))

theorem breakAt_append {mark : α} {more front back : List α} (absent : mark ∉ front) :
    breakAt (mark :: more) (front ++ (mark :: more) ++ back) = some (front, back) := by
  induction front with
  | nil =>
      have here : (mark :: more).isPrefixOf ((mark :: more) ++ back) = true :=
        List.isPrefixOf_iff_prefix.mpr (List.prefix_append _ _)
      rw [List.nil_append]
      rw [List.cons_append] at here ⊢
      rw [breakAt, if_pos here, ← List.cons_append, List.drop_left]
  | cons char front ih =>
      have other : mark ≠ char := by
        intro same
        apply absent
        rw [same]
        exact List.mem_cons_self
      have elsewhere :
          ¬ (mark :: more).isPrefixOf (char :: (front ++ (mark :: more) ++ back)) = true := by
        intro here
        exact other (List.cons_prefix_cons.mp (List.isPrefixOf_iff_prefix.mp here)).1
      have later := ih (fun member => absent (List.mem_cons_of_mem _ member))
      rw [List.cons_append, List.cons_append, breakAt, if_neg elsewhere, later]
      rfl

omit [DecidableEq α] in
theorem prefix_line {stop : α} {head line rest : List α} (plain : stop ∉ head)
    (start : head <+: line ++ stop :: rest) : head <+: line := by
  obtain ⟨tail, same⟩ := start
  rcases List.append_eq_append_iff.mp same with ⟨more, whole, _⟩ | ⟨more, whole, behind⟩
  · rw [whole]
    exact List.prefix_append _ _
  · cases more with
    | nil =>
        rw [List.append_nil] at whole
        rewrite [whole]
        exact List.prefix_refl line
    | cons first more =>
        rw [List.cons_append] at behind
        injection behind with behind _
        exfalso
        apply plain
        rw [whole, behind]
        exact List.mem_append_right _ List.mem_cons_self

/-- A separator without line ends is not found across a line end. -/
theorem breakAt_line {stop : α} {separator line rest : List α} (some_mark : separator ≠ [])
    (plain : stop ∉ separator) (absent : breakAt separator line = none) :
    breakAt separator (line ++ stop :: rest) =
      (breakAt separator rest).map (fun pieces => (line ++ stop :: pieces.1, pieces.2)) := by
  induction line with
  | nil =>
      have start (here : separator.isPrefixOf (stop :: rest) = true) :
          separator <+: [] ++ stop :: rest := List.isPrefixOf_iff_prefix.mp here
      have elsewhere : ¬separator.isPrefixOf (stop :: rest) = true := by
        intro here
        apply some_mark
        exact List.prefix_nil.mp (prefix_line plain (start here))
      rw [List.nil_append, breakAt, if_neg elsewhere]
      rfl
  | cons char line ih =>
      rw [breakAt] at absent
      by_cases here : separator.isPrefixOf (char :: line) = true
      · rw [if_pos here] at absent
        cases absent
      · rw [if_neg here, Option.map_eq_none_iff] at absent
        have elsewhere : ¬separator.isPrefixOf (char :: (line ++ stop :: rest)) = true := by
          intro start
          apply here
          apply List.isPrefixOf_iff_prefix.mpr
          exact prefix_line plain (List.isPrefixOf_iff_prefix.mp start)
        rw [List.cons_append, breakAt, if_neg elsewhere, ih absent]
        cases breakAt separator rest with
        | none => rfl
        | some pieces => rfl

theorem breakAt_here {separator rest : List α} (some_mark : separator ≠ []) :
    breakAt separator (separator ++ rest) = some ([], rest) := by
  cases separator with
  | nil => exact absurd rfl some_mark
  | cons mark more =>
      have here : (mark :: more).isPrefixOf ((mark :: more) ++ rest) = true :=
        List.isPrefixOf_iff_prefix.mpr (List.prefix_append _ _)
      rw [List.cons_append] at here ⊢
      rw [breakAt, if_pos here, ← List.cons_append, List.drop_left]

end Break

def contains (piece text : Text) : Bool := piece = [] || (breakAt piece text).isSome

/-! ### Lines that a newline ends -/

def endedFrom (line : Text) : Text → List Text
  | [] => []
  | char :: rest =>
      if char = '\n' then line :: endedFrom [] rest else endedFrom (line ++ [char]) rest

/-- The lines of a text; what follows the last newline is none. -/
def endedLines (text : Text) : List Text := endedFrom [] text

def terminated (lines : List Text) : Text := lines.flatMap (fun line => line ++ ['\n'])

theorem terminated_cons (line : Text) (rest : List Text) :
    terminated (line :: rest) = line ++ '\n' :: terminated rest := by
  rw [terminated, List.flatMap_cons, List.append_assoc]
  rfl

theorem terminated_append (front back : List Text) :
    terminated (front ++ back) = terminated front ++ terminated back := by
  rw [terminated, List.flatMap_append]
  rfl

/-- The first occurrence of a separator that the lines before it do not hold. -/
theorem breakAt_lines {separator rest : Text} {lines : List Text} (some_mark : separator ≠ [])
    (plain : '\n' ∉ separator) (absent : ∀ line ∈ lines, breakAt separator line = none) :
    breakAt separator (terminated lines ++ (separator ++ rest)) =
      some (terminated lines, rest) := by
  induction lines with
  | nil => exact breakAt_here some_mark
  | cons line lines ih =>
      have later := ih (fun other member => absent other (List.mem_cons_of_mem _ member))
      rw [terminated_cons, List.append_assoc, List.cons_append]
      rw [breakAt_line some_mark plain (absent line List.mem_cons_self), later]
      rfl

theorem endedFrom_append {line front : Text} (rest : Text) (plain : '\n' ∉ front) :
    endedFrom line (front ++ '\n' :: rest) = (line ++ front) :: endedFrom [] rest := by
  induction front generalizing line with
  | nil => rw [List.nil_append, endedFrom, if_pos rfl, List.append_nil]
  | cons char front ih =>
      have other : char ≠ '\n' := by
        intro same
        apply plain
        rw [same]
        exact List.mem_cons_self
      rw [List.cons_append, endedFrom, if_neg other,
        ih (fun member => plain (List.mem_cons_of_mem _ member)), List.append_assoc]
      rfl

theorem endedLines_terminated {lines : List Text} (plain : ∀ line ∈ lines, '\n' ∉ line) :
    endedLines (terminated lines) = lines := by
  induction lines with
  | nil => rfl
  | cons line rest ih =>
      have later := ih (fun other member => plain other (List.mem_cons_of_mem _ member))
      rw [terminated_cons, endedLines, endedFrom_append _ (plain line List.mem_cons_self), List.nil_append]
      rw [endedLines] at later
      rw [later]

theorem join_terminated {line : Text} (lines : List Text) :
    List.intercalate ['\n'] (line :: lines) ++ ['\n'] = terminated (line :: lines) := by
  induction lines generalizing line with
  | nil => simp [List.intercalate, terminated]
  | cons next rest ih =>
      have later : List.intercalate ['\n'] (next :: rest) ++ ['\n'] = terminated (next :: rest) := ih
      rw [List.intercalate_cons_cons, List.append_assoc, later, terminated_cons line,
        List.append_assoc]
      rfl

theorem terminated_length (lines : List Text) :
    (terminated lines).length = (lines.map (fun line => line.length + 1)).sum := by
  rw [terminated, List.length_flatMap]
  simp only [List.length_append, List.length_singleton]

/-- `tail -n +2` -/
def withoutFirst (text : Text) : Text := ((breakAt ['\n'] text).map Prod.snd).getD []

theorem withoutFirst_terminated {line : Text} (rest : List Text) (plain : '\n' ∉ line) :
    withoutFirst (terminated (line :: rest)) = terminated rest := by
  have split : terminated (line :: rest) = line ++ ['\n'] ++ terminated rest := by
    rw [terminated_cons, List.append_assoc]
    rfl
  rw [split, withoutFirst, breakAt_append plain]
  rfl

/-! ### The reading of a shell -/

/-- `read` drops null characters. -/
def keptByRead (line : Text) : Text := line.filter (fun char => char.val ≠ 0)

theorem keptByRead_plain {line : Text} (plain : ∀ char ∈ line, char.val ≠ 0) :
    keptByRead line = line := by
  apply List.filter_eq_self.mpr
  intro char member
  exact decide_eq_true (plain char member)

def blank (char : Char) : Bool := char = ' ' || char = '\t'

def trimEnd (text : Text) : Text := (text.reverse.dropWhile blank).reverse

def fields (text : Text) : Text × Text :=
  (text.takeWhile (fun char => !blank char),
    trimEnd ((text.dropWhile (fun char => !blank char)).dropWhile blank))

/-- `read -r FIRST REST`, split at blanks. -/
def readFields (line : Text) : Text × Text := fields ((keptByRead line).dropWhile blank)

theorem dropWhile_start {keep : Char → Bool} {text : Text}
    (starts : ∀ char, text.head? = some char → keep char = false) :
    text.dropWhile keep = text := by
  cases text with
  | nil => rfl
  | cons char rest =>
      have stops : ¬ keep char = true := by
        rw [starts char rfl]
        decide
      rw [List.dropWhile_cons, if_neg stops]

/-- Two fields with blanks between them, neither blank at its ends. -/
theorem readFields_pair {first gap rest : Text} (plain : ∀ char ∈ first ++ gap ++ rest, char.val ≠ 0)
    (some_gap : gap ≠ []) (first_solid : ∀ char ∈ first, blank char = false)
    (gap_blank : ∀ char ∈ gap, blank char = true)
    (some_first : first ≠ [])
    (starts : ∀ char, rest.head? = some char → blank char = false)
    (ends : ∀ char, rest.getLast? = some char → blank char = false) :
    readFields (first ++ gap ++ rest) = (first, rest) := by
  have solid : ∀ char ∈ first, (fun char => !blank char) char = true := by
    intro char member
    show (!blank char) = true
    rw [first_solid char member]
    rfl
  have leading : (first ++ (gap ++ rest)).dropWhile blank = first ++ (gap ++ rest) := by
    apply dropWhile_start
    intro char head
    cases first with
    | nil => exact absurd rfl some_first
    | cons start more =>
        have same : start = char := Option.some.inj head
        rw [← same]
        exact first_solid start List.mem_cons_self
  obtain ⟨mark, more, rfl⟩ : ∃ mark more, gap = mark :: more := by
    cases gap with
    | nil => exact absurd rfl some_gap
    | cons mark more => exact ⟨mark, more, rfl⟩
  have marked : blank mark = true := gap_blank mark List.mem_cons_self
  have stops : ((mark :: more) ++ rest).takeWhile (fun char => !blank char) = [] := by
    rw [List.cons_append, List.takeWhile_cons, marked]
    rfl
  have remains : ((mark :: more) ++ rest).dropWhile (fun char => !blank char) =
      (mark :: more) ++ rest := by
    rw [List.cons_append, List.dropWhile_cons, marked]
    rfl
  have reversed : rest.reverse.dropWhile blank = rest.reverse := by
    apply dropWhile_start
    intro char head
    rw [List.head?_reverse] at head
    exact ends char head
  rw [readFields, keptByRead_plain plain, List.append_assoc, leading, fields, trimEnd]
  rw [List.takeWhile_append_of_pos solid, List.dropWhile_append_of_pos solid, stops, remains]
  rw [List.dropWhile_append_of_pos gap_blank, dropWhile_start starts, reversed,
    List.reverse_reverse, List.append_nil]

/-! ### Words -/

section Words

variable {α : Type} {gap : α → Bool}

/-- How many words start in a text; `inside` says that one goes on into it. -/
def wordsFrom (gap : α → Bool) : Bool → List α → Nat
  | _, [] => 0
  | inside, char :: rest =>
      if gap char then wordsFrom gap false rest
      else (if inside then 0 else 1) + wordsFrom gap true rest

/-- A gap ends the words before it, whatever they are. -/
theorem wordsFrom_gap {inside : Bool} {front between back : List α} (some_gap : between ≠ [])
    (gaps : ∀ char ∈ between, gap char = true) :
    wordsFrom gap inside (front ++ (between ++ back)) =
      wordsFrom gap inside front + wordsFrom gap false back := by
  induction front generalizing inside with
  | nil =>
      rw [List.nil_append, wordsFrom, Nat.zero_add]
      induction between generalizing inside with
      | nil => exact absurd rfl some_gap
      | cons char more ih =>
          rw [List.cons_append, wordsFrom, if_pos (gaps char List.mem_cons_self)]
          by_cases last : more = []
          · rw [last, List.nil_append]
          · exact ih last (fun other member => gaps other (List.mem_cons_of_mem _ member))
  | cons char front ih =>
      rw [List.cons_append, wordsFrom, wordsFrom]
      split
      · exact ih
      · rw [ih, Nat.add_assoc]

theorem wordsFrom_blank {inside : Bool} {text : List α} (gaps : ∀ char ∈ text, gap char = true) :
    wordsFrom gap inside text = 0 := by
  induction text generalizing inside with
  | nil => rfl
  | cons char rest ih =>
      rw [wordsFrom, if_pos (gaps char List.mem_cons_self)]
      exact ih (fun other member => gaps other (List.mem_cons_of_mem _ member))

theorem wordsFrom_solid {text : List α} (solid : ∀ char ∈ text, gap char = false) :
    wordsFrom gap true text = 0 := by
  induction text with
  | nil => rfl
  | cons char rest ih =>
      rw [wordsFrom, solid char List.mem_cons_self, if_neg (by decide), if_pos rfl, Nat.zero_add]
      exact ih (fun other member => solid other (List.mem_cons_of_mem _ member))

theorem wordsFrom_word {text : List α} (some_text : text ≠ [])
    (solid : ∀ char ∈ text, gap char = false) : wordsFrom gap false text = 1 := by
  cases text with
  | nil => exact absurd rfl some_text
  | cons char rest =>
      have later := wordsFrom_solid (fun other member => solid other (List.mem_cons_of_mem _ member))
      rw [wordsFrom, solid char List.mem_cons_self, if_neg (by decide), if_neg (by decide), later]

/-- A text that begins with a word has one at least. -/
theorem wordsFrom_pos {char : α} {rest : List α} (solid : gap char = false) :
    1 ≤ wordsFrom gap false (char :: rest) := by
  rw [wordsFrom, solid, if_neg (by decide), if_neg (by decide)]
  exact Nat.le_add_right _ _

/-- The words of a text, split at runs of gap characters; `word` is the one
that is being read. -/
def splitWords (gap : α → Bool) (word : List α) : List α → List (List α)
  | [] => if word.isEmpty then [] else [word]
  | char :: rest =>
      if gap char then
        if word.isEmpty then splitWords gap [] rest else word :: splitWords gap [] rest
      else splitWords gap (word ++ [char]) rest

theorem splitWords_gaps {word tail : List α} (gaps : ∀ char ∈ tail, gap char = true) :
    splitWords gap word tail = splitWords gap word [] := by
  induction tail generalizing word with
  | nil => rfl
  | cons char tail ih =>
      have later : splitWords gap [] tail = [] :=
        ih (fun other member => gaps other (List.mem_cons_of_mem _ member))
      have here : splitWords gap word (char :: tail) =
          if word.isEmpty then splitWords gap [] tail else word :: splitWords gap [] tail := by
        rw [splitWords, if_pos (gaps char List.mem_cons_self)]
      rw [here, later]
      rfl

/-- Gaps at the end of a text end its last word at most. -/
theorem splitWords_trailing {word text tail : List α} (gaps : ∀ char ∈ tail, gap char = true) :
    splitWords gap word (text ++ tail) = splitWords gap word text := by
  induction text generalizing word with
  | nil => exact splitWords_gaps gaps
  | cons char text ih => rw [List.cons_append, splitWords, splitWords, ih, ih]

end Words

/-! ### A text within a text -/

section Within

variable {α : Type} [DecidableEq α]

/-- `strstr(text, piece)` finds something. -/
def strstr (piece : List α) : List α → Bool
  | [] => piece.isEmpty
  | char :: rest => piece.isPrefixOf (char :: rest) || strstr piece rest

theorem strstr_iff {piece text : List α} : strstr piece text = true ↔ piece <:+: text := by
  induction text with
  | nil => rw [strstr, List.isEmpty_iff, List.infix_nil]
  | cons char rest ih =>
      rw [strstr, Bool.or_eq_true, List.isPrefixOf_iff_prefix, ih, List.infix_cons_iff]

omit [DecidableEq α] in
/-- A piece that a character does not occur in is on one side of it. -/
theorem infix_around {piece front back : List α} {char : α} (absent : char ∉ piece) :
    piece <:+: front ++ char :: back ↔ piece <:+: front ∨ piece <:+: back := by
  induction front with
  | nil =>
      rw [List.nil_append, List.infix_cons_iff, List.infix_nil]
      constructor
      · rintro (start | later)
        · have nothing : piece <+: [] ++ char :: back := start
          exact Or.inl (List.prefix_nil.mp (prefix_line absent nothing))
        · exact Or.inr later
      · rintro (rfl | later)
        · exact Or.inl (List.nil_prefix)
        · exact Or.inr later
  | cons first front ih =>
      rw [List.cons_append, List.infix_cons_iff, ih, List.infix_cons_iff]
      constructor
      · rintro (start | inside | later)
        · exact Or.inl (Or.inl (prefix_line absent start))
        · exact Or.inl (Or.inr inside)
        · exact Or.inr later
      · rintro ((start | inside) | later)
        · exact Or.inl (start.trans (List.prefix_append (first :: front) _))
        · exact Or.inr (Or.inl inside)
        · exact Or.inr (Or.inr later)

omit [DecidableEq α] in
/-- A piece without gaps is in a text when it is in one of its words. -/
theorem infix_splitWords {gap : α → Bool} {piece : List α} (some_piece : piece ≠ [])
    (within : ∀ char ∈ piece, gap char = false) (word text : List α) :
    piece <:+: word ++ text ↔ ∃ found ∈ splitWords gap word text, piece <:+: found := by
  induction text generalizing word with
  | nil =>
      rw [List.append_nil, splitWords]
      cases word with
      | nil =>
          constructor
          · intro inside
            exact absurd (List.infix_nil.mp inside) some_piece
          · rintro ⟨found, member, _⟩
            exact absurd member List.not_mem_nil
      | cons first word =>
          constructor
          · intro inside
            exact ⟨first :: word, List.mem_singleton_self _, inside⟩
          · rintro ⟨found, member, inside⟩
            rw [List.mem_singleton.mp member] at inside
            exact inside
  | cons char rest ih =>
      rw [splitWords]
      by_cases between : gap char = true
      · have absent : char ∉ piece := by
          intro member
          rw [within char member] at between
          cases between
        have later := ih []
        rw [List.nil_append] at later
        rw [if_pos between, infix_around absent, later]
        cases word with
        | nil =>
            constructor
            · rintro (inside | found)
              · exact absurd (List.infix_nil.mp inside) some_piece
              · exact found
            · exact Or.inr
        | cons first word =>
            rw [List.isEmpty_cons, if_neg Bool.false_ne_true]
            simp only [List.mem_cons, exists_eq_or_imp]
      · rw [if_neg between, ← ih (word ++ [char]), List.append_assoc]
        rfl

end Within

/-! ### The lines of Python -/

/-- The characters that end a line for `str.splitlines`. -/
def boundaries : List Char :=
  [0x0a, 0x0b, 0x0c, 0x0d, 0x1c, 0x1d, 0x1e, 0x85, 0x2028, 0x2029].map Char.ofNat

def splitFrom (line : Text) : Text → List Text
  | [] => if line = [] then [] else [line]
  | '\r' :: '\n' :: rest => line :: splitFrom [] rest
  | char :: rest =>
      if char ∈ boundaries then line :: splitFrom [] rest else splitFrom (line ++ [char]) rest

/-- `str.splitlines` -/
def splitlines (text : Text) : List Text := splitFrom [] text

theorem splitFrom_append {line front : Text} (rest : Text)
    (plain : ∀ char ∈ front, char ∉ boundaries) :
    splitFrom line (front ++ '\n' :: rest) = (line ++ front) :: splitFrom [] rest := by
  induction front generalizing line with
  | nil =>
      have boundary : '\n' ∈ boundaries := by decide
      rw [List.nil_append, List.append_nil, splitFrom, if_pos boundary]
      intro _ impossible
      exact absurd impossible (by decide)
  | cons char front ih =>
      have inside : char ∉ boundaries := plain char List.mem_cons_self
      rw [List.cons_append, splitFrom, if_neg inside,
        ih (fun other member => plain other (List.mem_cons_of_mem _ member)), List.append_assoc]
      · rfl
      · intro _ same _
        apply inside
        rw [same]
        decide

/-- Python and a shell read the same lines where no other boundary occurs. -/
theorem splitlines_terminated {lines : List Text}
    (plain : ∀ line ∈ lines, ∀ char ∈ line, char ∉ boundaries) :
    splitlines (terminated lines) = lines := by
  induction lines with
  | nil => rfl
  | cons line rest ih =>
      have later := ih (fun other member => plain other (List.mem_cons_of_mem _ member))
      rw [terminated_cons, splitlines, splitFrom_append _ (plain line List.mem_cons_self),
        List.nil_append]
      rw [splitlines] at later
      rw [later]

theorem splitlines_append {lines : List Text} (tail : Text)
    (plain : ∀ line ∈ lines, ∀ char ∈ line, char ∉ boundaries) :
    splitlines (terminated lines ++ tail) = lines ++ splitlines tail := by
  induction lines with
  | nil => rfl
  | cons line rest ih =>
      have later := ih (fun other member => plain other (List.mem_cons_of_mem _ member))
      rw [terminated_cons, List.append_assoc, List.cons_append, splitlines,
        splitFrom_append _ (plain line List.mem_cons_self), List.nil_append]
      rw [splitlines] at later
      rw [later, List.cons_append]

/-- A text without line boundaries is one line, unless it is empty. -/
theorem splitFrom_plain {line text : Text} (plain : ∀ char ∈ text, char ∉ boundaries) :
    splitFrom line text = if line ++ text = [] then [] else [line ++ text] := by
  induction text generalizing line with
  | nil => rw [splitFrom, List.append_nil]
  | cons char rest ih =>
      have inside : char ∉ boundaries := plain char List.mem_cons_self
      rw [splitFrom, if_neg inside,
        ih (fun other member => plain other (List.mem_cons_of_mem _ member)), List.append_assoc]
      · rfl
      · intro _ same _
        apply inside
        rw [same]
        decide

/-- `str.partition`, without the separator. -/
def partition (separator text : Text) : Text × Text := (breakAt separator text).getD (text, [])

end Liuqin.Library.Lines
