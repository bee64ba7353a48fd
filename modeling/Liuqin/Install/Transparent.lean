/-
The command channel hands an output on as it was.

Up to the end marker no line of what arrives begins with the token, save the
line of the start marker.  So however the stream is cut, the loop finds the end
marker when its line is complete and not before, and cuts out what the terminal
made of the output.
-/

import Liuqin.Install.Channel

namespace Liuqin.Install.Channel

open Liuqin.Library Liuqin.Library.Lines Liuqin.Library.Regex

/-! ### Lines -/

/-- Some line of the text begins with this. -/
def LineBegins (text body : Bytes) : Prop :=
  text = body ∨ ∃ front, text = front ++ newline :: body

/-- No line of the text begins with the word. -/
def Calm (word text : Bytes) : Prop := ∀ body, LineBegins text body → ¬word <+: body

theorem lineBegins_append {one other body : Bytes} (begins : LineBegins (one ++ other) body) :
    (∃ front, LineBegins one front ∧ body = front ++ other) ∨
      ∃ front, other = front ++ newline :: body := by
  rcases begins with whole | ⟨front, split⟩
  · exact Or.inl ⟨one, Or.inl rfl, whole.symm⟩
  · rcases List.append_eq_append_iff.mp split with ⟨middle, rfl, rest⟩ | ⟨middle, rfl, rest⟩
    · exact Or.inr ⟨middle, rest⟩
    · cases middle with
      | nil => exact Or.inr ⟨[], rest.symm⟩
      | cons byte middle =>
          rw [List.cons_append] at rest
          injection rest with same rest
          rw [← same]
          exact Or.inl ⟨middle, Or.inr ⟨front, rfl⟩, rest⟩

theorem prefix_before {word front rest : Bytes} {byte : UInt8} (absent : byte ∉ word)
    (standing : word <+: front ++ byte :: rest) : word <+: front := by
  induction front generalizing word with
  | nil =>
      cases word with
      | nil => exact List.nil_prefix
      | cons first word =>
          rw [List.nil_append, List.cons_prefix_cons] at standing
          rw [standing.1] at absent
          exact absurd List.mem_cons_self absent
  | cons other front ih =>
      cases word with
      | nil => exact List.nil_prefix
      | cons first word =>
          rw [List.cons_append, List.cons_prefix_cons] at standing
          rw [List.cons_prefix_cons]
          exact ⟨standing.1,
            ih (fun inside => absent (List.mem_cons_of_mem _ inside)) standing.2⟩

theorem Calm.start {word more text : Bytes} (calm : Calm word text) : Calm (word ++ more) text :=
  fun body begins standing => calm body begins ((List.prefix_append word more).trans standing)

theorem Calm.before {word front rest : Bytes} (calm : Calm word (front ++ rest)) :
    Calm word front := by
  intro body begins standing
  rcases begins with rfl | ⟨early, rfl⟩
  · exact calm _ (Or.inl rfl) (standing.trans (List.prefix_append _ _))
  · apply calm (body ++ rest) (Or.inr ⟨early, ?_⟩) (standing.trans (List.prefix_append _ _))
    rw [List.append_assoc]
    rfl

/-- Two calm texts with a line break of the terminal between them. -/
theorem Calm.join {word one other : Bytes} (noCr : carriageReturn ∉ word) (first : Calm word one)
    (second : Calm word other) : Calm word (one ++ carriageReturn :: newline :: other) := by
  intro body begins standing
  rcases lineBegins_append begins with ⟨front, early, rfl⟩ | ⟨front, split⟩
  · exact first front early (prefix_before noCr standing)
  · cases front with
    | nil => exact absurd split (by simp [carriageReturn, newline])
    | cons byte front =>
        rw [List.cons_append] at split
        injection split with _ split
        cases front with
        | nil =>
            rw [List.nil_append] at split
            injection split with _ same
            exact second body (Or.inl same) standing
        | cons byte front =>
            rw [List.cons_append] at split
            injection split with _ split
            exact second body (Or.inr ⟨front, split⟩) standing

theorem Calm.ended {word text : Bytes} (noCr : carriageReturn ∉ word) (calm : Calm word text) :
    Calm word (text ++ [carriageReturn]) := by
  intro body begins standing
  rcases lineBegins_append begins with ⟨front, early, rfl⟩ | ⟨front, split⟩
  · exact calm front early (prefix_before noCr standing)
  · cases front with
    | nil => exact absurd split (by simp [carriageReturn, newline])
    | cons byte front =>
        rw [List.cons_append] at split
        injection split with _ split
        exact absurd split (by simp)

theorem calm_line {word line : Bytes} (solid : newline ∉ line) (other : ¬word <+: line) :
    Calm word line := by
  intro body begins standing
  rcases begins with rfl | ⟨front, rfl⟩
  · exact other standing
  · exact solid (List.mem_append_right _ List.mem_cons_self)

/-! ### The terminal -/

theorem printed_append (one other : Bytes) :
    printed (one ++ other) = printed one ++ printed other := List.flatMap_append

theorem printed_newline : printed [newline] = [carriageReturn, newline] := rfl

theorem printed_solid {data : Bytes} (solid : newline ∉ data) : printed data = data := by
  induction data with
  | nil => rfl
  | cons byte data ih =>
      have other : ¬byte = newline := fun same => solid (by rw [same]; exact List.mem_cons_self)
      have rest := ih (fun inside => solid (List.mem_cons_of_mem _ inside))
      show (if byte = newline then _ else _) ++ printed data = _
      rw [if_neg other, rest]
      rfl

theorem printed_cons (byte : UInt8) (data : Bytes) :
    printed (byte :: data) =
      (if byte = newline then [carriageReturn, newline] else [byte]) ++ printed data := rfl

/-- A word without line breaks stands in what the terminal prints only where it
stands in the output. -/
theorem prefix_of_printed {word data : Bytes} (noCr : carriageReturn ∉ word)
    (standing : word <+: printed data) : word <+: data := by
  induction data generalizing word with
  | nil => exact standing
  | cons byte data ih =>
      cases word with
      | nil => exact List.nil_prefix
      | cons first word =>
          rw [printed_cons] at standing
          by_cases same : byte = newline
          · rw [if_pos same, List.cons_append, List.cons_prefix_cons] at standing
            rw [standing.1] at noCr
            exact absurd List.mem_cons_self noCr
          · rw [if_neg same, List.cons_append, List.nil_append, List.cons_prefix_cons] at standing
            rw [List.cons_prefix_cons]
            exact ⟨standing.1,
              ih (fun inside => noCr (List.mem_cons_of_mem _ inside)) standing.2⟩

/-- The lines of what the terminal prints are those of the output. -/
theorem lines_of_printed {data body : Bytes} (begins : LineBegins (printed data) body) :
    ∃ rest, body = printed rest ∧ rest <:+ data := by
  rcases begins with whole | ⟨front, split⟩
  · exact ⟨data, whole.symm, List.suffix_refl data⟩
  · induction data generalizing front with
    | nil => exact absurd split (by cases front <;> simp [printed])
    | cons byte data ih =>
        have later : ∀ front, printed data = front ++ newline :: body →
            ∃ rest, body = printed rest ∧ rest <:+ byte :: data := by
          intro front split
          obtain ⟨rest, same, inside⟩ := ih front split
          exact ⟨rest, same, inside.trans (List.suffix_cons byte data)⟩
        rw [printed_cons] at split
        by_cases broken : byte = newline
        · rw [if_pos broken, List.cons_append, List.cons_append, List.nil_append] at split
          cases front with
          | nil => exact absurd split (by simp [carriageReturn, newline])
          | cons one front =>
              rw [List.cons_append] at split
              injection split with _ split
              cases front with
              | nil =>
                  rw [List.nil_append] at split
                  injection split with _ same
                  exact ⟨data, same.symm, List.suffix_cons byte data⟩
              | cons two front =>
                  rw [List.cons_append] at split
                  injection split with _ split
                  exact later front split
        · rw [if_neg broken, List.cons_append, List.nil_append] at split
          cases front with
          | nil =>
              rw [List.nil_append] at split
              injection split with same _
              exact absurd same broken
          | cons one front =>
              rw [List.cons_append] at split
              injection split with _ split
              exact later front split

theorem calm_printed {word data : Bytes} (noCr : carriageReturn ∉ word)
    (absent : ¬word <:+: data) : Calm word (printed data) := by
  intro body begins standing
  obtain ⟨rest, rfl, ⟨front, whole⟩⟩ := lines_of_printed begins
  obtain ⟨back, same⟩ := prefix_of_printed noCr standing
  exact absent ⟨front, back, by rw [List.append_assoc, same, whole]⟩

/-- The replacement undoes what the terminal did; the carriage return of the
line break behind the output is what the suffix strip takes away. -/
theorem replaceCrLf_printed (data : Bytes) :
    replaceCrLf (printed data ++ [carriageReturn]) = data ++ [carriageReturn] := by
  induction data with
  | nil => rfl
  | cons byte data ih =>
      rw [printed_cons]
      by_cases broken : byte = newline
      · rw [if_pos broken, broken]
        show replaceCrLf (13 :: 10 :: (printed data ++ [carriageReturn])) = _
        rw [replaceCrLf, ih]
        rfl
      · rw [if_neg broken]
        show replaceCrLf (byte :: (printed data ++ [carriageReturn])) = _
        rw [replaceCrLf, ih]
        · rfl
        · -- what the terminal prints never begins with a newline
          intro rest _ next
          cases data with
          | nil => exact absurd next (by simp [printed, carriageReturn])
          | cons other data =>
              rw [printed_cons] at next
              by_cases last : other = newline
              · rw [if_pos last] at next
                exact absurd next (by simp [carriageReturn])
              · rw [if_neg last] at next
                injection next with same _
                exact last same

theorem removeCr_ended (data : Bytes) : removeCr (data ++ [carriageReturn]) = data := by
  rw [removeCr, if_pos (by rw [List.getLast?_append]; rfl), List.dropLast_concat]

/-! ### The markers -/

section Markers

variable (token : Token)

theorem Token.solid {byte : UInt8} (member : byte ∈ token.text) :
    byte ≠ newline ∧ byte ≠ carriageReturn := by
  rcases List.mem_append.mp member with early | late
  · have letters : ∀ byte ∈ ([76, 73, 85, 81, 73, 78, 95] : Bytes),
        byte ≠ newline ∧ byte ≠ carriageReturn := by decide +kernel
    exact letters byte early
  · have digit := token.hex byte late
    constructor
    · rintro rfl
      exact absurd digit (by decide)
    · rintro rfl
      exact absurd digit (by decide)

theorem Token.marked {ending : Bytes}
    (letters : ∀ byte ∈ ending, byte ≠ newline ∧ byte ≠ carriageReturn) :
    newline ∉ token.text ++ ending ∧ carriageReturn ∉ token.text ++ ending := by
  constructor
  · intro member
    rcases List.mem_append.mp member with early | late
    · exact (token.solid early).1 rfl
    · exact (letters _ late).1 rfl
  · intro member
    rcases List.mem_append.mp member with early | late
    · exact (token.solid early).2 rfl
    · exact (letters _ late).2 rfl

theorem Token.start_solid : newline ∉ token.start ∧ carriageReturn ∉ token.start :=
  token.marked (by decide +kernel)

theorem Token.stop_solid : newline ∉ token.stop ∧ carriageReturn ∉ token.stop :=
  token.marked (by decide +kernel)

theorem Token.start_length : token.start.length = 45 := by
  rw [Token.start, Token.text, List.length_append, List.length_append, token.length]
  rfl

theorem Token.stop_length : token.stop.length = 43 := by
  rw [Token.stop, Token.text, List.length_append, List.length_append, token.length]
  rfl

theorem Token.stop_other : ¬token.stop <+: token.start := by
  intro standing
  rw [Token.stop, Token.start, List.prefix_append_right_inj] at standing
  exact absurd standing (by decide)

end Markers

theorem statusText_digits (status : Nat) : ∀ byte ∈ statusText status, digitByte byte = true := by
  intro byte member
  obtain ⟨char, inside, rfl⟩ := List.mem_map.mp member
  obtain ⟨digit, bound, rfl⟩ := Numerals.numeral_plain status char inside
  interval_cases digit <;> rfl

theorem statusText_nonempty (status : Nat) : statusText status ≠ [] := by
  intro empty
  exact Numerals.numeral_nonempty status (List.map_eq_nil_iff.mp empty)

theorem intOf_statusText (status : Nat) : intOf (statusText status) = status := by
  have each : ∀ char ∈ Numerals.numeral status,
      ((fun byte : UInt8 => Char.ofNat byte.toNat) ∘ (fun char : Char => UInt8.ofNat char.toNat))
        char = id char := by
    intro char member
    obtain ⟨digit, bound, rfl⟩ := Numerals.numeral_plain status char member
    interval_cases digit <;> rfl
  rw [intOf, statusText, List.map_map, List.map_congr_left each, List.map_id,
    Numerals.number_numeral]

/-! ### What the patterns spell -/

theorem spells_lineStart {passed text rest : Bytes} {groups : List Bytes}
    (spelt : Spells lineStart passed text rest groups) :
    (passed = [] ∧ text = []) ∨ text = [newline] := by
  rcases spells_either.mp spelt with first | second
  · obtain ⟨rfl, here, _⟩ := spells_start.mp first
    cases passed with
    | nil => exact Or.inl ⟨rfl, rfl⟩
    | cons byte passed => exact absurd here Bool.false_ne_true
  · obtain ⟨byte, rfl, taken, _⟩ := spells_one.mp second
    rw [of_decide_eq_true taken]
    exact Or.inr rfl

theorem spells_lineEnd {passed text rest : Bytes} {groups : List Bytes}
    (spelt : Spells lineEnd passed text rest groups) : newline ∈ text := by
  obtain ⟨front, back, _, _, rfl, _, _, other⟩ := spells_seq.mp spelt
  obtain ⟨byte, rfl, taken, _⟩ := spells_one.mp other
  rw [of_decide_eq_true taken]
  exact List.mem_append_right _ List.mem_cons_self

/-- A match of a marker stands at the beginning of a line, and its line is
complete. -/
theorem marker_line {marker : Bytes} {more : Pattern UInt8} {passed whole : Bytes}
    {found : Match UInt8} (ends : ∀ passed text rest groups,
      Spells more passed text rest groups → newline ∈ text)
    (matched : matchAt (.seq lineStart (.seq (literal marker) more)) ⟨passed, whole⟩ =
      some found) :
    ∃ body, ((passed = [] ∧ whole = body) ∨ whole = newline :: body) ∧ marker <+: body ∧
      newline ∈ body.drop marker.length := by
  obtain ⟨text, rest, groups, rfl, spelt, _⟩ := matchAt_sound matched
  obtain ⟨front, back, _, _, rfl, _, one, other⟩ := spells_seq.mp spelt
  obtain ⟨word, tail, _, _, rfl, _, named, further⟩ := spells_seq.mp other
  obtain ⟨rfl, _⟩ := spells_literal.mp named
  refine ⟨word ++ tail ++ rest, ?_, ?_, ?_⟩
  · rcases spells_lineStart one with ⟨rfl, rfl⟩ | rfl
    · exact Or.inl ⟨rfl, rfl⟩
    · exact Or.inr rfl
  · rw [List.append_assoc]
    exact List.prefix_append word _
  · rw [List.append_assoc, List.drop_left]
    exact List.mem_append_left _ (ends _ _ _ _ further)

theorem line_begins {passed whole body : Bytes}
    (here : (passed = [] ∧ whole = body) ∨ whole = newline :: body) :
    LineBegins (passed.reverse ++ whole) body := by
  rcases here with ⟨rfl, rfl⟩ | rfl
  · exact Or.inl rfl
  · exact Or.inr ⟨passed.reverse, rfl⟩

/-- A search finds the first marker behind a calm front. -/
theorem search_marker_first {marker front rest : Bytes} {more : Pattern UInt8} {position : Nat}
    {found : Match UInt8} (ends : ∀ passed text rest groups,
      Spells more passed text rest groups → newline ∈ text)
    (solid : newline ∉ marker) (calm : Calm marker front) (within : position ≤ front.length)
    (here : matchAt (.seq lineStart (.seq (literal marker) more))
      ⟨front.reverse, newline :: rest⟩ = some found) :
    search (.seq lineStart (.seq (literal marker) more)) (front ++ newline :: rest) position =
      some found := by
  rw [search, List.take_append_of_le_length within, List.drop_append_of_le_length within]
  apply searchFrom_first
  · intro early byte late split
    have whole : front.take position ++ early ++ byte :: late = front := by
      rw [List.append_assoc, ← split, List.take_append_drop]
    cases matched : matchAt (.seq lineStart (.seq (literal marker) more))
        ⟨early.reverse ++ (front.take position).reverse, byte :: late ++ newline :: rest⟩ with
    | none => rfl
    | some result =>
        obtain ⟨body, stands, marked, _⟩ := marker_line ends matched
        rcases stands with ⟨first, same⟩ | same
        · obtain ⟨none_early, none_before⟩ := List.append_eq_nil_iff.mp first
          rw [List.reverse_eq_nil_iff.mp none_early, List.reverse_eq_nil_iff.mp none_before] at whole
          rw [← same] at marked
          exact absurd (prefix_before solid marked) (calm _ (Or.inl whole.symm))
        · rw [List.cons_append] at same
          injection same with broken same
          rw [← same] at marked
          rw [broken] at whole
          exact absurd (prefix_before solid marked)
            (calm late (Or.inr ⟨front.take position ++ early, whole.symm⟩))
  · rw [← List.reverse_append, List.take_append_drop]
    exact here

theorem endPattern_ends (passed text rest : Bytes) (groups : List Bytes)
    (spelt : Spells (.seq (.one (is 32)) (.seq (.group (several digitByte)) lineEnd))
      passed text rest groups) : newline ∈ text := by
  obtain ⟨_, _, _, _, rfl, _, _, other⟩ := spells_seq.mp spelt
  obtain ⟨_, _, _, _, rfl, _, _, last⟩ := spells_seq.mp other
  exact List.mem_append_right _ (List.mem_append_right _ (spells_lineEnd last))

/-! ### The transcript -/

section Session

variable (token : Token) (preamble output : Bytes) (status : Nat) (prompt : Bytes)

/-- Up to the newline that begins the line of the end marker. -/
def opening : Bytes :=
  preamble ++ carriageReturn :: newline :: (token.start ++ carriageReturn :: newline ::
    (printed output ++ [carriageReturn]))

/-- The line of the end marker with the newlines at both ends. -/
def closing : Bytes :=
  newline :: (token.stop ++ 32 :: (statusText status ++ [carriageReturn, newline]))

theorem statusText_solid : newline ∉ statusText status := by
  intro member
  exact absurd (statusText_digits status newline member) (by decide)

theorem transcript_eq :
    transcript token preamble output status prompt =
      opening token preamble output ++ (closing token status ++ prompt) := by
  have blank : printed [32] = [32] := rfl
  rw [transcript, shellOutput]
  simp only [printed_append, printed_newline, printed_solid token.start_solid.1,
    printed_solid token.stop_solid.1, printed_solid (statusText_solid status), blank]
  simp only [opening, closing, List.append_assoc, List.cons_append, List.nil_append]

variable {token preamble output status prompt} (calm : Calm token.text preamble)
  (absent : ¬token.text <:+: output)

include calm absent

theorem calm_opening : Calm token.stop (opening token preamble output) := by
  have noCr := token.stop_solid.2
  have textNoCr : carriageReturn ∉ token.text := by
    intro member
    exact (token.solid member).2 rfl
  apply Calm.join noCr calm.start
  apply Calm.join noCr (calm_line token.start_solid.1 token.stop_other)
  apply Calm.ended noCr
  exact Calm.start (calm_printed textNoCr absent)

omit absent in
theorem calm_preamble : Calm token.start (preamble ++ [carriageReturn]) :=
  Calm.ended token.start_solid.2 calm.start

/-! ### The end marker -/

omit calm absent in
theorem take_drop_reverse (buffer : Bytes) (position : Nat) (front back : Bytes)
    (split : buffer.drop position = front ++ back) :
    (front.reverse ++ (buffer.take position).reverse).reverse ++ back = buffer := by
  rw [List.reverse_append, List.reverse_reverse, List.reverse_reverse, List.append_assoc, ← split,
    List.take_append_drop]

omit calm absent in
theorem search_marker_none {marker : Bytes} {more : Pattern UInt8} {buffer : Bytes}
    (ends : ∀ passed text rest groups, Spells more passed text rest groups → newline ∈ text)
    (unmarked : ∀ body, LineBegins buffer body → marker <+: body →
      newline ∉ body.drop marker.length) (position : Nat) :
    search (.seq lineStart (.seq (literal marker) more)) buffer position = none := by
  apply searchFrom_none
  intro front back split
  cases found : matchAt (.seq lineStart (.seq (literal marker) more))
      ⟨front.reverse ++ (buffer.take position).reverse, back⟩ with
  | none => rfl
  | some result =>
      obtain ⟨body, stands, marked, ended⟩ := marker_line ends found
      have begins := line_begins stands
      rw [take_drop_reverse buffer position front back split] at begins
      exact absurd ended (unmarked body begins marked)

/-- The line of the end marker but for its newlines. -/
def closingLine (token : Token) (status : Nat) : Bytes :=
  token.stop ++ 32 :: (statusText status ++ [carriageReturn])

omit calm absent in
theorem closing_eq : closing token status = newline :: (closingLine token status ++ [newline]) := by
  rw [closing, closingLine, List.append_assoc, List.cons_append, List.append_assoc]
  rfl

omit calm absent in
theorem closingLine_solid : newline ∉ closingLine token status := by
  intro member
  rcases List.mem_append.mp member with marker | later
  · exact token.stop_solid.1 marker
  · rcases List.mem_cons.mp later with blank | further
    · exact absurd blank (by decide)
    · rcases List.mem_append.mp further with digit | ended
      · exact statusText_solid status digit
      · exact absurd ended (by decide)

omit calm absent in
theorem closing_length :
    (closing token status).length = (closingLine token status).length + 2 := by
  rw [closing_eq, List.length_cons, List.length_append, List.length_singleton]

omit calm absent in
/-- What has arrived of the line, short of its newline, has no newline in it. -/
theorem closing_inner {rest more : Bytes}
    (split : token.stop ++ 32 :: (statusText status ++ [carriageReturn, newline]) ++ prompt =
      rest ++ more)
    (short : rest.length < (closingLine token status).length + 1) : newline ∉ rest := by
  have whole : closingLine token status ++ newline :: prompt = rest ++ more := by
    rw [← split, closingLine, List.append_assoc, List.append_assoc, List.cons_append,
      List.cons_append, List.append_assoc, List.append_assoc]
    rfl
  have front : rest <+: closingLine token status :=
    List.prefix_of_prefix_length_le (whole ▸ List.prefix_append rest more)
      (List.prefix_append _ _) (by omega)
  intro member
  exact closingLine_solid (front.subset member)

/-- The marker that a line begins with, behind a calm front. -/
theorem search_end_incomplete {buffer more : Bytes}
    (part : buffer ++ more = opening token preamble output ++ (closing token status ++ prompt))
    (incomplete : buffer.length < (opening token preamble output).length +
      (closing token status).length) (position : Nat) :
    search (endPattern token) buffer position = none := by
  apply search_marker_none endPattern_ends
  intro body begins marked
  have calmly := calm_opening calm absent
  rcases List.append_eq_append_iff.mp part with ⟨rest, short, _⟩ | ⟨rest, long, tail⟩
  · -- the buffer ends before the line of the marker begins
    rw [short] at calmly
    exact absurd marked (calmly.before body begins)
  · cases rest with
    | nil =>
        rw [List.append_nil] at long
        rw [long] at begins
        exact absurd marked (calmly body begins)
    | cons byte rest =>
        rw [closing, List.cons_append, List.cons_append] at tail
        injection tail with same tail
        rw [long, ← same] at begins
        rcases lineBegins_append begins with ⟨front, early, rfl⟩ | ⟨front, split⟩
        · exact absurd (prefix_before token.stop_solid.1 marked) (calmly front early)
        · -- the line of the marker has begun, and its newline has not arrived
          have inner := closing_inner tail (by
            rw [long, closing_length, List.length_append, List.length_cons] at incomplete
            omega)
          intro member
          cases front with
          | nil =>
              rw [List.nil_append] at split
              injection split with _ whole
              rw [← whole] at member
              exact inner (List.mem_of_mem_drop member)
          | cons first front =>
              rw [List.cons_append] at split
              injection split with _ whole
              apply inner
              rw [whole]
              exact List.mem_append_right _ List.mem_cons_self

/-! ### A complete line -/

omit calm absent in
theorem run_lineStart {β : Type} (byte : UInt8) (passed rest : Bytes)
    (next : Cursor UInt8 → List Bytes → Option β) :
    run lineStart ⟨byte :: passed, newline :: rest⟩ next =
      next ⟨newline :: byte :: passed, rest⟩ [] := rfl

omit calm absent in
theorem run_lineEnd {β : Type} {passed rest : Bytes}
    {next : Cursor UInt8 → List Bytes → Option β} {result : β}
    (behind : next ⟨newline :: carriageReturn :: passed, rest⟩ [] = some result) :
    run lineEnd ⟨passed, carriageReturn :: newline :: rest⟩ next = some result := by
  rw [lineEnd, run_seq]
  apply run_option
  exact behind

omit calm absent in
theorem match_closing (byte : UInt8) (passed later : Bytes) :
    matchAt (endPattern token) ⟨byte :: passed, closing token status ++ later⟩ =
      some { start := ⟨byte :: passed, closing token status ++ later⟩
             stop := ⟨(closing token status).reverse ++ byte :: passed, later⟩
             groups := [statusText status] } := by
  have shape : closing token status ++ later = newline :: (token.stop ++
      (32 :: (statusText status ++ (carriageReturn :: newline :: later)))) := by
    rw [closing, List.cons_append, List.append_assoc, List.cons_append, List.append_assoc]
    rfl
  have stops : ∀ next, (carriageReturn :: newline :: later).head? = some next →
      digitByte next = false := by
    intro next same
    injection same with same
    rw [← same]
    rfl
  rw [matchAt, endPattern, run_seq, shape, run_lineStart, run_seq, run_literal, run_seq]
  rw [run_taken (by rfl), run_seq, run_group]
  apply run_several (statusText_nonempty status) (statusText_digits status) stops
  apply run_lineEnd
  have reversed : (closing token status).reverse ++ byte :: passed =
      newline :: carriageReturn :: ((statusText status).reverse ++
        32 :: (token.stop.reverse ++ newline :: byte :: passed)) := by
    simp [closing]
  rw [until_advance, reversed]
  rfl

/-- What stands before the output. -/
def heading (token : Token) (preamble : Bytes) : Bytes :=
  preamble ++ [carriageReturn] ++ newline :: (token.start ++ [carriageReturn, newline])

omit calm absent in
theorem opening_eq : opening token preamble output =
    heading token preamble ++ (printed output ++ [carriageReturn]) := by
  simp [opening, heading]

omit calm absent in
theorem match_heading (later : Bytes) :
    matchAt (startPattern token) ⟨(preamble ++ [carriageReturn]).reverse,
        newline :: (token.start ++ carriageReturn :: newline :: later)⟩ =
      some { start := ⟨(preamble ++ [carriageReturn]).reverse,
               newline :: (token.start ++ carriageReturn :: newline :: later)⟩
             stop := ⟨(heading token preamble).reverse, later⟩
             groups := [] } := by
  have ended : (preamble ++ [carriageReturn]).reverse = carriageReturn :: preamble.reverse := by
    rw [List.reverse_append]
    rfl
  have reversed : (heading token preamble).reverse =
      newline :: carriageReturn :: (token.start.reverse ++
        newline :: carriageReturn :: preamble.reverse) := by
    simp [heading]
  rw [reversed, ended, matchAt, startPattern, run_seq, run_lineStart, run_seq, run_literal]
  apply run_lineEnd
  rfl

include calm in
omit absent in
theorem search_heading (later : Bytes) :
    search (startPattern token) (opening token preamble output ++ later) 0 =
      some { start := ⟨(preamble ++ [carriageReturn]).reverse,
               newline :: (token.start ++ carriageReturn :: newline ::
                 (printed output ++ [carriageReturn] ++ later))⟩
             stop := ⟨(heading token preamble).reverse,
               printed output ++ [carriageReturn] ++ later⟩
             groups := [] } := by
  have split : opening token preamble output ++ later = preamble ++ [carriageReturn] ++
      newline :: (token.start ++ carriageReturn :: newline ::
        (printed output ++ [carriageReturn] ++ later)) := by
    simp [opening]
  have ends : ∀ passed text rest groups, Spells lineEnd passed text rest groups →
      newline ∈ text := fun _ _ _ _ spelt => spells_lineEnd spelt
  rw [split]
  exact search_marker_first ends token.start_solid.1 (calm_preamble calm) (Nat.zero_le _)
    (match_heading _)

theorem search_closing {later : Bytes} {position : Nat}
    (within : position ≤ (opening token preamble output).length) :
    search (endPattern token) (opening token preamble output ++ (closing token status ++ later))
        position =
      some { start := ⟨(opening token preamble output).reverse, closing token status ++ later⟩
             stop := ⟨(closing token status).reverse ++ (opening token preamble output).reverse,
               later⟩
             groups := [statusText status] } := by
  have ended : (opening token preamble output).reverse =
      carriageReturn :: (heading token preamble ++ printed output).reverse := by
    rw [opening_eq, ← List.append_assoc, List.reverse_append]
    rfl
  have here : matchAt (endPattern token)
      ⟨carriageReturn :: (heading token preamble ++ printed output).reverse,
        closing token status ++ later⟩ = _ :=
    match_closing carriageReturn (heading token preamble ++ printed output).reverse later
  rw [← ended] at here
  exact search_marker_first endPattern_ends token.stop_solid.1 (calm_opening calm absent) within here

omit absent in
/-- The output comes back from a buffer with both markers. -/
theorem concluded {later : Bytes} {last : Match UInt8}
    (starts : last.start.passed = (opening token preamble output).reverse)
    (graded : last.groups = [statusText status]) :
    conclude token (opening token preamble output ++ later) last =
      if status = 0 then .ok output
      else .error (.refused ((opening token preamble output ++ later).drop
        ((opening token preamble output ++ later).length - 4096))) := by
  rw [conclude, search_heading calm]
  show (if intOf (last.groups.headD []) ≠ 0 then _ else _) = _
  rw [graded]
  show (if intOf (statusText status) ≠ 0 then _ else _) = _
  rw [intOf_statusText]
  by_cases success : status = 0
  · rw [if_neg (not_not.mpr success), if_pos success, between]
    show Except.ok (removeCr (replaceCrLf (((opening token preamble output ++ later).take
      last.start.passed.length).drop (heading token preamble).reverse.length))) = _
    rw [starts, List.length_reverse, List.length_reverse, List.take_left, opening_eq,
      List.drop_left, replaceCrLf_printed, removeCr_ended]
  · rw [if_pos success, if_neg success]

/-! ### Every way to cut the stream -/

/-- How a run ends: with the output of a command that succeeded, and otherwise
with an exception. -/
def Delivered (status : Nat) (output : Bytes) (result : Except Failure Bytes) : Prop :=
  if status = 0 then result = .ok output else ∃ tail, result = .error (.refused tail)

omit calm absent in
/-- The line of the marker fits the window of the search, with the prompt. -/
theorem closing_room (small : status < 256) : (closing token status).length ≤ 50 := by
  have digits : (statusText status).length ≤ 3 := by
    rw [statusText, List.length_map]
    exact Numerals.numeral_length (by decide) (by omega)
  rw [closing_length, closingLine, List.length_append, Token.stop_length, List.length_cons,
    List.length_append, List.length_singleton]
  omega

omit calm absent in
theorem receive_chunk {buffer data : Bytes} (events : List Event) (some_data : data ≠ []) :
    receive token buffer (.chunk data :: events) =
      match search (endPattern token) (buffer ++ data) ((buffer ++ data).length - 512) with
      | none => receive token (buffer ++ data) events
      | some last => conclude token (buffer ++ data) last := by
  apply (if_neg some_data).trans
  cases search (endPattern token) (buffer ++ data) ((buffer ++ data).length - 512) with
  | none => rfl
  | some last => rfl

theorem received {events : List Event} {buffer : Bytes} (small : status < 256)
    (short : prompt.length ≤ 462)
    (whole : buffer ++ arrived events = transcript token preamble output status prompt)
    (open_ : ∀ data, Event.chunk data ∈ events → data ≠ [])
    (incomplete : buffer.length < (opening token preamble output).length +
      (closing token status).length) :
    Delivered status output (receive token buffer events) := by
  induction events generalizing buffer with
  | nil =>
      rw [arrived, List.append_nil, transcript_eq] at whole
      rw [whole, List.length_append, List.length_append] at incomplete
      omega
  | cons event events ih =>
      have later : ∀ data, Event.chunk data ∈ events → data ≠ [] :=
        fun data member => open_ data (List.mem_cons_of_mem _ member)
      cases event with
      | silence => exact ih whole later incomplete
      | chunk data =>
          have some_data : data ≠ [] := open_ data List.mem_cons_self
          have grown : buffer ++ data ++ arrived events =
              transcript token preamble output status prompt := by
            rw [List.append_assoc]
            exact whole
          rw [receive_chunk events some_data]
          by_cases more : (buffer ++ data).length < (opening token preamble output).length +
              (closing token status).length
          · rw [transcript_eq] at grown
            rw [search_end_incomplete calm absent grown more]
            rw [← transcript_eq] at grown
            exact ih grown later more
          · -- the line of the marker is complete, with a part of the prompt behind it
            have split : ∃ behind, buffer ++ data =
                opening token preamble output ++ (closing token status ++ behind) ∧
                behind.length ≤ prompt.length := by
              rw [transcript_eq, ← List.append_assoc (opening token preamble output)] at grown
              have front : opening token preamble output ++ closing token status <+:
                  buffer ++ data := by
                apply List.prefix_of_prefix_length_le (List.prefix_append _ prompt)
                · rw [← grown]
                  exact List.prefix_append _ _
                · have sum : (opening token preamble output ++ closing token status).length = _ :=
                    List.length_append
                  rw [sum]
                  omega
              obtain ⟨behind, same⟩ := front
              refine ⟨behind, by rw [← same, List.append_assoc], ?_⟩
              rw [← same, List.append_assoc, List.append_right_inj] at grown
              rw [← grown, List.length_append]
              omega
            obtain ⟨behind, same, tail⟩ := split
            have room : (closing token status).length ≤ 50 := closing_room small
            rw [same]
            have within : (opening token preamble output ++
                (closing token status ++ behind)).length - 512 ≤
                (opening token preamble output).length := by
              rw [List.length_append, List.length_append]
              omega
            rw [search_closing calm absent within]
            show Delivered status output (conclude token _ _)
            rw [concluded calm rfl rfl]
            unfold Delivered
            by_cases success : status = 0
            · rw [if_pos success, if_pos success]
            · rw [if_neg success, if_neg success]
              exact ⟨_, rfl⟩

end Session

/-- Whatever the command prints and however the stream is cut: the output comes
back byte for byte when the status is 0, and otherwise an exception is raised. -/
theorem command_transparent {token : Token} {preamble output prompt : Bytes} {status : Nat}
    {events : List Event} (calm : Calm token.text preamble) (absent : ¬token.text <:+: output)
    (small : status < 256) (short : prompt.length ≤ 462)
    (whole : arrived events = transcript token preamble output status prompt)
    (open_ : ∀ data, Event.chunk data ∈ events → data ≠ []) :
    Delivered status output (command token events) := by
  apply received calm absent small short whole open_
  rw [closing_length, List.length_nil]
  omega

def referenceToken : Token where
  uuid := List.replicate 32 48
  hex := by
    intro byte member
    rw [List.eq_of_mem_replicate member]
    rfl
  length := rfl

theorem command_transparent_cut : Delivered 0 [97, 13, 10, 13]
    (command referenceToken
      [.chunk ((transcript referenceToken [] [97, 13, 10, 13] 0 [35, 32]).take 60), .silence,
        .chunk ((transcript referenceToken [] [97, 13, 10, 13] 0 [35, 32]).drop 60)]) := by
  have calm : Calm referenceToken.text [] :=
    calm_line (List.not_mem_nil) (fun standing => absurd standing.length_le (by decide))
  apply command_transparent calm (fun inside => absurd inside.length_le (by decide)) (by decide)
    (by decide : ([35, 32] : Bytes).length ≤ 462)
  · rw [arrived, arrived, arrived, arrived, List.append_nil, List.take_append_drop]
  · intro data member
    simp only [List.mem_cons, List.not_mem_nil, or_false, Event.chunk.injEq, reduceCtorEq,
      false_or] at member
    rcases member with rfl | rfl
    · decide
    · decide

/-! ### What the connection begins with -/

def asText (data : Bytes) : Text := data.map (fun byte => Char.ofNat byte.toNat)

theorem asText_solid {data : Bytes} (solid : newline ∉ data) : '\n' ∉ asText data := by
  intro member
  obtain ⟨byte, inside, same⟩ := List.mem_map.mp member
  have number : byte.toNat = 10 := by
    have small := byte.toNat_lt
    have valid : byte.toNat.isValidChar := Or.inl (by omega)
    rw [Char.ofNat, dif_pos valid] at same
    exact congrArg Char.toNat same
  have broken : byte = newline := UInt8.toNat_inj.mp number
  rw [broken] at inside
  exact solid inside

theorem quote_solid {text : Text} (solid : '\n' ∉ text) : '\n' ∉ quote text := by
  unfold quote
  split
  · decide
  · split
    · exact solid
    · intro member
      rcases List.mem_append.mp member with front | last
      · rcases List.mem_append.mp front with first | inner
        · exact absurd first (by decide)
        · obtain ⟨char, inside, quoted⟩ := List.mem_flatMap.mp inner
          split at quoted
          · exact absurd quoted (by decide)
          · rw [List.mem_singleton.mp quoted] at solid
            exact solid inside
      · exact absurd last (by decide)

/-- The input line but for its first character and its newline. -/
def innerLine (text start stop : Text) : Text :=
  hush.drop 1 ++ quote start ++ launch ++ quote text ++ grade ++ quote stop ++ finish.dropLast

theorem innerLine_solid {text start stop : Text} (one : '\n' ∉ text) (two : '\n' ∉ start)
    (three : '\n' ∉ stop) : '\n' ∉ innerLine text start stop := by
  have first : '\n' ∉ hush.drop 1 := by decide +kernel
  have second : '\n' ∉ launch := by decide +kernel
  have third : '\n' ∉ grade := by decide +kernel
  have last : '\n' ∉ finish.dropLast := by decide +kernel
  unfold innerLine
  simp only [List.mem_append, not_or]
  exact ⟨⟨⟨⟨⟨⟨first, quote_solid two⟩, second⟩, quote_solid one⟩, third⟩, quote_solid three⟩, last⟩

theorem frameCommand_line {text start stop : Text} {line : Bytes}
    (framed : frameCommand text start stop = .ok line) :
    line = 115 :: (Bytes.encode (innerLine text start stop) ++ [newline]) := by
  have first : hush = 's' :: hush.drop 1 := by decide +kernel
  have last : finish = finish.dropLast ++ ['\n'] := by decide +kernel
  have whole : hush ++ quote start ++ launch ++ quote text ++ grade ++ quote stop ++ finish =
      's' :: (innerLine text start stop ++ ['\n']) := by
    rw [innerLine, List.append_assoc _ finish.dropLast, ← last]
    conv_lhs => rw [first]
    rfl
  unfold frameCommand at framed
  dsimp only at framed
  split at framed
  · cases framed
  · injection framed with framed
    rw [← framed, whole, Bytes.encode_cons, Bytes.encode_append]
    rfl

/-- The echo of an input line, behind what the connection began with, has no
line that begins with the token. -/
theorem echo_calm {token : Token} {text : Text} {line greeting : Bytes}
    (framed : frameCommand text (asText token.start) (asText token.stop) = .ok line)
    (single : '\n' ∉ text) (solid : newline ∉ greeting) (other : greeting.head? ≠ some 76) :
    Calm token.text (greeting ++ printed line) := by
  have inner : newline ∉ Bytes.encode (innerLine text (asText token.start) (asText token.stop)) := by
    intro member
    obtain ⟨char, inside, value⟩ := Bytes.encode_low (by decide) member
    have broken : char = '\n' := Char.ext (UInt32.toNat_inj.mp value)
    rw [broken] at inside
    exact innerLine_solid single (asText_solid token.start_solid.1)
      (asText_solid token.stop_solid.1) inside
  rw [frameCommand_line framed, printed_cons, printed_append, printed_solid inner]
  -- one line with the token inside it, and behind its newline nothing
  have front : Calm token.text (greeting ++ 115 ::
      Bytes.encode (innerLine text (asText token.start) (asText token.stop))) := by
    apply calm_line
    · intro member
      rcases List.mem_append.mp member with early | late
      · exact solid early
      · rcases List.mem_cons.mp late with first | later
        · exact absurd first (by decide)
        · exact inner later
    · rintro ⟨rest, same⟩
      rw [Token.text, List.append_assoc, List.cons_append] at same
      cases greeting with
      | nil =>
          rw [List.nil_append] at same
          injection same with first _
          exact absurd first (by decide)
      | cons byte greeting =>
          rw [List.cons_append] at same
          injection same with first _
          rw [← first] at other
          exact other rfl
  have nothing : Calm token.text [] :=
    calm_line List.not_mem_nil (fun standing => absurd standing.length_le (by
      rw [Token.text, List.length_append, token.length]
      decide))
  have noCr : carriageReturn ∉ token.text := fun member => (token.solid member).2 rfl
  have joined := Calm.join noCr front nothing
  rw [List.append_assoc] at joined
  exact joined

end Liuqin.Install.Channel
