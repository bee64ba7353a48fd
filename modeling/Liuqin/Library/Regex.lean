/-
Regular expressions as Python matches them.

A pattern is matched from a cursor by backtracking: a greedy repetition takes as
much as it can before it tries less, a lazy one the other way round, and of two
alternatives the left one goes first.  Only single characters are repeated,
which is all that the patterns of the programs need.

Whatever the matcher finds, the pattern spells; the lemmas on repetitions say
which of the texts a pattern spells the matcher settles on.
-/

import Mathlib.Data.List.Basic

namespace Liuqin.Library.Regex

variable {α β : Type}

/-! ### Patterns -/

inductive Pattern (α : Type) where
  | nothing
  | one (accepts : α → Bool)
  /-- `*` of a class; a lazy one is written `*?` -/
  | many (lazy : Bool) (accepts : α → Bool)
  | seq (first second : Pattern α)
  /-- `(?:...)?` -/
  | option (inner : Pattern α)
  /-- `...|...` -/
  | either (left right : Pattern α)
  | group (inner : Pattern α)
  /-- `^`, at the start of the text or, with MULTILINE, of a line -/
  | start (lineEnd : Option (α → Bool))
  /-- `$` -/
  | finish (lineEnd : α → Bool)

def Pattern.all : List (Pattern α) → Pattern α
  | [] => .nothing
  | first :: rest => .seq first (Pattern.all rest)

def literal [DecidableEq α] : List α → Pattern α
  | [] => .nothing
  | char :: rest => .seq (.one fun other => decide (other = char)) (literal rest)

/-- `+` of a class. -/
def several (accepts : α → Bool) : Pattern α := .seq (.one accepts) (.many false accepts)

/-- What stands before the cursor, last character first, and what follows. -/
structure Cursor (α : Type) where
  passed : List α
  rest : List α

def Cursor.advance (cursor : Cursor α) (text rest : List α) : Cursor α where
  passed := text.reverse ++ cursor.passed
  rest := rest

/-- The text between two cursors. -/
def Cursor.until (cursor later : Cursor α) : List α :=
  (later.passed.take (later.passed.length - cursor.passed.length)).reverse

/-! ### The matcher -/

/-- As much as there is first. -/
def greedily (accepts : α → Bool) (next : Cursor α → Option β) : List α → List α → Option β
  | passed, [] => next ⟨passed, []⟩
  | passed, char :: rest =>
      if accepts char then
        (greedily accepts next (char :: passed) rest).or (next ⟨passed, char :: rest⟩)
      else next ⟨passed, char :: rest⟩

/-- As little as possible first. -/
def lazily (accepts : α → Bool) (next : Cursor α → Option β) : List α → List α → Option β
  | passed, [] => next ⟨passed, []⟩
  | passed, char :: rest =>
      (next ⟨passed, char :: rest⟩).or
        (if accepts char then lazily accepts next (char :: passed) rest else none)

def atStart (lineEnd : Option (α → Bool)) : List α → Bool
  | [] => true
  | char :: _ =>
      match lineEnd with
      | none => false
      | some ends => ends char

def atFinish (lineEnd : α → Bool) : List α → Bool
  | [] => true
  | [char] => lineEnd char
  | _ => false

/-- The first way to match the pattern that `next` can go on from; it is given
the groups of the pattern, outer ones first. -/
def run : Pattern α → Cursor α → (Cursor α → List (List α) → Option β) → Option β
  | .nothing, cursor, next => next cursor []
  | .one accepts, cursor, next =>
      match cursor.rest with
      | [] => none
      | char :: rest => if accepts char then next ⟨char :: cursor.passed, rest⟩ [] else none
  | .many lazy accepts, cursor, next =>
      if lazy then lazily accepts (fun later => next later []) cursor.passed cursor.rest
      else greedily accepts (fun later => next later []) cursor.passed cursor.rest
  | .seq first second, cursor, next =>
      run first cursor fun middle groups =>
        run second middle fun later more => next later (groups ++ more)
  | .option inner, cursor, next => (run inner cursor next).or (next cursor [])
  | .either left right, cursor, next => (run left cursor next).or (run right cursor next)
  | .group inner, cursor, next =>
      run inner cursor fun later groups => next later (cursor.until later :: groups)
  | .start lineEnd, cursor, next => if atStart lineEnd cursor.passed then next cursor [] else none
  | .finish lineEnd, cursor, next => if atFinish lineEnd cursor.rest then next cursor [] else none

structure Match (α : Type) where
  start : Cursor α
  stop : Cursor α
  groups : List (List α)

/-- `pattern.match` from a cursor on. -/
def matchAt (pattern : Pattern α) (cursor : Cursor α) : Option (Match α) :=
  run pattern cursor fun stop groups => some { start := cursor, stop := stop, groups := groups }

/-- `pattern.search` from a cursor on. -/
def searchFrom (pattern : Pattern α) : List α → List α → Option (Match α)
  | passed, [] => matchAt pattern ⟨passed, []⟩
  | passed, char :: rest =>
      (matchAt pattern ⟨passed, char :: rest⟩).or (searchFrom pattern (char :: passed) rest)

/-- `pattern.search(text, position)` -/
def search (pattern : Pattern α) (text : List α) (position : Nat) : Option (Match α) :=
  searchFrom pattern (text.take position).reverse (text.drop position)

/-! ### What a pattern spells -/

/-- Between what has passed and what follows, the pattern can take the text. -/
inductive Spells : Pattern α → List α → List α → List α → List (List α) → Prop where
  | nothing {passed rest} : Spells .nothing passed [] rest []
  | one {accepts char passed rest} (taken : accepts char = true) :
      Spells (.one accepts) passed [char] rest []
  | many {lazy accepts text passed rest} (taken : ∀ char ∈ text, accepts char = true) :
      Spells (.many lazy accepts) passed text rest []
  | seq {first second passed front back rest groups more}
      (one : Spells first passed front (back ++ rest) groups)
      (other : Spells second (front.reverse ++ passed) back rest more) :
      Spells (.seq first second) passed (front ++ back) rest (groups ++ more)
  | some {inner passed text rest groups} (spelt : Spells inner passed text rest groups) :
      Spells (.option inner) passed text rest groups
  | none {inner passed rest} : Spells (.option inner) passed [] rest []
  | left {left right passed text rest groups} (spelt : Spells left passed text rest groups) :
      Spells (.either left right) passed text rest groups
  | right {left right passed text rest groups} (spelt : Spells right passed text rest groups) :
      Spells (.either left right) passed text rest groups
  | group {inner passed text rest groups} (spelt : Spells inner passed text rest groups) :
      Spells (.group inner) passed text rest (text :: groups)
  | start {lineEnd passed rest} (here : atStart lineEnd passed = true) :
      Spells (.start lineEnd) passed [] rest []
  | finish {lineEnd passed rest} (here : atFinish lineEnd rest = true) :
      Spells (.finish lineEnd) passed [] rest []

theorem until_advance (passed text rest whole : List α) :
    Cursor.until ⟨passed, whole⟩ ⟨text.reverse ++ passed, rest⟩ = text := by
  unfold Cursor.until
  have extra : (text.reverse ++ passed).length - passed.length = text.reverse.length := by
    rw [List.length_append]
    omega
  rw [extra, List.take_left, List.reverse_reverse]

theorem run_one (accepts : α → Bool) (passed : List α) (char : α) (rest : List α)
    (next : Cursor α → List (List α) → Option β) :
    run (.one accepts) ⟨passed, char :: rest⟩ next =
      if accepts char then next ⟨char :: passed, rest⟩ [] else none := rfl

theorem greedily_sound {accepts : α → Bool} {next : Cursor α → Option β} {passed whole : List α}
    {result : β} (found : greedily accepts next passed whole = some result) :
    ∃ text rest, whole = text ++ rest ∧ (∀ char ∈ text, accepts char = true) ∧
      next ⟨text.reverse ++ passed, rest⟩ = some result := by
  induction whole generalizing passed with
  | nil => exact ⟨[], [], rfl, fun _ member => (List.not_mem_nil member).elim, found⟩
  | cons char rest ih =>
      have stopping : next ⟨passed, char :: rest⟩ = some result →
          ∃ text later, char :: rest = text ++ later ∧ (∀ char ∈ text, accepts char = true) ∧
            next ⟨text.reverse ++ passed, later⟩ = some result :=
        fun here => ⟨[], char :: rest, rfl, fun _ member => (List.not_mem_nil member).elim, here⟩
      unfold greedily at found
      by_cases taken : accepts char = true
      · rw [if_pos taken, Option.or_eq_some_iff] at found
        rcases found with further | ⟨_, here⟩
        · obtain ⟨text, later, same, all, reached⟩ := ih further
          refine ⟨char :: text, later, by rw [same]; rfl, ?_, ?_⟩
          · intro other member
            rcases List.mem_cons.mp member with rfl | inside
            · exact taken
            · exact all other inside
          · rw [List.reverse_cons, List.append_assoc]
            exact reached
        · exact stopping here
      · rw [if_neg taken] at found
        exact stopping found

theorem lazily_sound {accepts : α → Bool} {next : Cursor α → Option β} {passed whole : List α}
    {result : β} (found : lazily accepts next passed whole = some result) :
    ∃ text rest, whole = text ++ rest ∧ (∀ char ∈ text, accepts char = true) ∧
      next ⟨text.reverse ++ passed, rest⟩ = some result := by
  induction whole generalizing passed with
  | nil => exact ⟨[], [], rfl, fun _ member => (List.not_mem_nil member).elim, found⟩
  | cons char rest ih =>
      unfold lazily at found
      rw [Option.or_eq_some_iff] at found
      rcases found with here | ⟨_, further⟩
      · exact ⟨[], char :: rest, rfl, fun _ member => (List.not_mem_nil member).elim, here⟩
      · by_cases taken : accepts char = true
        · rw [if_pos taken] at further
          obtain ⟨text, later, same, all, reached⟩ := ih further
          refine ⟨char :: text, later, by rw [same]; rfl, ?_, ?_⟩
          · intro other member
            rcases List.mem_cons.mp member with rfl | inside
            · exact taken
            · exact all other inside
          · rw [List.reverse_cons, List.append_assoc]
            exact reached
        · rw [if_neg taken] at further
          cases further

/-- Soundness: the matcher goes on only from texts that the pattern spells. -/
theorem run_sound {pattern : Pattern α} {passed whole : List α}
    {next : Cursor α → List (List α) → Option β} {result : β}
    (found : run pattern ⟨passed, whole⟩ next = some result) :
    ∃ text rest groups, whole = text ++ rest ∧ Spells pattern passed text rest groups ∧
      next ⟨text.reverse ++ passed, rest⟩ groups = some result := by
  induction pattern generalizing passed whole next result with
  | nothing => exact ⟨[], whole, [], rfl, .nothing, found⟩
  | one accepts =>
      cases whole with
      | nil => cases found
      | cons char rest =>
          by_cases taken : accepts char = true
          · rw [run_one, if_pos taken] at found
            exact ⟨[char], rest, [], rfl, .one taken, found⟩
          · rw [run_one, if_neg taken] at found
            cases found
  | many lazy accepts =>
      cases lazy with
      | true =>
          obtain ⟨text, rest, same, all, reached⟩ := lazily_sound found
          exact ⟨text, rest, [], same, .many all, reached⟩
      | false =>
          obtain ⟨text, rest, same, all, reached⟩ := greedily_sound found
          exact ⟨text, rest, [], same, .many all, reached⟩
  | seq first second ihFirst ihSecond =>
      obtain ⟨front, rest, groups, same, one, further⟩ := ihFirst found
      obtain ⟨back, last, more, also, other, reached⟩ := ihSecond further
      subst also
      refine ⟨front ++ back, last, groups ++ more, ?_, .seq one other, ?_⟩
      · rw [same, List.append_assoc]
      · rw [List.reverse_append, List.append_assoc]
        exact reached
  | option inner ih =>
      rw [run, Option.or_eq_some_iff] at found
      rcases found with taken | ⟨_, skipped⟩
      · obtain ⟨text, rest, groups, same, spelt, reached⟩ := ih taken
        exact ⟨text, rest, groups, same, .some spelt, reached⟩
      · exact ⟨[], whole, [], rfl, .none, skipped⟩
  | either left right ihLeft ihRight =>
      rw [run, Option.or_eq_some_iff] at found
      rcases found with first | ⟨_, second⟩
      · obtain ⟨text, rest, groups, same, spelt, reached⟩ := ihLeft first
        exact ⟨text, rest, groups, same, .left spelt, reached⟩
      · obtain ⟨text, rest, groups, same, spelt, reached⟩ := ihRight second
        exact ⟨text, rest, groups, same, .right spelt, reached⟩
  | group inner ih =>
      obtain ⟨text, rest, groups, same, spelt, reached⟩ := ih found
      rw [until_advance] at reached
      exact ⟨text, rest, text :: groups, same, .group spelt, reached⟩
  | start lineEnd =>
      by_cases here : atStart lineEnd passed = true
      · rw [run, if_pos here] at found
        exact ⟨[], whole, [], rfl, .start here, found⟩
      · rw [run, if_neg here] at found
        cases found
  | finish lineEnd =>
      by_cases here : atFinish lineEnd whole = true
      · rw [run, if_pos here] at found
        exact ⟨[], whole, [], rfl, .finish here, found⟩
      · rw [run, if_neg here] at found
        cases found

theorem matchAt_sound {pattern : Pattern α} {passed whole : List α} {result : Match α}
    (found : matchAt pattern ⟨passed, whole⟩ = some result) :
    ∃ text rest groups, whole = text ++ rest ∧ Spells pattern passed text rest groups ∧
      result = ⟨⟨passed, whole⟩, ⟨text.reverse ++ passed, rest⟩, groups⟩ := by
  obtain ⟨text, rest, groups, same, spelt, reached⟩ := run_sound found
  exact ⟨text, rest, groups, same, spelt, (Option.some.inj reached).symm⟩

/-- A pattern that spells nothing here does not match. -/
theorem matchAt_none {pattern : Pattern α} {passed whole : List α}
    (unspelt : ∀ text rest groups, whole = text ++ rest →
      ¬Spells pattern passed text rest groups) :
    matchAt pattern ⟨passed, whole⟩ = none := by
  cases found : matchAt pattern ⟨passed, whole⟩ with
  | none => rfl
  | some result =>
      obtain ⟨text, rest, groups, same, spelt, _⟩ := matchAt_sound found
      exact absurd spelt (unspelt text rest groups same)

/-! ### The texts of each pattern -/

section Texts

variable {passed text rest : List α} {groups : List (List α)}

theorem spells_nothing : Spells .nothing passed text rest groups ↔ text = [] ∧ groups = [] := by
  constructor
  · intro spelt
    cases spelt
    exact ⟨rfl, rfl⟩
  · rintro ⟨rfl, rfl⟩
    exact .nothing

theorem spells_one {accepts : α → Bool} :
    Spells (.one accepts) passed text rest groups ↔
      ∃ char, text = [char] ∧ accepts char = true ∧ groups = [] := by
  constructor
  · intro spelt
    cases spelt with
    | one taken => exact ⟨_, rfl, taken, rfl⟩
  · rintro ⟨char, rfl, taken, rfl⟩
    exact .one taken

theorem spells_many {lazy : Bool} {accepts : α → Bool} :
    Spells (.many lazy accepts) passed text rest groups ↔
      (∀ char ∈ text, accepts char = true) ∧ groups = [] := by
  constructor
  · intro spelt
    cases spelt with
    | many taken => exact ⟨taken, rfl⟩
  · rintro ⟨taken, rfl⟩
    exact .many taken

theorem spells_seq {first second : Pattern α} :
    Spells (.seq first second) passed text rest groups ↔
      ∃ front back some more, text = front ++ back ∧ groups = some ++ more ∧
        Spells first passed front (back ++ rest) some ∧
        Spells second (front.reverse ++ passed) back rest more := by
  constructor
  · intro spelt
    cases spelt with
    | seq one other => exact ⟨_, _, _, _, rfl, rfl, one, other⟩
  · rintro ⟨front, back, some, more, rfl, rfl, one, other⟩
    exact .seq one other

theorem spells_option {inner : Pattern α} :
    Spells (.option inner) passed text rest groups ↔
      Spells inner passed text rest groups ∨ (text = [] ∧ groups = []) := by
  constructor
  · intro spelt
    cases spelt with
    | some taken => exact Or.inl taken
    | none => exact Or.inr ⟨rfl, rfl⟩
  · rintro (taken | ⟨rfl, rfl⟩)
    · exact .some taken
    · exact .none

theorem spells_either {left right : Pattern α} :
    Spells (.either left right) passed text rest groups ↔
      Spells left passed text rest groups ∨ Spells right passed text rest groups := by
  constructor
  · intro spelt
    cases spelt with
    | left taken => exact Or.inl taken
    | right taken => exact Or.inr taken
  · rintro (taken | taken)
    · exact .left taken
    · exact .right taken

theorem spells_group {inner : Pattern α} :
    Spells (.group inner) passed text rest groups ↔
      ∃ more, groups = text :: more ∧ Spells inner passed text rest more := by
  constructor
  · intro spelt
    cases spelt with
    | group inside => exact ⟨_, rfl, inside⟩
  · rintro ⟨more, rfl, inside⟩
    exact .group inside

theorem spells_start {lineEnd : Option (α → Bool)} :
    Spells (.start lineEnd) passed text rest groups ↔
      text = [] ∧ atStart lineEnd passed = true ∧ groups = [] := by
  constructor
  · intro spelt
    cases spelt with
    | start here => exact ⟨rfl, here, rfl⟩
  · rintro ⟨rfl, here, rfl⟩
    exact .start here

theorem spells_finish {lineEnd : α → Bool} :
    Spells (.finish lineEnd) passed text rest groups ↔
      text = [] ∧ atFinish lineEnd rest = true ∧ groups = [] := by
  constructor
  · intro spelt
    cases spelt with
    | finish here => exact ⟨rfl, here, rfl⟩
  · rintro ⟨rfl, here, rfl⟩
    exact .finish here

theorem spells_several {accepts : α → Bool} :
    Spells (several accepts) passed text rest groups ↔
      text ≠ [] ∧ (∀ char ∈ text, accepts char = true) ∧ groups = [] := by
  rw [several, spells_seq]
  constructor
  · rintro ⟨front, back, some, more, rfl, rfl, one, other⟩
    obtain ⟨char, rfl, taken, rfl⟩ := spells_one.mp one
    obtain ⟨all, rfl⟩ := spells_many.mp other
    refine ⟨List.cons_ne_nil _ _, ?_, rfl⟩
    intro next member
    rcases List.mem_cons.mp member with rfl | inside
    · exact taken
    · exact all next inside
  · rintro ⟨nonempty, all, rfl⟩
    cases text with
    | nil => exact absurd rfl nonempty
    | cons char more =>
        refine ⟨[char], more, [], [], rfl, rfl, ?_, ?_⟩
        · exact .one (all char List.mem_cons_self)
        · exact .many (fun next member => all next (List.mem_cons_of_mem _ member))

theorem spells_literal [DecidableEq α] {chars : List α} :
    Spells (literal chars) passed text rest groups ↔ text = chars ∧ groups = [] := by
  induction chars generalizing passed text groups with
  | nil => exact spells_nothing
  | cons char chars ih =>
      rw [literal, spells_seq]
      constructor
      · rintro ⟨front, back, some, more, rfl, rfl, one, other⟩
        obtain ⟨same, rfl, taken, rfl⟩ := spells_one.mp one
        obtain ⟨rfl, rfl⟩ := ih.mp other
        rw [of_decide_eq_true taken]
        exact ⟨rfl, rfl⟩
      · rintro ⟨rfl, rfl⟩
        exact ⟨[char], chars, [], [], rfl, rfl, .one (decide_eq_true rfl), ih.mpr ⟨rfl, rfl⟩⟩

end Texts

/-! ### Searches -/

theorem searchFrom_none {pattern : Pattern α} {passed whole : List α}
    (nowhere : ∀ front back, whole = front ++ back →
      matchAt pattern ⟨front.reverse ++ passed, back⟩ = none) :
    searchFrom pattern passed whole = none := by
  induction whole generalizing passed with
  | nil => exact nowhere [] [] rfl
  | cons char rest ih =>
      have here : matchAt pattern ⟨passed, char :: rest⟩ = none := nowhere [] (char :: rest) rfl
      have later : searchFrom pattern (char :: passed) rest = none := by
        apply ih
        intro front back same
        have inner := nowhere (char :: front) back (by rw [same]; rfl)
        rw [List.reverse_cons, List.append_assoc] at inner
        exact inner
      rw [searchFrom, here, later]
      rfl

/-- A search finds the first match. -/
theorem searchFrom_first {pattern : Pattern α} {passed front rest : List α} {found : Match α}
    (before : ∀ early char late, front = early ++ char :: late →
      matchAt pattern ⟨early.reverse ++ passed, char :: late ++ rest⟩ = none)
    (here : matchAt pattern ⟨front.reverse ++ passed, rest⟩ = some found) :
    searchFrom pattern passed (front ++ rest) = some found := by
  induction front generalizing passed with
  | nil =>
      rw [List.reverse_nil, List.nil_append] at here
      cases rest with
      | nil => exact here
      | cons char rest =>
          rw [List.nil_append, searchFrom, here]
          rfl
  | cons char front ih =>
      have first : matchAt pattern ⟨passed, char :: front ++ rest⟩ = none :=
        before [] char front rfl
      have later : searchFrom pattern (char :: passed) (front ++ rest) = some found := by
        apply ih
        · intro early other late same
          have inner := before (char :: early) other late (by rw [same]; rfl)
          rw [List.reverse_cons, List.append_assoc] at inner
          exact inner
        · rw [List.reverse_cons, List.append_assoc] at here
          exact here
      rw [List.cons_append] at first ⊢
      rw [searchFrom, first, later]
      rfl

/-! ### Searches for a line -/

section Line

variable [DecidableEq α] {ends : α → Bool} {head : List α} {more : Pattern α}

/-- A pattern that starts with `^` and a literal. -/
def anchored (ends : α → Bool) (head : List α) (more : Pattern α) : Pattern α :=
  .seq (.start (some ends)) (.seq (literal head) more)

theorem anchored_none {passed whole : List α}
    (refused : atStart (some ends) passed = true → ¬head <+: whole) :
    matchAt (anchored ends head more) ⟨passed, whole⟩ = none := by
  apply matchAt_none
  intro text rest groups same spelt
  obtain ⟨front, back, some, others, rfl, rfl, anchor, inner⟩ := spells_seq.mp spelt
  obtain ⟨rfl, here, rfl⟩ := spells_start.mp anchor
  obtain ⟨first, last, some, others, rfl, rfl, word, _⟩ := spells_seq.mp inner
  obtain ⟨rfl, rfl⟩ := spells_literal.mp word
  apply refused here
  rw [same, List.nil_append, List.append_assoc]
  exact List.prefix_append _ _

/-- The search passes over a line that does not begin with the literal. -/
theorem searchFrom_skip {passed line rest : List α} {stop : α}
    (refused : atStart (some ends) passed = true → ¬head <+: line ++ stop :: rest)
    (within : ∀ char ∈ line, ends char = false) :
    searchFrom (anchored ends head more) passed (line ++ stop :: rest) =
      searchFrom (anchored ends head more) (stop :: (line.reverse ++ passed)) rest := by
  induction line generalizing passed with
  | nil =>
      rw [List.nil_append] at refused
      rw [List.nil_append, searchFrom, anchored_none refused]
      rfl
  | cons char line ih =>
      have inside : atStart (some ends) (char :: passed) = true →
          ¬head <+: line ++ stop :: rest := by
        intro start
        have other : ends char = false := within char List.mem_cons_self
        exact absurd start (by rw [atStart, other]; decide)
      rw [List.cons_append] at refused ⊢
      rw [searchFrom, anchored_none refused]
      rw [ih inside (fun next member => within next (List.mem_cons_of_mem _ member)),
        List.reverse_cons, List.append_assoc]
      rfl

theorem searchFrom_here {passed whole : List α} {found : Match α}
    (here : matchAt (anchored ends head more) ⟨passed, whole⟩ = some found) :
    searchFrom (anchored ends head more) passed whole = some found := by
  cases whole with
  | nil => exact here
  | cons char rest =>
      rw [searchFrom, here]
      rfl

end Line

/-! ### What the matcher settles on -/

section Settles

variable {next : Cursor α → Option β}

/-- A greedy repetition takes a whole block when it can go on behind it. -/
theorem greedily_block {accepts : α → Bool} {passed block rest : List α} {result : β}
    (all : ∀ char ∈ block, accepts char = true)
    (stops : ∀ char, rest.head? = some char → accepts char = false)
    (behind : next ⟨block.reverse ++ passed, rest⟩ = some result) :
    greedily accepts next passed (block ++ rest) = some result := by
  induction block generalizing passed with
  | nil =>
      cases rest with
      | nil => exact behind
      | cons char rest =>
          have refused : ¬accepts char = true := by
            rw [stops char rfl]
            decide
          rw [List.nil_append, greedily, if_neg refused]
          exact behind
  | cons char block ih =>
      have further : greedily accepts next (char :: passed) (block ++ rest) = some result := by
        apply ih (fun other member => all other (List.mem_cons_of_mem _ member))
        rw [List.reverse_cons, List.append_assoc] at behind
        exact behind
      rw [List.cons_append, greedily, if_pos (all char List.mem_cons_self), further]
      rfl

/-- One character too far, and the repetition gives it back. -/
theorem greedily_back {accepts : α → Bool} {passed block rest : List α} {char : α} {result : β}
    (all : ∀ char ∈ block, accepts char = true) (taken : accepts char = true)
    (stops : ∀ char, rest.head? = some char → accepts char = false)
    (further : next ⟨char :: (block.reverse ++ passed), rest⟩ = none)
    (behind : next ⟨block.reverse ++ passed, char :: rest⟩ = some result) :
    greedily accepts next passed (block ++ char :: rest) = some result := by
  induction block generalizing passed with
  | nil =>
      rw [List.reverse_nil, List.nil_append] at further behind
      have beyond : greedily accepts next (char :: passed) rest = none := by
        cases rest with
        | nil => exact further
        | cons other rest =>
            have refused : ¬accepts other = true := by
              rw [stops other rfl]
              decide
            rw [greedily, if_neg refused]
            exact further
      rw [List.nil_append, greedily, if_pos taken, beyond, behind]
      rfl
  | cons first block ih =>
      have later : greedily accepts next (first :: passed) (block ++ char :: rest) =
          some result := by
        apply ih (fun other member => all other (List.mem_cons_of_mem _ member))
        · rw [List.reverse_cons, List.append_assoc] at further
          exact further
        · rw [List.reverse_cons, List.append_assoc] at behind
          exact behind
      rw [List.cons_append, greedily, if_pos (all first List.mem_cons_self), later]
      rfl

/-- A lazy repetition takes a block when it cannot go on from within it. -/
theorem lazily_block {accepts : α → Bool} {passed block rest : List α} {result : β}
    (all : ∀ char ∈ block, accepts char = true)
    (within : ∀ front char back, block = front ++ char :: back →
      next ⟨front.reverse ++ passed, char :: back ++ rest⟩ = none)
    (behind : next ⟨block.reverse ++ passed, rest⟩ = some result) :
    lazily accepts next passed (block ++ rest) = some result := by
  induction block generalizing passed with
  | nil =>
      cases rest with
      | nil => exact behind
      | cons char rest =>
          rw [List.nil_append, lazily]
          rw [List.reverse_nil, List.nil_append] at behind
          rw [behind]
          rfl
  | cons char block ih =>
      have here : next ⟨passed, char :: block ++ rest⟩ = none := within [] char block rfl
      have further : lazily accepts next (char :: passed) (block ++ rest) = some result := by
        apply ih (fun other member => all other (List.mem_cons_of_mem _ member))
        · intro front other back same
          have inner := within (char :: front) other back (by rw [same]; rfl)
          rw [List.reverse_cons, List.append_assoc] at inner
          exact inner
        · rw [List.reverse_cons, List.append_assoc] at behind
          exact behind
      rw [List.cons_append] at here ⊢
      rw [lazily, here, if_pos (all char List.mem_cons_self), further]
      rfl

end Settles

section Steps

variable {next : Cursor α → List (List α) → Option β} {passed rest : List α} {result : β}

theorem run_seq (first second : Pattern α) (cursor : Cursor α) :
    run (.seq first second) cursor next =
      run first cursor (fun middle groups =>
        run second middle (fun later more => next later (groups ++ more))) := rfl

theorem run_start {lineEnd : Option (α → Bool)} (here : atStart lineEnd passed = true) :
    run (.start lineEnd) ⟨passed, rest⟩ next = next ⟨passed, rest⟩ [] := by
  rw [run, if_pos here]

theorem run_taken {accepts : α → Bool} {char : α} (taken : accepts char = true) :
    run (.one accepts) ⟨passed, char :: rest⟩ next = next ⟨char :: passed, rest⟩ [] := by
  rw [run_one, if_pos taken]

theorem run_literal [DecidableEq α] (chars : List α) :
    run (literal chars) ⟨passed, chars ++ rest⟩ next =
      next ⟨chars.reverse ++ passed, rest⟩ [] := by
  induction chars generalizing passed next with
  | nil => rfl
  | cons char chars ih =>
      rw [literal, run_seq, List.cons_append, run_one, if_pos (decide_eq_true rfl), ih,
        List.reverse_cons, List.append_assoc]
      rfl

/-- A literal is refused at its first character. -/
theorem run_literal_other [DecidableEq α] {chars : List α} {one other : α}
    (head : chars.head? = some one) (begins : rest.head? = some other) (different : other ≠ one) :
    run (literal chars) ⟨passed, rest⟩ next = none := by
  cases chars with
  | nil => cases head
  | cons first more =>
      cases rest with
      | nil => cases begins
      | cons second rest =>
          injection head with head
          injection begins with begins
          rw [literal, run_seq, run_one, head, begins, decide_eq_false different]
          rfl

/-- A class repeated takes a whole block when it can go on behind it. -/
theorem run_several {accepts : α → Bool} {block : List α} (nonempty : block ≠ [])
    (all : ∀ char ∈ block, accepts char = true)
    (stops : ∀ char, rest.head? = some char → accepts char = false)
    (behind : next ⟨block.reverse ++ passed, rest⟩ [] = some result) :
    run (several accepts) ⟨passed, block ++ rest⟩ next = some result := by
  cases block with
  | nil => exact absurd rfl nonempty
  | cons char block =>
      rw [several, run_seq, List.cons_append, run_taken (all char List.mem_cons_self)]
      apply greedily_block (fun other member => all other (List.mem_cons_of_mem _ member)) stops
      rw [List.reverse_cons, List.append_assoc] at behind
      exact behind

/-- The same for a repetition that may be empty. -/
theorem run_many {accepts : α → Bool} {block : List α}
    (all : ∀ char ∈ block, accepts char = true)
    (stops : ∀ char, rest.head? = some char → accepts char = false)
    (behind : next ⟨block.reverse ++ passed, rest⟩ [] = some result) :
    run (.many false accepts) ⟨passed, block ++ rest⟩ next = some result :=
  greedily_block all stops behind

theorem run_lazy {accepts : α → Bool} {block : List α}
    (all : ∀ char ∈ block, accepts char = true)
    (within : ∀ front char back, block = front ++ char :: back →
      next ⟨front.reverse ++ passed, char :: back ++ rest⟩ [] = none)
    (behind : next ⟨block.reverse ++ passed, rest⟩ [] = some result) :
    run (.many true accepts) ⟨passed, block ++ rest⟩ next = some result :=
  lazily_block all within behind

theorem run_option {inner : Pattern α} {cursor : Cursor α}
    (taken : run inner cursor next = some result) :
    run (.option inner) cursor next = some result := by
  rw [run, taken]
  rfl

theorem run_skipped {inner : Pattern α} {cursor : Cursor α}
    (refused : run inner cursor next = none) (behind : next cursor [] = some result) :
    run (.option inner) cursor next = some result := by
  rw [run, refused, behind]
  rfl

theorem run_refused {accepts : α → Bool} {char : α} (refused : accepts char = false) :
    run (.one accepts) ⟨passed, char :: rest⟩ next = none := by
  rw [run_one, refused]
  rfl

theorem run_group {inner : Pattern α} {cursor : Cursor α} :
    run (.group inner) cursor next =
      run inner cursor (fun later groups => next later (cursor.until later :: groups)) := rfl

end Steps

end Liuqin.Library.Regex
