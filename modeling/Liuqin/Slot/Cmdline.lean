/-
Which slot a boot came from, read from the kernel command line
(initramfs/init and liuqin-switch, slot_from_cmdline;
device/boot/liuqin-mark-slot-successful.c, cmdline_slot).

The shell parser goes through the words, the C guard looks for two texts
anywhere.  What the first reads of a word, the second reads of the whole line,
so the two agree as long as neither text stands in a word of another key.
-/

import Mathlib.Data.List.TakeWhile
import Liuqin.Library.Bytes
import Liuqin.Library.Lines

namespace Liuqin.Slot

open Liuqin.Library Liuqin.Library.Bytes
open Liuqin.Library.Lines (strstr strstr_iff splitWords splitWords_trailing infix_splitWords)

inductive Slot where
  | a
  | b
  deriving DecidableEq, Repr

def Slot.other : Slot → Slot
  | .a => .b
  | .b => .a

/-! ### The two parsers -/

def androidKey : Bytes := encode "androidboot.slot_suffix=".toList
def bareKey : Bytes := encode "slot_suffix=".toList

def Slot.suffix : Slot → Bytes
  | .a => encode "_a".toList
  | .b => encode "_b".toList

/-- The blanks of IFS. -/
def blank (byte : UInt8) : Bool := byte = 32 || byte = 9 || byte = 10

def words (text : Bytes) : List Bytes := splitWords blank [] text

/-- The value of a word with one of the two keys. -/
def slotValue (word : Bytes) : Option Bytes :=
  if androidKey.isPrefixOf word then some (word.drop androidKey.length)
  else if bareKey.isPrefixOf word then some (word.drop bareKey.length)
  else none

/-- slot_suffix and slot_bad. -/
structure Reading where
  suffix : Option Slot
  bad : Bool

def Reading.value (reading : Reading) (slot : Slot) : Reading :=
  { suffix := some slot
    bad := if reading.suffix = none ∨ reading.suffix = some slot then reading.bad else true }

def Reading.word (reading : Reading) (word : Bytes) : Reading :=
  match slotValue word with
  | none => reading
  | some value =>
      if value = Slot.suffix .a then reading.value .a
      else if value = Slot.suffix .b then reading.value .b
      else { reading with bad := true }

def Reading.start : Reading := { suffix := none, bad := false }

def Reading.result (reading : Reading) : Option Slot :=
  if reading.bad then none else reading.suffix

/-- `slot_from_cmdline` on the words of its argument; none stands for its failure. -/
def slotFromCmdline (argument : Bytes) : Option Slot :=
  ((words argument).foldl Reading.word Reading.start).result

/-- `$(cat /proc/cmdline)` -/
def substituted (text : Bytes) : Bytes :=
  (text.reverse.dropWhile (fun byte => byte = 10)).reverse

/-- The parser of initramfs/init on a kernel command line. -/
def initSlot (text : Bytes) : Option Slot := slotFromCmdline (substituted text)

/-- The parser of liuqin-switch, the same text. -/
def switchSlot (text : Bytes) : Option Slot := slotFromCmdline (substituted text)

def bufferSize : Nat := 8192

/-- What the buffer holds as a C string. -/
def buffered (text : Bytes) : Bytes := (text.take (bufferSize - 1)).takeWhile (fun byte => byte ≠ 0)

/-- The text that the C guard looks for. -/
def guardText (slot : Slot) : Bytes := androidKey ++ slot.suffix

/-- `cmdline_slot`; none stands for -1. -/
def cmdlineSlot (text : Bytes) : Option Slot :=
  if text = [] then none
  else
    let first := if strstr (guardText .a) (buffered text) then some Slot.a else none
    if strstr (guardText .b) (buffered text) then (if first = some .a then none else some .b)
    else first

/-- A kernel command line that the buffer of the guard takes. -/
structure CommandLine where
  text : Bytes
  fits : text.length < bufferSize
  string : (0 : UInt8) ∉ text

/-! ### The shell parser -/

/-- Every word with one of the keys has this slot's suffix. -/
def Only (slot : Slot) (words : List Bytes) : Prop :=
  ∀ word ∈ words, ∀ value, slotValue word = some value → value = slot.suffix

def Keyed (words : List Bytes) : Prop := ∃ word ∈ words, (slotValue word).isSome

theorem suffix_injective {one other : Slot} (same : one.suffix = other.suffix) : one = other := by
  cases one <;> cases other <;> first | rfl | exact absurd same (by decide)

theorem Reading.word_suffix {reading : Reading} {word : Bytes} {slot : Slot}
    (value : slotValue word = some slot.suffix) : reading.word word = reading.value slot := by
  rw [Reading.word, value]
  cases slot with
  | a => rfl
  | b => rfl

theorem Reading.word_other {reading : Reading} {word value : Bytes}
    (read : slotValue word = some value) (other : ∀ slot : Slot, value ≠ slot.suffix) :
    reading.word word = { reading with bad := true } := by
  rw [Reading.word, read]
  show (if value = Slot.suffix .a then _ else _) = _
  rw [if_neg (other .a), if_neg (other .b)]

/-- What the words so far allow: none of them bad, and this slot's at most. -/
structure Reading.Allows (reading : Reading) (slot : Slot) : Prop where
  good : reading.bad = false
  suffix : reading.suffix = none ∨ reading.suffix = some slot

theorem Reading.allows_word {reading : Reading} {word : Bytes} {slot : Slot} :
    (reading.word word).Allows slot ↔
      reading.Allows slot ∧ ∀ value, slotValue word = some value → value = slot.suffix := by
  cases read : slotValue word with
  | none =>
      rw [Reading.word, read]
      constructor
      · intro allowed
        exact ⟨allowed, fun _ none => nomatch none⟩
      · exact And.left
  | some value =>
      by_cases known : ∃ found : Slot, value = found.suffix
      · obtain ⟨found, rfl⟩ := known
        rw [Reading.word_suffix read]
        constructor
        · intro allowed
          have same : found = slot := by
            rcases allowed.suffix with none | some
            · cases none
            · exact Option.some.inj some
          subst same
          have good := allowed.good
          rw [Reading.value] at good
          by_cases before : reading.suffix = none ∨ reading.suffix = some found
          · rw [if_pos before] at good
            refine ⟨⟨good, before⟩, ?_⟩
            intro value same
            exact (Option.some.inj same).symm
          · rw [if_neg before] at good
            cases good
        · rintro ⟨allowed, same⟩
          have slots := suffix_injective (same _ rfl)
          subst slots
          constructor
          · rw [Reading.value, if_pos allowed.suffix]
            exact allowed.good
          · exact Or.inr rfl
      · have other : ∀ found : Slot, value ≠ found.suffix :=
          fun found same => known ⟨found, same⟩
        rw [Reading.word_other read other]
        constructor
        · intro allowed
          cases allowed.good
        · rintro ⟨_, same⟩
          exact absurd (same value rfl) (other slot)

theorem Reading.allows_words {words : List Bytes} {reading : Reading} {slot : Slot} :
    (words.foldl Reading.word reading).Allows slot ↔ reading.Allows slot ∧ Only slot words := by
  induction words generalizing reading with
  | nil =>
      constructor
      · intro allowed
        exact ⟨allowed, fun _ member => (List.not_mem_nil member).elim⟩
      · exact And.left
  | cons word words ih =>
      rw [List.foldl_cons, ih, Reading.allows_word, Only, Only, List.forall_mem_cons, and_assoc]

theorem Reading.suffix_word {reading : Reading} {word : Bytes} {slot : Slot}
    (allowed : (reading.word word).Allows slot) :
    (reading.word word).suffix.isSome = (reading.suffix.isSome || (slotValue word).isSome) := by
  cases read : slotValue word with
  | none =>
      rw [Reading.word, read, Option.isSome_none, Bool.or_false]
  | some value =>
      have same := (Reading.allows_word.mp allowed).2 value read
      subst same
      rw [Reading.word_suffix read, Option.isSome_some, Bool.or_true]
      rfl

theorem Reading.suffix_words {words : List Bytes} {reading : Reading} {slot : Slot}
    (allowed : (words.foldl Reading.word reading).Allows slot) :
    (words.foldl Reading.word reading).suffix.isSome = true ↔
      reading.suffix.isSome = true ∨ Keyed words := by
  induction words generalizing reading with
  | nil =>
      constructor
      · exact Or.inl
      · rintro (some | ⟨_, member, _⟩)
        · exact some
        · exact absurd member List.not_mem_nil
  | cons word words ih =>
      rw [List.foldl_cons] at allowed ⊢
      have first := (Reading.allows_words.mp allowed).1
      rw [ih allowed, Reading.suffix_word first, Bool.or_eq_true, or_assoc, Keyed, Keyed]
      simp only [List.mem_cons, exists_eq_or_imp]

/-- The shell parser in one sentence: there is a word with one of the keys, and
every such word has the suffix of this slot. -/
theorem slotFromCmdline_iff (argument : Bytes) (slot : Slot) :
    slotFromCmdline argument = some slot ↔
      Keyed (words argument) ∧ Only slot (words argument) := by
  have fresh : Reading.start.Allows slot := ⟨rfl, Or.inl rfl⟩
  rw [slotFromCmdline, Reading.result]
  constructor
  · intro found
    have good : ((words argument).foldl Reading.word Reading.start).bad = false := by
      apply Bool.eq_false_iff.mpr
      intro bad
      rw [if_pos bad] at found
      cases found
    rw [good, if_neg Bool.false_ne_true] at found
    have allowed : ((words argument).foldl Reading.word Reading.start).Allows slot :=
      ⟨good, Or.inr found⟩
    refine ⟨?_, (Reading.allows_words.mp allowed).2⟩
    rcases (Reading.suffix_words allowed).mp (by rw [found]; rfl) with none | keyed
    · cases none
    · exact keyed
  · rintro ⟨keyed, only⟩
    have allowed := Reading.allows_words.mpr ⟨fresh, only⟩
    have some_suffix := (Reading.suffix_words allowed).mpr (Or.inr keyed)
    rw [allowed.good, if_neg Bool.false_ne_true]
    rcases allowed.suffix with none | found
    · rw [none] at some_suffix
      cases some_suffix
    · exact found

/-- The newlines that the substitution drops are blanks to the parser. -/
theorem words_substituted (text : Bytes) : words (substituted text) = words text := by
  have parts : text.reverse.takeWhile (fun byte => byte = (10 : UInt8)) ++
      text.reverse.dropWhile (fun byte => byte = (10 : UInt8)) = text.reverse :=
    List.takeWhile_append_dropWhile
  have split : text = substituted text ++
      (text.reverse.takeWhile (fun byte => byte = (10 : UInt8))).reverse := by
    rw [substituted, ← List.reverse_append, parts, List.reverse_reverse]
  have trailing : ∀ byte ∈ (text.reverse.takeWhile (fun byte => byte = (10 : UInt8))).reverse,
      blank byte = true := by
    intro byte member
    have newline := List.mem_takeWhile_imp (List.mem_reverse.mp member)
    rw [of_decide_eq_true newline]
    rfl
  have whole : words text = words (substituted text ++
      (text.reverse.takeWhile (fun byte => byte = (10 : UInt8))).reverse) := congrArg words split
  rw [whole]
  exact (splitWords_trailing trailing).symm

theorem initSlot_iff (text : Bytes) (slot : Slot) :
    initSlot text = some slot ↔ Keyed (words text) ∧ Only slot (words text) := by
  rw [initSlot, slotFromCmdline_iff, words_substituted]

/-! ### The guard -/

theorem guardText_nonempty (slot : Slot) : guardText slot ≠ [] := by
  cases slot with
  | a => decide
  | b => decide

theorem guardText_plain (slot : Slot) : ∀ byte ∈ guardText slot, blank byte = false := by
  cases slot with
  | a => decide +kernel
  | b => decide +kernel

theorem buffered_line (line : CommandLine) : buffered line.text = line.text := by
  have whole : line.text.take (bufferSize - 1) = line.text := by
    apply List.take_of_length_le
    have fits := line.fits
    omega
  rw [buffered, whole]
  apply List.takeWhile_eq_self_iff.mpr
  intro byte member
  apply decide_eq_true
  intro zero
  rw [zero] at member
  exact line.string member

/-- The guard in one sentence. -/
theorem cmdlineSlot_iff (line : CommandLine) (slot : Slot) :
    cmdlineSlot line.text = some slot ↔
      guardText slot <:+: line.text ∧ ¬guardText slot.other <:+: line.text := by
  rw [cmdlineSlot, buffered_line]
  by_cases empty : line.text = []
  · rw [if_pos empty, empty, List.infix_nil]
    constructor
    · intro none
      cases none
    · intro found
      exact absurd found.1 (guardText_nonempty slot)
  · rw [if_neg empty]
    simp only [strstr_iff]
    by_cases first : guardText .a <:+: line.text <;> by_cases second : guardText .b <:+: line.text
      <;> cases slot <;> simp [first, second, Slot.other]

theorem guardText_words (text : Bytes) (slot : Slot) :
    guardText slot <:+: text ↔ ∃ word ∈ words text, guardText slot <:+: word :=
  infix_splitWords (guardText_nonempty slot) (guardText_plain slot) [] text

/-! ### When they agree -/

/-- The shell parser reads the words, its copies are one, and the guard follows it. -/
structure ParsersAgree (line : CommandLine) : Prop where
  words : ∀ slot, initSlot line.text = some slot ↔
    Keyed (words line.text) ∧ Only slot (words line.text)
  copies : switchSlot line.text = initSlot line.text
  guard : ∀ slot, initSlot line.text = some slot → cmdlineSlot line.text = some slot

/-- Where the words with a key name one slot, its text stands in some word and
the text of the other slot in none. -/
def Unmixed (line : CommandLine) : Prop :=
  ∀ slot, Keyed (words line.text) → Only slot (words line.text) →
    (∃ word ∈ words line.text, guardText slot <:+: word) ∧
      ∀ word ∈ words line.text, ¬guardText slot.other <:+: word

theorem parsers_agree (line : CommandLine) : ParsersAgree line ↔ Unmixed line := by
  have guarded (slot : Slot) : cmdlineSlot line.text = some slot ↔
      (∃ word ∈ words line.text, guardText slot <:+: word) ∧
        ∀ word ∈ words line.text, ¬guardText slot.other <:+: word := by
    rw [cmdlineSlot_iff, guardText_words, guardText_words]
    simp only [not_exists, not_and]
  constructor
  · intro agree slot keyed only
    exact (guarded slot).mp (agree.guard slot ((initSlot_iff line.text slot).mpr ⟨keyed, only⟩))
  · intro unmixed
    constructor
    · exact initSlot_iff line.text
    · rfl
    · intro slot accepted
      obtain ⟨keyed, only⟩ := (initSlot_iff line.text slot).mp accepted
      exact (guarded slot).mpr (unmixed slot keyed only)

/-- A hand-written line with the bare key, and one whose foreign word decides. -/
theorem guard_differs :
    (initSlot (encode "slot_suffix=_b".toList) = some .b ∧
      cmdlineSlot (encode "slot_suffix=_b".toList) = none) ∧
    (initSlot (encode "slot_suffix=_a xandroidboot.slot_suffix=_b".toList) = some .a ∧
      cmdlineSlot (encode "slot_suffix=_a xandroidboot.slot_suffix=_b".toList) = some .b) := by
  refine ⟨⟨?_, ?_⟩, ?_, ?_⟩ <;> rfl

end Liuqin.Slot
