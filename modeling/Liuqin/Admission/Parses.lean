/-
A contract that builds, read back.

Every pin has a line of its own: a digest, a gap and a plain absolute path.
Both readers take such a line apart where the generator put it together, if the
digest is one.
-/

import Liuqin.Admission.Contract

namespace Liuqin.Admission

open Library.Lines Library.Checked Library.Bytes

/-! ### Plain paths and digests -/

/-- A path that both readers take as it stands. -/
def plainPath (path : Text) : Bool :=
  startsWith "/".toList path && !climbs path && path.all (fun char => char ≠ '\n' && char.val ≠ 0) &&
    path.getLast?.all (fun char => !blank char)

/-- What both lists are. -/
def plainPins (paths : List Text) : Bool :=
  paths.all (fun path => plainPath path && 7 ≤ path.length && path.length ≤ 96 &&
    path.all (fun char => char ∉ boundaries && char.val.toNat < 128)) &&
  39 ≤ paths.length && paths.length ≤ 64

theorem plainPins_pins (profile : Profile) : plainPins profile.pins = true := by
  cases profile with
  | gnome =>
      rw [Profile.pins, pinnedPaths]
      apply check_texts
      · repeat apply texts_cons rfl
        exact texts_nil
      · decide +kernel
  | native =>
      rw [Profile.pins, nativePinnedPaths]
      apply check_texts
      · repeat apply texts_cons rfl
        exact texts_nil
      · decide +kernel

def plainHeader (header : Text) : Bool :=
  header.length ≤ 64 && header.all (fun char => char ≠ '\n' && char.val ≠ 0 && char.val.toNat < 128)

theorem plainHeader_header (profile : Profile) : plainHeader profile.header = true := by
  cases profile <;> decide +kernel

theorem header_plain (profile : Profile) :
    profile.header.all (fun char => char ≠ '\n' && char.val ≠ 0) = true := by
  have plain := plainHeader_header profile
  rw [plainHeader, Bool.and_eq_true] at plain
  apply List.all_eq_true.mpr
  intro char member
  have each := List.all_eq_true.mp plain.2 char member
  rw [Bool.and_eq_true] at each
  exact each.1

/-- What holds of each pin. -/
structure PinFacts (rel : Text) : Prop where
  plain : plainPath rel = true
  long : 7 ≤ rel.length
  short : rel.length ≤ 96
  characters : ∀ char ∈ rel, char ∉ boundaries ∧ char.val.toNat < 128

theorem pin_facts {profile : Profile} {rel : Text} (member : rel ∈ profile.pins) :
    PinFacts rel := by
  have plain := plainPins_pins profile
  rw [plainPins, Bool.and_eq_true, Bool.and_eq_true] at plain
  have each := List.all_eq_true.mp plain.1.1 rel member
  rw [Bool.and_eq_true, Bool.and_eq_true, Bool.and_eq_true] at each
  obtain ⟨⟨⟨path, long⟩, short⟩, characters⟩ := each
  constructor
  · exact path
  · exact of_decide_eq_true long
  · exact of_decide_eq_true short
  · intro char inside
    have both := List.all_eq_true.mp characters char inside
    rw [Bool.and_eq_true] at both
    exact ⟨of_decide_eq_true both.1, of_decide_eq_true both.2⟩

/-- There are enough pins, and not too many. -/
theorem pins_bounds (profile : Profile) :
    39 ≤ profile.pins.length ∧ profile.pins.length ≤ 64 := by
  have plain := plainPins_pins profile
  rw [plainPins, Bool.and_eq_true, Bool.and_eq_true] at plain
  exact ⟨of_decide_eq_true plain.1.2, of_decide_eq_true plain.2⟩

section Plain

variable {text : Text}
  (plain : text.all (fun char => char ≠ '\n' && char.val ≠ 0) = true)

include plain

theorem plain_newline : '\n' ∉ text := by
  intro member
  have checked := List.all_eq_true.mp plain '\n' member
  revert checked
  decide

theorem plain_null : ∀ char ∈ text, char.val ≠ 0 := by
  intro char member null
  have checked := List.all_eq_true.mp plain char member
  have same : char = Char.ofNat 0 := Char.ext null
  rw [same] at checked
  revert checked
  decide

end Plain

structure PlainPath (path : Text) : Prop where
  absolute : startsWith "/".toList path = true
  level : climbs path = false
  characters : path.all (fun char => char ≠ '\n' && char.val ≠ 0) = true
  ends : ∀ char, path.getLast? = some char → blank char = false

theorem plainPath_spec {path : Text} (plain : plainPath path = true) : PlainPath path := by
  unfold plainPath at plain
  rw [Bool.and_eq_true, Bool.and_eq_true, Bool.and_eq_true] at plain
  obtain ⟨⟨⟨absolute, level⟩, characters⟩, ends⟩ := plain
  constructor
  · exact absolute
  · exact Bool.not_eq_true' _ ▸ level
  · exact characters
  · intro char last
    rw [last] at ends
    exact Bool.not_eq_true' _ ▸ ends

theorem PlainPath.starts {path : Text} (plain : PlainPath path) :
    ∀ char, path.head? = some char → blank char = false := by
  intro char head
  obtain ⟨rest, same⟩ := List.isPrefixOf_iff_prefix.mp plain.absolute
  rw [← same] at head
  have slash : '/' = char := Option.some.inj head
  rw [← slash]
  rfl

theorem sorted_mem {paths : List Text} {rel : Text} : rel ∈ sorted paths ↔ rel ∈ paths :=
  (List.perm_insertionSort _ paths).mem_iff

theorem sorted_length (paths : List Text) : (sorted paths).length = paths.length :=
  (List.perm_insertionSort _ paths).length_eq

theorem pin_plain {profile : Profile} {rel : Text} (member : rel ∈ profile.pins) : PlainPath rel :=
  plainPath_spec (pin_facts member).plain

section Digest

variable {digest : Text} (sha : Sha256 digest)

include sha

theorem sha256_hex {char : Char} (member : char ∈ digest) : hexDigit char = true :=
  List.all_eq_true.mp sha.2 char member

theorem sha256_newline : '\n' ∉ digest := by
  intro member
  have hex := sha256_hex sha member
  revert hex
  decide

theorem sha256_space : ' ' ∉ digest := by
  intro member
  have hex := sha256_hex sha member
  revert hex
  decide

theorem sha256_null : ∀ char ∈ digest, char.val ≠ 0 := by
  intro char member null
  have hex := sha256_hex sha member
  have same : char = Char.ofNat 0 := Char.ext null
  rw [same] at hex
  revert hex
  decide

theorem sha256_solid : ∀ char ∈ digest, blank char = false := by
  intro char member
  have hex := sha256_hex sha member
  by_cases space : char = ' '
  · rw [space] at hex
    exact absurd hex (by decide)
  · by_cases tab : char = '\t'
    · rw [tab] at hex
      exact absurd hex (by decide)
    · rw [blank, decide_eq_false space, decide_eq_false tab]
      rfl

theorem sha256_nonempty : digest ≠ [] := by
  intro empty
  have length := sha.1
  rw [empty] at length
  cases length

end Digest

/-! ### One line -/

/-- The line of a pin. -/
def pinLine (pin : Text × Text) : Text := pin.2 ++ gap ++ pin.1

/-- A pin that both readers understand. -/
structure Sound (pin : Text × Text) : Prop where
  path : PlainPath pin.1
  digest : Sha256 pin.2

section Line

variable {pin : Text × Text} (sound : Sound pin)

include sound

theorem pinLine_newline : '\n' ∉ pinLine pin := by
  intro member
  rcases List.mem_append.mp member with front | path
  · rcases List.mem_append.mp front with digest | between
    · exact sha256_newline sound.digest digest
    · revert between
      decide
  · exact plain_newline sound.path.characters path

theorem pinLine_null : ∀ char ∈ pinLine pin, char.val ≠ 0 := by
  intro char member
  rcases List.mem_append.mp member with front | path
  · rcases List.mem_append.mp front with digest | between
    · exact sha256_null sound.digest char digest
    · intro null
      have same : char = Char.ofNat 0 := Char.ext null
      rw [same] at between
      revert between
      decide
  · exact plain_null sound.path.characters char path

theorem parseLine_pin : parseLine (pinLine pin) = .ok pin := by
  have split : breakAt gap (pinLine pin) = some (pin.2, pin.1) :=
    breakAt_append (sha256_space sound.digest)
  have together : ¬ pin.2 ++ gap ++ pin.1 ≠ pinLine pin := fun differs => differs rfl
  have absolute : ¬ startsWith "/".toList pin.1 = false := by
    rw [sound.path.absolute]
    decide
  have level : ¬ climbs pin.1 = true := by
    rw [sound.path.level]
    decide
  unfold parseLine
  rw [split]
  simp only [Option.map_some, Option.getD_some]
  rw [if_neg together, if_neg (not_not_intro sound.digest), if_neg absolute, if_neg level]

theorem readFields_pin : readFields (pinLine pin) = (pin.2, pin.1) := by
  apply readFields_pair (pinLine_null sound)
  · decide
  · exact sha256_solid sound.digest
  · intro char member
    have both : char = ' ' := by
      rcases List.mem_cons.mp member with first | later
      · exact first
      · exact List.mem_singleton.mp later
    rw [both]
    rfl
  · exact sha256_nonempty sound.digest
  · exact sound.path.starts
  · exact sound.path.ends

end Line

/-! ### The loops -/

theorem readLoop_pins {header root : Text} {files : Files} {pins : List (Text × Text)} {count : Nat}
    (sound : ∀ pin ∈ pins, Sound pin) (begun : count ≠ 0)
    (enough : 10 ≤ count + pins.length) (bounded : count + pins.length ≤ 128) :
    readLoop header files root count (pins.map pinLine) =
      untilRefused (checkFile files root) pins := by
  induction pins generalizing count with
  | nil =>
      rw [List.length_nil] at enough bounded
      rw [List.map_nil, readLoop, untilRefused, if_pos ⟨enough, bounded⟩]
  | cons pin rest ih =>
      rw [List.length_cons] at enough bounded
      have later : readLoop header files root (count + 1) (rest.map pinLine) =
          untilRefused (checkFile files root) rest := by
        apply ih (fun other member => sound other (List.mem_cons_of_mem _ member))
        · omega
        · omega
        · omega
      have first : ¬ count + 1 = 1 := by omega
      rw [List.map_cons, readLoop, if_neg first, parseLine_pin (sound pin List.mem_cons_self),
        untilRefused]
      simp only
      rw [later]
      cases checkFile files root pin with
      | none => rfl
      | some reason => rfl

theorem verifyLoop_pins {sha256sum : Text → Text} {pins : List (Text × Text)}
    (sound : ∀ pin ∈ pins, Sound pin) :
    verifyLoop sha256sum (pins.map pinLine) = untilRefused (rootMismatch sha256sum) pins := by
  induction pins with
  | nil => rfl
  | cons pin rest ih =>
      have later := ih (fun other member => sound other (List.mem_cons_of_mem _ member))
      have here := sound pin List.mem_cons_self
      rw [List.map_cons, verifyLoop, readFields_pin here, untilRefused]
      simp only
      rw [if_neg (sha256_nonempty here.digest), later]
      cases rootMismatch sha256sum pin with
      | none => rfl
      | some reason => rfl

theorem parseLine_digest {line : Text} {pin : Text × Text} (parsed : parseLine line = .ok pin) :
    Sha256 pin.2 := by
  unfold parseLine at parsed
  simp only at parsed
  split at parsed
  · cases parsed
  · split at parsed
    · cases parsed
    · next digest =>
        split at parsed
        · cases parsed
        · split at parsed
          · cases parsed
          · have same := Except.ok.inj parsed
            rw [← same]
            exact Classical.not_not.mp digest

/-- Every file check that the reader reaches has a digest. -/
theorem readLoop_digests {header root : Text} {files : Files} {lines : List Text} {count : Nat} :
    ∀ pin ∈ (readLoop header files root count lines).1, Sha256 pin.2 := by
  induction lines generalizing count with
  | nil =>
      intro pin member
      cases member
  | cons line rest ih =>
      intro pin member
      rw [readLoop] at member
      by_cases first : count + 1 = 1
      · rw [if_pos first] at member
        by_cases other : line ≠ header
        · rw [if_pos other] at member
          cases member
        · rw [if_neg other] at member
          exact ih pin member
      · rw [if_neg first] at member
        cases parsed : parseLine line with
        | error reason =>
            rw [parsed] at member
            cases member
        | ok found =>
            have digest := parseLine_digest parsed
            rw [parsed] at member
            simp only at member
            cases checked : checkFile files root found with
            | some reason =>
                rw [checked] at member
                rw [List.mem_singleton.mp member]
                exact digest
            | none =>
                rw [checked] at member
                rcases List.mem_cons.mp member with same | later
                · rw [same]
                  exact digest
                · exact ih pin later

/-! ### What the generator wrote -/

/-- The checks that a contract has passed. -/
structure Built (profile : Profile) (manifest contract : Text) : Prop where
  carried : ∀ rel ∈ profile.pins, (layerHashes manifest).lookup rel ≠ none
  text : contract = terminated
    (profile.header :: (sorted profile.pins).map (contractLine (layerHashes manifest)))
  enough : 10 ≤ 1 + profile.pins.length
  bounded : 1 + profile.pins.length ≤ 128
  large : 256 ≤ contract.length
  small : contract.length ≤ 16384
  ascii : Ascii contract

theorem buildContract_built {profile : Profile} {named : Bool} {manifestPath manifest contract : Text}
    (built : buildContract profile named manifestPath (some manifest) = .ok contract) :
    Built profile manifest contract := by
  unfold buildContract at built
  simp only [bind_eq_ok, refuseIf_eq_ok, pure_eq_ok, Option.getD_some] at built
  obtain ⟨_, _, _, _, _, _, _, carried, _, _, _, bounds, _, ascii, written⟩ := built
  rw [not_or, not_not, not_not, List.length_cons, List.length_map, sorted_length] at bounds
  rw [not_not] at ascii
  rw [join_terminated] at bounds ascii written
  rw [written] at bounds ascii
  obtain ⟨⟨enough, bounded⟩, large, small⟩ := bounds
  constructor
  · intro rel member
    have checked := forM_eq_ok.mp carried rel member
    rw [refuseIf_eq_ok] at checked
    exact checked
  · exact written.symm
  · omega
  · omega
  · exact large
  · exact small
  · exact ascii

/-- Every digest that the manifest gives for a pin is one. -/
def Digests (profile : Profile) (manifest : Text) : Prop :=
  ∀ rel ∈ profile.pins, ∃ digest, (layerHashes manifest).lookup rel = some digest ∧ Sha256 digest

section Contract

variable {profile : Profile} {manifest contract : Text}

theorem pinnedDigests_length :
    (pinnedDigests profile manifest).length = profile.pins.length := by
  rw [pinnedDigests, List.length_map, sorted_length]

theorem pinnedDigests_sound (digests : Digests profile manifest) :
    ∀ pin ∈ pinnedDigests profile manifest, Sound pin := by
  intro pin member
  obtain ⟨rel, listed, same⟩ := List.mem_map.mp member
  rw [sorted_mem] at listed
  obtain ⟨digest, found, sha⟩ := digests rel listed
  rw [← same]
  constructor
  · exact pin_plain listed
  · rw [found]
    exact sha

theorem Built.lines (built : Built profile manifest contract) :
    contract = terminated (profile.header :: (pinnedDigests profile manifest).map pinLine) := by
  rw [built.text, pinnedDigests, List.map_map]
  rfl

/-- The reader of a profile is the one reader with its header. -/
theorem rootOk_eq (profile : Profile) : profile.rootOk = readContract profile.header := by
  cases profile with
  | gnome => rfl
  | native => rfl

theorem Built.endedLines (built : Built profile manifest contract)
    (digests : Digests profile manifest) :
    (Library.Lines.endedLines contract).map keptByRead =
      profile.header :: (pinnedDigests profile manifest).map pinLine := by
  have sound := pinnedDigests_sound digests
  have header := header_plain profile
  rw [built.lines, endedLines_terminated, List.map_cons, keptByRead_plain (plain_null header),
    List.map_map]
  · congr 1
    apply List.map_congr_left
    intro pin member
    exact keptByRead_plain (pinLine_null (sound pin member))
  · intro line member
    rcases List.mem_cons.mp member with first | later
    · rw [first]
      exact plain_newline header
    · obtain ⟨pin, inside, same⟩ := List.mem_map.mp later
      rw [← same]
      exact pinLine_newline (sound pin inside)

theorem Built.stage1 (built : Built profile manifest contract) (digests : Digests profile manifest)
    (files : Files) (root : Text) : profile.rootOk files root contract =
      untilRefused (checkFile files root) (pinnedDigests profile manifest) := by
  have size : (encode contract).length = contract.length :=
    (encode_length_ascii contract).mpr built.ascii
  have room : (encode contract).length ≥ 256 ∧ (encode contract).length ≤ 16384 := by
    rw [size]
    exact ⟨built.large, built.small⟩
  rw [rootOk_eq, readContract, if_pos room, built.endedLines digests, readLoop]
  rw [if_pos rfl, if_neg (not_not_intro rfl)]
  apply readLoop_pins (pinnedDigests_sound digests)
  · decide
  · rw [pinnedDigests_length]
    exact built.enough
  · rw [pinnedDigests_length]
    exact built.bounded

theorem Built.installer (built : Built profile manifest contract)
    (digests : Digests profile manifest) (sha256sum : Text → Text) :
    verifyRoot sha256sum contract =
      untilRefused (rootMismatch sha256sum) (pinnedDigests profile manifest) := by
  have sound := pinnedDigests_sound digests
  have ended : Library.Lines.endedLines (terminated ((pinnedDigests profile manifest).map pinLine)) =
      (pinnedDigests profile manifest).map pinLine := by
    apply endedLines_terminated
    intro line member
    obtain ⟨pin, inside, same⟩ := List.mem_map.mp member
    rw [← same]
    exact pinLine_newline (sound pin inside)
  rw [verifyRoot, built.lines, withoutFirst_terminated _ (plain_newline (header_plain profile)),
    ended]
  exact verifyLoop_pins sound

/-- Files that are all as the manifest has them. -/
def faithful (manifest : Text) : Files where
  regular := fun _ => true
  ownedByRoot := fun _ => true
  sha256sum := fun path => ((layerHashes manifest).lookup path).getD []

theorem faithful_accepted : untilRefused (checkFile (faithful manifest) [])
    (pinnedDigests profile manifest) = (pinnedDigests profile manifest, none) := by
  apply untilRefused_accepted
  intro pin member
  obtain ⟨rel, _, same⟩ := List.mem_map.mp member
  rw [← same]
  simp [checkFile, faithful]

theorem digests_of_parses (built : Built profile manifest contract)
    (parses : Parses profile manifest contract) : Digests profile manifest := by
  intro rel member
  have reached := parses.stage1 (faithful manifest) []
  rw [faithful_accepted] at reached
  cases found : (layerHashes manifest).lookup rel with
  | none => exact absurd found (built.carried rel member)
  | some digest =>
      have listed : (rel, digest) ∈ pinnedDigests profile manifest := by
        apply List.mem_map.mpr
        refine ⟨rel, sorted_mem.mpr member, ?_⟩
        rw [found]
        rfl
      refine ⟨digest, rfl, ?_⟩
      rw [rootOk_eq, readContract] at reached
      split at reached
      · have checked : (rel, digest) ∈ (readLoop profile.header (faithful manifest) [] 0
            ((Library.Lines.endedLines contract).map keptByRead)).1 := by
          rw [reached]
          exact listed
        exact readLoop_digests (rel, digest) checked
      · rw [← (Prod.mk.inj reached).1] at listed
        cases listed

end Contract

/-- A contract that builds parses exactly when the manifest's digests of the pins are digests. -/
theorem contract_parses {profile : Profile} {named : Bool} {manifestPath manifest contract : Text}
    (built : buildContract profile named manifestPath (some manifest) = .ok contract) :
    Parses profile manifest contract ↔ Digests profile manifest := by
  have written := buildContract_built built
  constructor
  · exact digests_of_parses written
  · intro digests
    constructor
    · exact written.stage1 digests
    · exact written.installer digests

/-! ### A manifest of pins -/

/-- Nothing in a digest that the generator would split at. -/
structure Unbroken (digest : Text) : Prop where
  spaces : ' ' ∉ digest
  boundaries : ∀ char ∈ digest, char ∉ boundaries

/-- Every pin of a profile with the same digest. -/
def uniform (profile : Profile) (digest : Text) : Text :=
  terminated (profile.pins.map (fun rel => pinLine (rel, digest)))

theorem pinLine_unbroken {profile : Profile} {digest rel : Text} (unbroken : Unbroken digest)
    (member : rel ∈ profile.pins) : ∀ char ∈ pinLine (rel, digest), char ∉ boundaries := by
  intro char inside
  rcases List.mem_append.mp inside with front | path
  · rcases List.mem_append.mp front with listed | between
    · exact unbroken.boundaries char listed
    · have space : char = ' ' := by
        rcases List.mem_cons.mp between with first | later
        · exact first
        · exact List.mem_singleton.mp later
      rw [space]
      decide
  · exact ((pin_facts member).characters char path).1

theorem layerHashes_pins {rels : List Text} {digest : Text} (unbroken : Unbroken digest)
    (named : ∀ rel ∈ rels, rel ≠ []) (hashes : List (Text × Text)) :
    (rels.map (fun rel => pinLine (rel, digest))).foldl (fun hashes line =>
        let (digest, rel) := partition gap line
        if rel ≠ [] then (rel, digest) :: hashes else hashes) hashes =
      (rels.map (fun rel => (rel, digest))).reverse ++ hashes := by
  induction rels generalizing hashes with
  | nil => rfl
  | cons rel rest ih =>
      have split : partition gap (pinLine (rel, digest)) = (digest, rel) := by
        have broken : breakAt gap (pinLine (rel, digest)) = some (digest, rel) :=
          breakAt_append unbroken.spaces
        rw [partition, broken]
        rfl
      have later := ih (fun other member => named other (List.mem_cons_of_mem _ member))
      rw [List.map_cons, List.foldl_cons, split, later]
      simp only
      rw [if_pos (named rel List.mem_cons_self), List.map_cons, List.reverse_cons,
        List.append_assoc]
      rfl

theorem lookup_uniform {pairs : List (Text × Text)} {digest rel : Text}
    (same : ∀ pair ∈ pairs, pair.2 = digest) (listed : ∃ pair ∈ pairs, pair.1 = rel) :
    pairs.lookup rel = some digest := by
  induction pairs with
  | nil =>
      obtain ⟨pair, member, _⟩ := listed
      cases member
  | cons pair rest ih =>
      rw [List.lookup_cons]
      by_cases here : rel = pair.1
      · rw [here, beq_self_eq_true]
        exact congrArg some (same pair List.mem_cons_self)
      · rw [beq_false_of_ne here]
        apply ih (fun other member => same other (List.mem_cons_of_mem _ member))
        obtain ⟨other, member, found⟩ := listed
        rcases List.mem_cons.mp member with first | later
        · rw [first] at found
          exact absurd found.symm here
        · exact ⟨other, later, found⟩

theorem uniform_lookup {profile : Profile} {digest rel : Text} (unbroken : Unbroken digest)
    (member : rel ∈ profile.pins) :
    (layerHashes (uniform profile digest)).lookup rel = some digest := by
  have named : ∀ rel ∈ profile.pins, rel ≠ [] := by
    intro other inside empty
    have long := (pin_facts inside).long
    rw [empty] at long
    exact absurd long (by decide)
  have lines : splitlines (uniform profile digest) =
      profile.pins.map (fun rel => pinLine (rel, digest)) := by
    apply splitlines_terminated
    intro line inside
    obtain ⟨other, listed, rfl⟩ := List.mem_map.mp inside
    exact pinLine_unbroken unbroken listed
  rw [layerHashes, lines, layerHashes_pins unbroken named, List.append_nil]
  apply lookup_uniform
  · intro pair inside
    obtain ⟨other, _, rfl⟩ := List.mem_map.mp (List.mem_reverse.mp inside)
    rfl
  · exact ⟨(rel, digest), List.mem_reverse.mpr (List.mem_map.mpr ⟨rel, member, rfl⟩), rfl⟩

def accepted (paths : List Text) : Bool := (checkPinList paths).isOk

theorem accepted_pins (profile : Profile) : accepted profile.pins = true := by
  cases profile with
  | gnome =>
      rw [Profile.pins, pinnedPaths]
      apply check_texts
      · repeat apply texts_cons rfl
        exact texts_nil
      · decide +kernel
  | native =>
      rw [Profile.pins, nativePinnedPaths]
      apply check_texts
      · repeat apply texts_cons rfl
        exact texts_nil
      · decide +kernel

theorem pins_checked (profile : Profile) : checkPinList profile.pins = .ok () := by
  have passes := accepted_pins profile
  rw [accepted] at passes
  cases checked : checkPinList profile.pins with
  | error reason =>
      rw [checked] at passes
      cases passes
  | ok answer => rfl

theorem header_ascii (profile : Profile) : Ascii profile.header ∧ profile.header.length ≤ 64 := by
  have plain := plainHeader_header profile
  rw [plainHeader, Bool.and_eq_true] at plain
  constructor
  · intro char member
    have each := List.all_eq_true.mp plain.2 char member
    rw [Bool.and_eq_true] at each
    exact of_decide_eq_true each.2
  · exact of_decide_eq_true plain.1

theorem lines_length {hashes : List (Text × Text)} {digest : Text} {rels : List Text}
    (found : ∀ rel ∈ rels, hashes.lookup rel = some digest)
    (bounds : ∀ rel ∈ rels, 7 ≤ rel.length ∧ rel.length ≤ 96) :
    rels.length * (digest.length + 10) ≤
        ((rels.map (contractLine hashes)).map (fun line => line.length + 1)).sum ∧
      ((rels.map (contractLine hashes)).map (fun line => line.length + 1)).sum ≤
        rels.length * (digest.length + 99) := by
  induction rels with
  | nil => exact ⟨Nat.le_of_eq (Nat.zero_mul _), Nat.zero_le _⟩
  | cons rel rest ih =>
      obtain ⟨low, high⟩ := ih (fun other member => found other (List.mem_cons_of_mem _ member))
        (fun other member => bounds other (List.mem_cons_of_mem _ member))
      obtain ⟨long, short⟩ := bounds rel List.mem_cons_self
      have line : (contractLine hashes rel).length = digest.length + 2 + rel.length := by
        rw [contractLine, found rel List.mem_cons_self, List.length_append, List.length_append]
        rfl
      simp only [List.map_cons, List.sum_cons, List.length_cons] at low high ⊢
      rw [line, Nat.succ_mul, Nat.succ_mul]
      constructor
      · omega
      · omega

/-- A manifest that gives every pin the same short digest builds a contract, whatever the digest. -/
theorem uniform_builds (profile : Profile) (manifestPath : Text) {digest : Text}
    (unbroken : Unbroken digest) (ascii : Ascii digest) (short : digest.length ≤ 64) :
    ∃ contract,
      buildContract profile true manifestPath (some (uniform profile digest)) = .ok contract := by
  have found : ∀ rel ∈ profile.pins,
      (layerHashes (uniform profile digest)).lookup rel = some digest :=
    fun rel member => uniform_lookup unbroken member
  have foundSorted : ∀ rel ∈ sorted profile.pins,
      (layerHashes (uniform profile digest)).lookup rel = some digest :=
    fun rel member => found rel (sorted_mem.mp member)
  have bounds : ∀ rel ∈ sorted profile.pins, 7 ≤ rel.length ∧ rel.length ≤ 96 := by
    intro rel member
    have facts := pin_facts (sorted_mem.mp member)
    exact ⟨facts.long, facts.short⟩
  obtain ⟨enough, few⟩ := pins_bounds profile
  obtain ⟨headerAscii, header⟩ := header_ascii profile
  obtain ⟨low, high⟩ := lines_length foundSorted bounds
  have size := terminated_length (profile.header ::
    (sorted profile.pins).map (contractLine (layerHashes (uniform profile digest))))
  rw [List.map_cons, List.sum_cons] at size
  rw [sorted_length] at low high
  have most : profile.pins.length * (digest.length + 99) ≤ 64 * 163 :=
    Nat.mul_le_mul few (by omega)
  have least : 39 * 10 ≤ profile.pins.length * (digest.length + 10) :=
    Nat.mul_le_mul enough (by omega)
  refine ⟨terminated (profile.header ::
    (sorted profile.pins).map (contractLine (layerHashes (uniform profile digest)))), ?_⟩
  unfold buildContract
  simp only [bind_eq_ok, refuseIf_eq_ok, pure_eq_ok, Option.getD_some, join_terminated]
  refine ⟨(), pins_checked profile, (), ?_, (), ?_, (), ?_, (), ?_, (), ?_, (), ?_, trivial⟩
  · rintro ⟨_, impossible⟩
    cases impossible
  · intro impossible
    cases impossible
  · apply forM_eq_ok.mpr
    intro rel member
    rw [refuseIf_eq_ok, found rel member]
    intro impossible
    cases impossible
  · rw [List.length_cons, List.length_map, sorted_length]
    exact not_not_intro rfl
  · rw [List.length_cons, List.length_map, sorted_length]
    omega
  · apply not_not_intro
    intro char member
    obtain ⟨line, inside, listed⟩ := List.mem_flatMap.mp member
    rcases List.mem_append.mp listed with own | newline
    · rcases List.mem_cons.mp inside with first | later
      · rw [first] at own
        exact headerAscii char own
      · obtain ⟨rel, sortedRel, rfl⟩ := List.mem_map.mp later
        rw [contractLine, foundSorted rel sortedRel] at own
        rcases List.mem_append.mp own with front | path
        · rcases List.mem_append.mp front with listed | between
          · exact ascii char listed
          · have space : char = ' ' := by
              rcases List.mem_cons.mp between with one | two
              · exact one
              · exact List.mem_singleton.mp two
            rw [space]
            decide
        · exact ((pin_facts (sorted_mem.mp sortedRel)).characters char path).2
    · rw [List.mem_singleton.mp newline]
      decide

def zeros : Text := List.replicate 64 '0'

theorem contract_parses_zeros : ∃ contract,
    buildContract .native true [] (some (uniform .native zeros)) = .ok contract ∧
      Parses .native (uniform .native zeros) contract := by
  have unbroken : Unbroken zeros := by
    constructor
    · decide
    · intro char member
      rw [List.eq_of_mem_replicate member]
      decide
  have ascii : Ascii zeros := by
    intro char member
    rw [List.eq_of_mem_replicate member]
    decide
  obtain ⟨contract, built⟩ := uniform_builds .native [] unbroken ascii (by decide)
  refine ⟨contract, built, (contract_parses built).mpr ?_⟩
  intro rel member
  exact ⟨zeros, uniform_lookup unbroken member, by decide⟩

/-- A manifest whose digests are the letter x builds a contract that stage 1 refuses. -/
theorem letters_built_refused : ∃ contract,
    buildContract .native true [] (some (uniform .native ['x'])) = .ok contract ∧
      ¬ Parses .native (uniform .native ['x']) contract := by
  have unbroken : Unbroken ['x'] := by
    constructor
    · decide
    · intro char member
      rw [List.mem_singleton.mp member]
      decide
  have ascii : Ascii ['x'] := by decide
  obtain ⟨contract, built⟩ := uniform_builds .native [] unbroken ascii (by decide)
  refine ⟨contract, built, ?_⟩
  intro parses
  obtain ⟨rel, member⟩ : ∃ rel, rel ∈ Profile.native.pins := by
    apply List.exists_mem_of_length_pos
    have enough := (pins_bounds .native).1
    omega
  obtain ⟨digest, found, sha⟩ := digests_of_parses (buildContract_built built) parses rel member
  rw [uniform_lookup unbroken member] at found
  rw [← Option.some.inj found] at sha
  revert sha
  decide

end Liuqin.Admission
