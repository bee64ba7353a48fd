/-
What a reused artifact has in common with the sources.

An entry of the cache stands for a run that stored an artifact, through the key
of its fingerprint and the digest of its bytes.  So a lookup that returns finds
those bytes and the same fingerprint.  The fingerprint tells commits and builders
apart, but of a ROM directory only the paths and contents put one behind the
other: two directories that differ where a path ends are the same to it.
-/

import Liuqin.Inputs.Cache

namespace Liuqin.Inputs

open Liuqin.Library Liuqin.Library.Program Liuqin.Library.Lines
open Library.Bytes (encode)

variable {Tree : Type}

/-! ### The statement -/

/-- The sources that go into the fingerprint agree, the ROM directories as far as said. -/
def Target.Agree (alike : Rom → Rom → Prop) (one other : Sources Tree) : Target → Prop
  | .sensorStack => one.sensors = other.sensors ∧ one.overlay = other.overlay ∧
      one.sensorsBuilder = other.sensorsBuilder ∧ alike one.rom other.rom
  | .settings => one.settings = other.settings ∧ one.settingsBuilder = other.settingsBuilder

/-- The copy holds the bytes a run stored that started from the same sources. -/
def Backed (alike : Rom → Rom → Prop) (stored : List (Copy Tree)) (copy : Copy Tree) : Prop :=
  ∃ source ∈ stored, source.target = copy.target ∧ source.bytes = copy.bytes ∧
    copy.target.Agree alike source.sources copy.sources

/-- Every reused artifact is what the same sources gave. -/
def Faithful (world : World Tree) : Prop :=
  ∀ copy ∈ world.reused, Backed (· = ·) world.stored copy

/-- No two ROM directories that runs found give the same bytes to the hash. -/
def Distinct (world : World Tree) : Prop :=
  ∀ copy ∈ world.reused, ∀ source ∈ world.stored,
    source.sources.rom.stream = copy.sources.rom.stream → source.sources.rom = copy.sources.rom

section Decided

variable [DecidableEq Tree]

instance (one other : Sources Tree) (target : Target) :
    Decidable (target.Agree (· = ·) one other) :=
  match target with
  | .sensorStack => inferInstanceAs (Decidable (_ ∧ _ ∧ _ ∧ _ = _))
  | .settings => inferInstanceAs (Decidable (_ ∧ _))

instance (world : World Tree) : Decidable (Faithful world) :=
  inferInstanceAs (Decidable (∀ copy ∈ world.reused, ∃ source ∈ world.stored, _ ∧ _ ∧ _))

instance (world : World Tree) : Decidable (Distinct world) :=
  inferInstanceAs (Decidable (∀ copy ∈ world.reused, ∀ source ∈ world.stored, _ → _ = _))

end Decided

/-! ### Fingerprints -/

def fieldsOf (hashes : Hashes Tree) (sources : Sources Tree) : Target → Fingerprint
  | .sensorStack => [("builder".toList, hashes.item sources .sensorsBuilder),
      ("device/sensors".toList, hashes.item sources .sensors),
      ("device/sensors-overlay".toList, hashes.item sources .overlay),
      ("rom_sensors".toList, hashes.item sources .rom)]
  | .settings => [("builder".toList, hashes.item sources .settingsBuilder),
      ("device/gnome-control-center".toList, hashes.item sources .settings)]

def Plain (text : Text) : Prop := '"' ∉ text

theorem hex_plain {text : Text} (hex : ∀ char ∈ text, Hex char) : Plain text := by
  intro member
  have digit := hex '"' member
  revert digit
  decide

theorem item_plain (hashes : Hashes Tree) (sources : Sources Tree) (item : Item) :
    Plain (hashes.item sources item) := by
  cases item with
  | sensors => exact hex_plain (hashes.tree_hex _)
  | overlay => exact hex_plain (hashes.tree_hex _)
  | settings => exact hex_plain (hashes.tree_hex _)
  | sensorsBuilder => exact hex_plain (hashes.sha256_hex _)
  | settingsBuilder => exact hex_plain (hashes.sha256_hex _)
  | rom => exact hex_plain (hashes.sha256_hex _)

/-- The first quote ends a string without quotes. -/
theorem quoted_front {one other back rest : Text} (plain : Plain one) (clear : Plain other)
    (same : one ++ '"' :: back = other ++ '"' :: rest) : one = other ∧ back = rest := by
  have first : breakAt ['"'] (one ++ ['"'] ++ back) = some (one, back) := breakAt_append plain
  have second : breakAt ['"'] (other ++ ['"'] ++ rest) = some (other, rest) :=
    breakAt_append clear
  rw [List.append_assoc, List.singleton_append] at first second
  rw [same, second] at first
  injection first with first
  injection first with front behind
  exact ⟨front.symm, behind.symm⟩

theorem member_front {key one other back rest : Text} (plain : Plain one) (clear : Plain other)
    (same : member (key, one) ++ back = member (key, other) ++ rest) :
    one = other ∧ back = rest := by
  simp only [member, quote, List.append_assoc, List.cons_append, List.nil_append] at same
  injection same with _ same
  have behind := List.append_cancel_left same
  injection behind with _ behind
  injection behind with _ behind
  injection behind with _ behind
  injection behind with _ behind
  exact quoted_front plain clear behind

/-- Two objects with the same keys and the same text have the same values. -/
theorem members_injective {keys ones others : List Text} (long : keys.length = ones.length)
    (wide : keys.length = others.length) (plain : ∀ one ∈ ones, Plain one)
    (clear : ∀ other ∈ others, Plain other)
    (same : members (keys.zip ones) = members (keys.zip others)) : ones = others := by
  induction keys generalizing ones others with
  | nil =>
      rw [List.length_eq_zero_iff.mp long.symm, List.length_eq_zero_iff.mp wide.symm]
  | cons key keys ih =>
      obtain ⟨one, ones, rfl⟩ := List.exists_cons_of_length_eq_add_one long.symm
      obtain ⟨other, others, rfl⟩ := List.exists_cons_of_length_eq_add_one wide.symm
      have front := plain one List.mem_cons_self
      have back := clear other List.mem_cons_self
      rw [List.length_cons, List.length_cons, Nat.add_right_cancel_iff] at long wide
      have rest : one = other ∧ members (keys.zip ones) = members (keys.zip others) := by
        cases keys with
        | nil =>
            rw [List.zip_nil_left, List.zip_nil_left]
            exact ⟨(member_front front back same).1, rfl⟩
        | cons next keys =>
            obtain ⟨second, ones, rfl⟩ := List.exists_cons_of_length_eq_add_one long.symm
            obtain ⟨third, others, rfl⟩ := List.exists_cons_of_length_eq_add_one wide.symm
            have parts := member_front front back same
            exact ⟨parts.1, List.append_cancel_left parts.2⟩
      have tail := ih long wide (fun value inside => plain value (List.mem_cons_of_mem _ inside))
        (fun value inside => clear value (List.mem_cons_of_mem _ inside)) rest.2
      rw [rest.1, tail]

theorem key_values (hashes : Hashes Tree) (keys : List Text) {ones others : List Text}
    (long : keys.length = ones.length) (wide : keys.length = others.length)
    (plain : ∀ one ∈ ones, Plain one) (clear : ∀ other ∈ others, Plain other)
    (same : hashes.fingerprintKey (keys.zip ones) = hashes.fingerprintKey (keys.zip others)) :
    ones = others := by
  have texts := Bytes.encode_injective (hashes.sha256_injective same)
  injection texts with _ texts
  exact members_injective long wide plain clear texts

/-- The key of a fingerprint says everything of the sources but where a path of
the ROM directory ends. -/
theorem key_agree (hashes : Hashes Tree) (target : Target) (one other : Sources Tree)
    (same : hashes.fingerprintKey (fieldsOf hashes one target) =
      hashes.fingerprintKey (fieldsOf hashes other target)) :
    target.Agree (fun first second => first.stream = second.stream) one other := by
  cases target with
  | sensorStack =>
      have values : [hashes.item one .sensorsBuilder, hashes.item one .sensors,
            hashes.item one .overlay, hashes.item one .rom] =
          [hashes.item other .sensorsBuilder, hashes.item other .sensors,
            hashes.item other .overlay, hashes.item other .rom] :=
        key_values hashes ["builder".toList, "device/sensors".toList,
          "device/sensors-overlay".toList, "rom_sensors".toList] rfl rfl (by simp [item_plain])
          (by simp [item_plain]) same
      simp only [List.cons.injEq, and_true] at values
      obtain ⟨builder, sensors, overlay, rom⟩ := values
      exact ⟨hashes.tree_injective sensors, hashes.tree_injective overlay,
        hashes.sha256_injective builder, hashes.sha256_injective rom⟩
  | settings =>
      have values : [hashes.item one .settingsBuilder, hashes.item one .settings] =
          [hashes.item other .settingsBuilder, hashes.item other .settings] :=
        key_values hashes ["builder".toList, "device/gnome-control-center".toList] rfl rfl
          (by simp [item_plain]) (by simp [item_plain]) same
      simp only [List.cons.injEq, and_true] at values
      exact ⟨hashes.tree_injective values.2, hashes.sha256_injective values.1⟩

/-! ### Invariants -/

section Runs

variable (hashes : Hashes Tree)

/-- The entry stands for something that was stored. -/
def Vouched (stored : List (Copy Tree)) (target : Target) (entry : Entry) : Prop :=
  ∃ source ∈ stored, source.target = target ∧
    entry.fingerprint = hashes.fingerprintKey (fieldsOf hashes source.sources target) ∧
    entry.sha256 = hashes.sha256 source.bytes

/-- All entries of a cache do. -/
def Kept (stored : List (Copy Tree)) (cache : Cache) : Prop :=
  ∀ target entry, cache target = some entry → Vouched hashes stored target entry

/-- What every run keeps. -/
structure Sound (world : World Tree) : Prop where
  file : ∀ cache, world.cacheFile = .whole cache → Kept hashes world.stored cache
  reused : ∀ copy ∈ world.reused,
    Backed (fun first second => first.stream = second.stream) world.stored copy

/-- A run with this cache in its hands. -/
structure Holding (cache : Cache) (sources : Sources Tree) (world : World Tree) : Prop
    extends Sound hashes world where
  cache : Kept hashes world.stored cache
  sources : world.sources = sources

abbrev Goes {α : Type} (program : Script α) (returned : α → World Tree → Prop)
    (world : World Tree) : Prop :=
  wp (machine hashes) (fun _ => Sound hashes) (fun _ => Sound hashes) program returned world

variable {hashes} {world : World Tree}

theorem Vouched.more {stored : List (Copy Tree)} {target : Target} {entry : Entry}
    (vouched : Vouched hashes stored target entry) (copy : Copy Tree) :
    Vouched hashes (copy :: stored) target entry := by
  obtain ⟨source, member, holds⟩ := vouched
  exact ⟨source, List.mem_cons_of_mem _ member, holds⟩

theorem Kept.more {stored : List (Copy Tree)} {cache : Cache} (kept : Kept hashes stored cache)
    (copy : Copy Tree) : Kept hashes (copy :: stored) cache := by
  intro target entry found
  exact (kept target entry found).more copy

theorem Sound.more (sound : Sound hashes world) (copy : Copy Tree) :
    Sound hashes { world with stored := copy :: world.stored } where
  file := by
    intro cache whole
    exact (sound.file cache whole).more copy
  reused := by
    intro given member
    obtain ⟨source, inside, holds⟩ := sound.reused given member
    exact ⟨source, List.mem_cons_of_mem _ inside, holds⟩

theorem Kept.update {stored : List (Copy Tree)} {cache : Cache} (kept : Kept hashes stored cache)
    {target : Target} {entry : Entry} (vouched : Vouched hashes stored target entry) :
    Kept hashes stored (Function.update cache target (some entry)) := by
  intro other found same
  by_cases here : other = target
  · subst here
    rw [Function.update_self] at same
    injection same with same
    rw [← same]
    exact vouched
  · rw [Function.update_of_ne here] at same
    exact kept other found same

theorem kept_empty (stored : List (Copy Tree)) : Kept hashes stored (fun _ => none) := by
  intro target entry found
  cases found

/-! ### Rules -/

theorem goes_value {α β : Type} {call : Script (Option α)} {next : α → Script β}
    {returned : β → World Tree → Prop}
    (holds : Goes hashes call (fun answer after => Sound hashes after ∧
      ∀ result, answer = some result → Goes hashes (next result) returned after) world) :
    Goes hashes ((value call).bind next) returned world := by
  apply wp_seq
  apply wp_seq
  apply wp_returned holds
  intro answer after ⟨sound, works⟩
  cases answer with
  | none => exact sound
  | some result => exact works result rfl

theorem goes_must {β : Type} {call : Script Bool} {next : Unit → Script β}
    {returned : β → World Tree → Prop}
    (holds : Goes hashes call (fun worked after => Sound hashes after ∧
      (worked = true → Goes hashes (next ()) returned after)) world) :
    Goes hashes ((must call).bind next) returned world := by
  apply wp_seq
  apply wp_seq
  apply wp_returned holds
  intro worked after ⟨sound, works⟩
  cases worked with
  | false => exact sound
  | true => exact works rfl

theorem goes_hash (sound : Sound hashes world) (item : Item) {β : Type} {next : Text → Script β}
    {returned : β → World Tree → Prop}
    (behind : Goes hashes (next (hashes.item world.sources item)) returned world) :
    Goes hashes ((value (act (.hash item))).bind next) returned world := by
  apply goes_value
  refine ⟨sound, fun fault => ⟨sound, ?_⟩⟩
  intro result given
  have answer : (if fault.works then some (hashes.item world.sources item) else none) =
      some result := given
  split at answer
  · injection answer with answer
    rw [← answer]
    exact behind
  · cases answer

theorem goes_fingerprint (sound : Sound hashes world) (target : Target) :
    Goes hashes (fingerprint target)
      (fun fp after => after = world ∧ fp = fieldsOf hashes world.sources target) world := by
  cases target with
  | sensorStack =>
      apply goes_hash sound
      apply goes_hash sound
      apply goes_hash sound
      apply goes_hash sound
      exact ⟨rfl, rfl⟩
  | settings =>
      apply goes_hash sound
      apply goes_hash sound
      exact ⟨rfl, rfl⟩

/-- A lookup that returns finds bytes that were stored for the same key. -/
theorem goes_cacheLookup {cache : Cache} {sources : Sources Tree}
    (holding : Holding hashes cache sources world) (target : Target) :
    Goes hashes (cacheLookup hashes cache target (fieldsOf hashes sources target))
      (fun _ => Holding hashes cache sources) world := by
  rw [cacheLookup]
  cases found : cache target with
  | none => exact holding
  | some entry =>
      apply wp_ite
      · intro _
        exact holding
      · intro equal
        have known : entry.fingerprint =
            hashes.fingerprintKey (fieldsOf hashes sources target) := not_not.mp equal
        refine ⟨holding.toSound, fun _ => ?_⟩
        apply wp_ite
        · intro _
          apply goes_value
          refine ⟨holding.toSound, fun fault => ⟨holding.toSound, ?_⟩⟩
          intro digest given
          have read : (if fault.works then (world.artifacts entry.artifact).map hashes.sha256
              else none) = some digest := given
          apply wp_ite
          · intro _
            exact holding.toSound
          · intro same
            have digested : digest = entry.sha256 := not_not.mp same
            refine ⟨holding.toSound, fun _ => ?_⟩
            have backed : Backed (fun first second => first.stream = second.stream) world.stored
                ⟨target, world.sources, (world.artifacts entry.artifact).getD []⟩ := by
              obtain ⟨source, member, named, print, content⟩ := holding.cache target entry found
              refine ⟨source, member, named, ?_, ?_⟩
              · split at read
                · obtain ⟨bytes, there, hashed⟩ := Option.map_eq_some_iff.mp read
                  rw [there]
                  apply hashes.sha256_injective
                  rw [← content, ← digested, ← hashed]
                  rfl
                · cases read
              · rw [holding.sources]
                exact key_agree hashes target source.sources sources (print.symm.trans known)
            constructor
            · constructor
              · exact holding.file
              · intro copy member
                rcases List.mem_cons.mp member with last | member
                · rw [last]
                  exact backed
                · exact holding.reused copy member
            · exact holding.cache
            · exact holding.sources
        · intro _
          exact holding

/-- The cache and the sources stay when only the files beside cache.json change. -/
theorem Holding.beside {cache : Cache} {sources : Sources Tree}
    (holding : Holding hashes cache sources world) (artifacts : Text → Option Bytes)
    (built : Target → Option Bytes) :
    Holding hashes cache sources { world with artifacts, built } where
  file := holding.file
  reused := holding.reused
  cache := holding.cache
  sources := holding.sources

theorem goes_stale {cache : Cache} {sources : Sources Tree}
    (holding : Holding hashes cache sources world) (target : Target) (dest : Text) :
    Goes hashes (stale target dest) (fun _ after => after = world) world := by
  refine ⟨holding.toSound, fun _ => ?_⟩
  apply wp_ite
  · intro _
    apply goes_value
    refine ⟨holding.toSound, fun _ => ⟨holding.toSound, ?_⟩⟩
    intro one _
    apply goes_value
    refine ⟨holding.toSound, fun _ => ⟨holding.toSound, ?_⟩⟩
    intro other _
    rfl
  · intro _
    rfl

theorem record_either (hashes : Hashes Tree) (target : Target) (dest : Text) (fault : Fault)
    (world : World Tree) :
    perform hashes (.record target dest) fault world = (none, world) ∨
      ∃ bytes, perform hashes (.record target dest) fault world =
        (some (hashes.sha256 bytes),
          { world with stored := ⟨target, world.sources, bytes⟩ :: world.stored }) := by
  rw [perform]
  cases fault.works with
  | false => exact Or.inl rfl
  | true =>
      cases world.artifacts dest with
      | none => exact Or.inl rfl
      | some bytes => exact Or.inr ⟨bytes, rfl⟩

/-- What a run stores it may be given later. -/
theorem goes_cacheStore {cache : Cache} {sources : Sources Tree}
    (holding : Holding hashes cache sources world) (target : Target) :
    Goes hashes (cacheStore hashes cache target (fieldsOf hashes sources target))
      (fun cache => Holding hashes cache sources) world := by
  apply wp_seq
  apply wp_returned (goes_stale holding target _)
  intro needed after unchanged
  rw [unchanged]
  apply wp_seq
  have brought : Goes hashes (bring target
      (destination hashes target (fieldsOf hashes sources target)) needed)
      (fun _ => Holding hashes cache sources) world := by
    apply wp_ite
    · intro _
      apply wp_seq
      refine ⟨holding.toSound, fun fault => ?_⟩
      apply wp_ite
      · intro _
        exact holding.beside _ _
      · intro _
        exact (holding.beside _ _).toSound
    · intro _
      exact holding
  apply wp_returned brought
  intro _ after holding
  apply goes_value
  refine ⟨holding.toSound, fun fault => ?_⟩
  rcases record_either hashes target (destination hashes target (fieldsOf hashes sources target))
    fault after with nothing | ⟨bytes, recorded⟩
  · have outcome : (machine hashes).perform (.record target _) fault after = (none, after) := nothing
    rw [outcome]
    constructor
    · exact holding.toSound
    · intro result given
      cases given
  · have outcome : (machine hashes).perform (.record target _) fault after = _ := recorded
    rw [outcome]
    have sound := holding.toSound.more ⟨target, after.sources, bytes⟩
    constructor
    · exact sound
    · intro digest given
      injection given with given
      constructor
      · exact sound
      · apply (holding.cache.more _).update
        refine ⟨⟨target, after.sources, bytes⟩, List.mem_cons_self, rfl, ?_, ?_⟩
        · rw [holding.sources]
        · exact given.symm
      · exact holding.sources

/-! ### Whole runs -/

theorem goes_plan {cache : Cache} {sources : Sources Tree}
    (holding : Holding hashes cache sources world) (target : Target) :
    Goes hashes (plan hashes cache target) (fun planned after =>
      planned.fp = fieldsOf hashes sources target ∧ Holding hashes cache sources after) world := by
  apply wp_seq
  apply wp_returned (goes_fingerprint holding.toSound target)
  intro fp after ⟨unchanged, known⟩
  rw [unchanged, known, holding.sources]
  apply wp_seq
  apply wp_returned (goes_cacheLookup holding target)
  intro hit later kept
  exact ⟨rfl, kept⟩

theorem goes_gather (sound : Sound hashes world) :
    Goes hashes (gather hashes) (fun gathered after =>
      gathered.sensors.fp = fieldsOf hashes world.sources .sensorStack ∧
      gathered.settings.fp = fieldsOf hashes world.sources .settings ∧
      Holding hashes gathered.cache world.sources after) world := by
  apply goes_value
  refine ⟨sound, fun fault => ⟨sound, ?_⟩⟩
  intro cache given
  have read : (if fault.works then world.cacheFile.read else none) = some cache := given
  have kept : Kept hashes world.stored cache := by
    split at read
    · cases file : world.cacheFile with
      | absent =>
          rw [file] at read
          injection read with read
          rw [← read]
          exact kept_empty _
      | torn =>
          rw [file] at read
          cases read
      | whole found =>
          rw [file] at read
          injection read with read
          rw [← read]
          exact sound.file found file
    · cases read
  have holding : Holding hashes cache world.sources world := ⟨sound, kept, rfl⟩
  apply wp_seq
  apply wp_returned (goes_plan holding .sensorStack)
  intro sensors after ⟨first, holding⟩
  apply wp_seq
  apply wp_returned (goes_plan holding .settings)
  intro settings later ⟨second, holding⟩
  exact ⟨first, second, holding⟩

theorem goes_provide {cache : Cache} {sources : Sources Tree}
    (holding : Holding hashes cache sources world) {target : Target} {planned : Planned}
    (known : planned.fp = fieldsOf hashes sources target) :
    Goes hashes (provide hashes cache target planned)
      (fun cache => Holding hashes cache sources) world := by
  rw [provide]
  cases planned.hit with
  | some hit => exact holding
  | none =>
      apply goes_must
      refine ⟨holding.toSound, fun fault => ⟨(holding.beside _ _).toSound, fun _ => ?_⟩⟩
      have cleared := holding.beside world.artifacts (Function.update world.built target none)
      apply goes_must
      refine ⟨cleared.toSound, fun fault => ⟨(cleared.beside _ _).toSound, fun _ => ?_⟩⟩
      rw [known]
      exact goes_cacheStore (cleared.beside _ _) target

theorem saved_kept (holding : Sound hashes world) {cache : Cache}
    (kept : Kept hashes world.stored cache) (fault : Fault) :
    Sound hashes { world with cacheFile := saved fault cache world.cacheFile } where
  file := by
    intro found whole
    have shape : saved fault cache world.cacheFile = .whole found := whole
    rw [saved] at shape
    split at shape
    · injection shape with shape
      rw [← shape]
      exact kept
    · split at shape
      · cases shape
      · exact holding.file found shape
  reused := holding.reused

theorem goes_main (sound : Sound hashes world) (action : Action) :
    Goes hashes (main hashes action) (fun _ => Sound hashes) world := by
  cases action with
  | check =>
      apply wp_seq
      apply wp_returned (goes_gather sound)
      intro gathered after ⟨_, _, holding⟩
      exact holding.toSound
  | run =>
      apply wp_seq
      apply wp_returned (goes_gather sound)
      intro gathered after ⟨first, second, holding⟩
      apply wp_seq
      apply wp_returned (goes_provide holding first)
      intro cache after holding
      apply wp_seq
      apply wp_returned (goes_provide holding second)
      intro cache after holding
      apply goes_must
      refine ⟨holding.toSound, fun fault => ?_⟩
      have kept := saved_kept holding.toSound holding.cache fault
      constructor
      · exact kept
      · intro _
        apply wp_seq
        refine ⟨kept, fun fault => ?_⟩
        apply wp_ite
        · intro _
          exact kept
        · intro _
          exact kept

theorem sound_start (sources : Sources Tree) : Sound hashes (World.start sources) where
  file := by
    intro cache whole
    cases whole
  reused := by
    intro copy member
    cases member

theorem sound_day {later : World Tree} (day : Day hashes world later)
    (sound : Sound hashes world) : Sound hashes later := by
  cases day with
  | run action reaches =>
      rename_i left
      have safe := wp_sound (goes_main sound action) reaches
      cases left with
      | done value => exact safe
      | exit status => exact safe
      | act operation next => exact safe
  | change sources artifacts built => exact ⟨sound.file, sound.reused⟩

theorem sound_days {later : World Tree} (days : Days hashes world later)
    (sound : Sound hashes world) : Sound hashes later := by
  induction days with
  | refl => exact sound
  | tail _ day ih => exact sound_day day ih

end Runs

/-! ### The claim and its condition -/

theorem dirContent_iff (hashes : Hashes Tree) (one other : Rom) :
    hashes.dirContent one = hashes.dirContent other ↔ one.stream = other.stream := by
  constructor
  · intro same
    exact hashes.sha256_injective same
  · intro same
    rw [Hashes.dirContent, Hashes.dirContent, same]

theorem Sound.faithful {hashes : Hashes Tree} {world : World Tree} (sound : Sound hashes world)
    (distinct : Distinct world) : Faithful world := by
  intro copy member
  obtain ⟨source, inside, named, content, agree⟩ := sound.reused copy member
  refine ⟨source, inside, named, content, ?_⟩
  cases target : copy.target with
  | sensorStack =>
      rw [target] at agree
      exact ⟨agree.1, agree.2.1, agree.2.2.1, distinct copy member source inside agree.2.2.2⟩
  | settings =>
      rw [target] at agree
      exact agree

/-- Two directories are told apart exactly where what they give to the hash is,
and runs that find only such directories reuse nothing stale. -/
theorem reused_faithful (hashes : Hashes Tree) :
    (∀ one other : Rom, (one ≠ other → hashes.dirContent one ≠ hashes.dirContent other) ↔
      (one.stream = other.stream → one = other)) ∧
    ∀ sources later, Days hashes (World.start sources) later → Distinct later →
      Faithful later := by
  constructor
  · intro one other
    rw [Ne, Ne, dirContent_iff, not_imp_not]
  · intro sources later days distinct
    exact (sound_days days (sound_start sources)).faithful distinct

/-! ### Two sequences -/

def digit (value : Nat) : Char :=
  ['0', '1', '2', '3', '4', '5', '6', '7', '8', '9', 'a', 'b', 'c', 'd', 'e', 'f'].getD value '0'

def pair (byte : UInt8) : Text := [digit (byte.toNat / 16), digit (byte.toNat % 16)]

theorem digit_hex (value : Nat) : Hex (digit value) := by
  rw [digit, List.getD_eq_getElem?_getD]
  rcases Nat.lt_or_ge value 16 with small | large
  · interval_cases value <;> decide
  · rw [List.getElem?_eq_none (by exact large)]
    decide

theorem digit_injective {one other : Nat} (small : one < 16) (less : other < 16)
    (same : digit one = digit other) : one = other := by
  have all : ∀ one other : Fin 16, digit one.val = digit other.val → one = other := by decide
  exact congrArg Fin.val (all ⟨one, small⟩ ⟨other, less⟩ same)

theorem pair_injective {one other : UInt8} (same : pair one = pair other) : one = other := by
  have bound := one.toNat_lt
  have limit := other.toNat_lt
  injection same with high same
  injection same with low _
  have first := digit_injective (by omega) (by omega) high
  have second := digit_injective (by omega) (by omega) low
  apply UInt8.toNat_inj.mp
  omega

theorem pairs_injective : Function.Injective (List.flatMap pair) := by
  intro one
  induction one with
  | nil =>
      intro other same
      cases other with
      | nil => rfl
      | cons byte rest => cases same
  | cons byte rest ih =>
      intro other same
      cases other with
      | nil => cases same
      | cons first others =>
          rw [List.flatMap_cons, List.flatMap_cons] at same
          have parts := List.append_inj same rfl
          rw [pair_injective parts.1, ih parts.2]

/-- Digests that spell the bytes out. -/
def plainHashes : Hashes Unit where
  sha256 := List.flatMap pair
  tree := fun _ => []
  sha256_hex := by
    intro data char member
    obtain ⟨byte, _, inside⟩ := List.mem_flatMap.mp member
    rcases List.mem_cons.mp inside with high | inside
    · rw [high]
      exact digit_hex _
    · rw [List.mem_singleton.mp inside]
      exact digit_hex _
  tree_hex := by
    intro value char member
    cases member
  sha256_injective := pairs_injective
  tree_injective := fun _ _ _ => rfl

/-- A directory with the file `a`, which holds `bc`. -/
def shortName : Rom := ⟨[([['a']], .file [98, 99])], List.pairwise_singleton _ _⟩

/-- A directory with the file `ab`, which holds `c`. -/
def longName : Rom := ⟨[([['a', 'b']], .file [99])], List.pairwise_singleton _ _⟩

def sourcesWith (rom : Rom) : Sources Unit := ⟨(), (), (), [], [], rom⟩

/-- Every call works, and every builder makes one byte. -/
def steady (_ : Nat) : (operation : Op) → World Unit → Fault :=
  fun _ _ => ⟨true, some [7], false, false⟩

def worked (world : World Unit) : World Unit :=
  (play (machine plainHashes) steady 60 (main plainHashes .run, world)).2

theorem worked_day (world : World Unit) : Day plainHashes world (worked world) :=
  Day.run .run (play_reaches (machine plainHashes) steady 60 _)

/-- A run, then another one with this directory in its place. -/
@[irreducible] def twice (rom : Rom) : World Unit :=
  let first := worked (World.start (sourcesWith shortName))
  worked ⟨sourcesWith rom, first.cacheFile, first.artifacts, first.built, first.stored,
    first.reused⟩

theorem twice_days (rom : Rom) :
    Days plainHashes (World.start (sourcesWith shortName)) (twice rom) := by
  unfold twice
  apply Relation.ReflTransGen.tail _ (worked_day _)
  apply Relation.ReflTransGen.tail _ (Day.change (sourcesWith rom) _ _)
  exact Relation.ReflTransGen.single (worked_day _)

theorem same_reused : Faithful (twice shortName) ∧ (twice shortName).reused.length = 2 := by
  constructor
  · apply (reused_faithful plainHashes).2 _ _ (twice_days shortName)
    decide +kernel
  · decide +kernel

/-- The tool takes the sensor stack of one ROM directory for that of another. -/
theorem other_reused : shortName ≠ longName ∧
    plainHashes.dirContent shortName = plainHashes.dirContent longName ∧
    Days plainHashes (World.start (sourcesWith shortName)) (twice longName) ∧
    ¬Faithful (twice longName) := by
  refine ⟨by decide, by decide, twice_days longName, ?_⟩
  decide +kernel

end Liuqin.Inputs
