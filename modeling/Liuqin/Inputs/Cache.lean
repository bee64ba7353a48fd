/-
The cache of prepared image inputs (tools/prepare-image-inputs.py).

The two slow artifacts are kept under the fingerprint of their sources.  The
hash functions are parameters without collisions.  Any call of a run may fail
and a run may stop anywhere; between the runs the sources change as they like,
and so do the files beside cache.json.
-/

import Liuqin.Library.Bytes
import Liuqin.Library.Lines
import Liuqin.Library.Program

namespace Liuqin.Inputs

open Liuqin.Library Liuqin.Library.Program Liuqin.Library.Lines
open Library.Bytes (encode)

/-! ### Directories -/

inductive Node where
  | file (content : Bytes)
  | directory
  | link (target : Text)
  deriving DecidableEq, Repr

/-- A directory tree: its relative paths, as the lists of their names, in order. -/
structure Rom where
  entries : List (List Text × Node)
  sorted : entries.Pairwise (fun one other => one.1 < other.1)
  deriving DecidableEq

/-- `str(f.relative_to(path))` -/
def pathText (parts : List Text) : Text := List.intercalate ['/'] parts

/-- What one regular file gives to the hash; the others are passed by. -/
def fed : List Text × Node → Bytes
  | (parts, .file content) => encode (pathText parts) ++ content
  | _ => []

/-- What dir_content_hash hashes. -/
def Rom.stream (rom : Rom) : Bytes := rom.entries.flatMap fed

/-! ### Hashes -/

def Hex (char : Char) : Prop :=
  char ∈ ['0', '1', '2', '3', '4', '5', '6', '7', '8', '9', 'a', 'b', 'c', 'd', 'e', 'f']

instance (char : Char) : Decidable (Hex char) := inferInstanceAs (Decidable (char ∈ _))

/-- The digests of bytes and of git trees, in hexadecimal, taken to be free of collisions. -/
structure Hashes (Tree : Type) where
  sha256 : Bytes → Text
  tree : Tree → Text
  sha256_hex : ∀ data, ∀ char ∈ sha256 data, Hex char
  tree_hex : ∀ value, ∀ char ∈ tree value, Hex char
  sha256_injective : Function.Injective sha256
  tree_injective : Function.Injective tree

variable {Tree : Type}

/-- dir_content_hash -/
def Hashes.dirContent (hashes : Hashes Tree) (rom : Rom) : Text := hashes.sha256 rom.stream

/-! ### Fingerprints -/

/-- The commit's trees, the builders and the ROM directory. -/
structure Sources (Tree : Type) where
  sensors : Tree
  overlay : Tree
  settings : Tree
  sensorsBuilder : Bytes
  settingsBuilder : Bytes
  rom : Rom

inductive Target where
  | sensorStack
  | settings
  deriving DecidableEq, Repr

def Target.name : Target → Text
  | .sensorStack => "sensor-stack".toList
  | .settings => "gnome-control-center".toList

/-- The suffix of the file a builder makes. -/
def Target.suffix : Target → Text
  | .sensorStack => ".tar".toList
  | .settings => []

abbrev Fingerprint := List (Text × Text)

/-- A JSON string; the keys and the digits here need no escape. -/
def quote (value : Text) : Text := '"' :: (value ++ ['"'])

def member (field : Text × Text) : Text := quote field.1 ++ ([':', ' '] ++ quote field.2)

def members : Fingerprint → Text
  | [] => ['}']
  | [field] => member field ++ ['}']
  | field :: rest => member field ++ ([',', ' '] ++ members rest)

/-- `json.dumps` of a fingerprint whose keys are in order. -/
def jsonDumps (fingerprint : Fingerprint) : Text := '{' :: members fingerprint

def Hashes.fingerprintKey (hashes : Hashes Tree) (fingerprint : Fingerprint) : Text :=
  hashes.sha256 (encode (jsonDumps fingerprint))

inductive Item where
  | sensors
  | overlay
  | settings
  | sensorsBuilder
  | settingsBuilder
  | rom
  deriving DecidableEq, Repr

def Hashes.item (hashes : Hashes Tree) (sources : Sources Tree) : Item → Text
  | .sensors => hashes.tree sources.sensors
  | .overlay => hashes.tree sources.overlay
  | .settings => hashes.tree sources.settings
  | .sensorsBuilder => hashes.sha256 sources.sensorsBuilder
  | .settingsBuilder => hashes.sha256 sources.settingsBuilder
  | .rom => hashes.dirContent sources.rom

/-! ### The world -/

structure Entry where
  fingerprint : Text
  artifact : Text
  sha256 : Text
  deriving DecidableEq, Repr

abbrev Cache := Target → Option Entry

/-- cache.json; a write that was cut off leaves what no reader takes for JSON. -/
inductive CacheFile where
  | absent
  | torn
  | whole (cache : Cache)

/-- An artifact that a run stored or was given, with the sources of that run. -/
structure Copy (Tree : Type) where
  target : Target
  sources : Sources Tree
  bytes : Bytes

/-- The sources, cache.json, the other files beside it, what the builders made,
and what the runs up to now stored and reused. -/
structure World (Tree : Type) where
  sources : Sources Tree
  cacheFile : CacheFile
  artifacts : Text → Option Bytes
  built : Target → Option Bytes
  stored : List (Copy Tree)
  reused : List (Copy Tree)

def World.start (sources : Sources Tree) : World Tree where
  sources
  cacheFile := .absent
  artifacts := fun _ => none
  built := fun _ => none
  stored := []
  reused := []

inductive Op where
  | loadCache
  | hash (item : Item)
  | isFile (artifact : Text)
  | sha256Artifact (artifact : Text)
  /-- The lookup returns this artifact. -/
  | reuse (target : Target) (artifact : Text)
  | removeWork (target : Target)
  | build (target : Target)
  | sha256Built (target : Target)
  | copy (target : Target) (artifact : Text)
  /-- The digest of the stored artifact, which the entry keeps. -/
  | record (target : Target) (artifact : Text)
  | saveCache (cache : Cache)
  /-- Everything behind the cache. -/
  | prepare

@[reducible] def Answer : Op → Type
  | .loadCache => Option Cache
  | .hash _ | .sha256Artifact _ | .sha256Built _ | .record _ _ => Option Text
  | .reuse _ _ => Unit
  | _ => Bool

/-- Whether a call works, the bytes that a builder or a failed copy leaves, and
whether a failed save got as far as the old file's end or as the new one's. -/
structure Fault where
  works : Bool
  bytes : Option Bytes
  begun : Bool
  ended : Bool

def CacheFile.read : CacheFile → Option Cache
  | .absent => some (fun _ => none)
  | .torn => none
  | .whole cache => some cache

def saved (fault : Fault) (cache : Cache) (old : CacheFile) : CacheFile :=
  if fault.works || fault.ended then .whole cache else if fault.begun then .torn else old

def perform (hashes : Hashes Tree) : (operation : Op) → Fault → World Tree →
    Answer operation × World Tree
  | .loadCache, fault, world => (if fault.works then world.cacheFile.read else none, world)
  | .hash item, fault, world =>
      (if fault.works then some (hashes.item world.sources item) else none, world)
  | .isFile artifact, _, world => ((world.artifacts artifact).isSome, world)
  | .sha256Artifact artifact, fault, world =>
      (if fault.works then (world.artifacts artifact).map hashes.sha256 else none, world)
  | .reuse target artifact, _, world =>
      let copy : Copy Tree := ⟨target, world.sources, (world.artifacts artifact).getD []⟩
      ((), { world with reused := copy :: world.reused })
  | .removeWork target, fault, world =>
      (fault.works, { world with built := Function.update world.built target none })
  | .build target, fault, world =>
      (fault.works, { world with built := Function.update world.built target fault.bytes })
  | .sha256Built target, fault, world =>
      (if fault.works then (world.built target).map hashes.sha256 else none, world)
  | .copy target artifact, fault, world =>
      let worked := fault.works && (world.built target).isSome
      let left := if worked then world.built target else fault.bytes
      (worked, { world with artifacts := Function.update world.artifacts artifact left })
  | .record target artifact, fault, world =>
      match fault.works, world.artifacts artifact with
      | true, some bytes =>
          (some (hashes.sha256 bytes),
            { world with stored := ⟨target, world.sources, bytes⟩ :: world.stored })
      | _, _ => (none, world)
  | .saveCache cache, fault, world =>
      (fault.works, { world with cacheFile := saved fault cache world.cacheFile })
  | .prepare, fault, world => (fault.works, world)

def machine (hashes : Hashes Tree) : Machine Answer (World Tree) where
  Fault _ := Fault
  perform := perform hashes

abbrev Script := Prog Answer

def act (operation : Op) : Script (Answer operation) := .act operation .done

/-- An exception or SystemExit. -/
def raise {α : Type} : Script α := .exit 1

def must (call : Script Bool) : Script Unit := do
  let worked ← call
  if worked then pure () else raise

def value {α : Type} (call : Script (Option α)) : Script α := do
  let answer ← call
  match answer with
  | some value => pure value
  | none => raise

/-! ### prepare-image-inputs.py -/

def sensorsFingerprint : Script Fingerprint := do
  let sensors ← value (act (.hash .sensors))
  let overlay ← value (act (.hash .overlay))
  let builder ← value (act (.hash .sensorsBuilder))
  let rom ← value (act (.hash .rom))
  pure [("builder".toList, builder), ("device/sensors".toList, sensors),
    ("device/sensors-overlay".toList, overlay), ("rom_sensors".toList, rom)]

def settingsFingerprint : Script Fingerprint := do
  let settings ← value (act (.hash .settings))
  let builder ← value (act (.hash .settingsBuilder))
  pure [("builder".toList, builder), ("device/gnome-control-center".toList, settings)]

def fingerprint : Target → Script Fingerprint
  | .sensorStack => sensorsFingerprint
  | .settings => settingsFingerprint

section Hashed

variable (hashes : Hashes Tree)

/-- The digest of the artifact decides. -/
def verified (target : Target) (entry : Entry) : Script (Option Text) := do
  let digest ← value (act (.sha256Artifact entry.artifact))
  if digest ≠ entry.sha256 then raise
  else
    act (.reuse target entry.artifact)
    pure (some entry.artifact)

def cacheLookup (cache : Cache) (target : Target) (fp : Fingerprint) : Script (Option Text) :=
  match cache target with
  | none => pure none
  | some entry =>
      if entry.fingerprint ≠ hashes.fingerprintKey fp then pure none
      else do
        let there ← act (.isFile entry.artifact)
        if there then verified target entry else pure none

/-- `sha256_file(dest) != sha256_file(artifact)` -/
def differs (target : Target) (dest : Text) : Script Bool := do
  let one ← value (act (.sha256Artifact dest))
  let other ← value (act (.sha256Built target))
  pure (decide (one ≠ other))

def stale (target : Target) (dest : Text) : Script Bool := do
  let there ← act (.isFile dest)
  if there then differs target dest else pure true

def destination (target : Target) (fp : Fingerprint) : Text :=
  target.name ++ ('-' :: ((hashes.fingerprintKey fp).take 16 ++ target.suffix))

def bring (target : Target) (dest : Text) (needed : Bool) : Script Unit :=
  if needed then must (act (.copy target dest)) else pure ()

def cacheStore (cache : Cache) (target : Target) (fp : Fingerprint) : Script Cache := do
  let dest := destination hashes target fp
  let needed ← stale target dest
  bring target dest needed
  let digest ← value (act (.record target dest))
  pure (Function.update cache target (some ⟨hashes.fingerprintKey fp, dest, digest⟩))

structure Planned where
  fp : Fingerprint
  hit : Option Text

def plan (cache : Cache) (target : Target) : Script Planned := do
  let fp ← fingerprint target
  let hit ← cacheLookup hashes cache target fp
  pure ⟨fp, hit⟩

structure Gathered where
  cache : Cache
  sensors : Planned
  settings : Planned

def gather : Script Gathered := do
  let cache ← value (act .loadCache)
  let sensors ← plan hashes cache .sensorStack
  let settings ← plan hashes cache .settings
  pure ⟨cache, sensors, settings⟩

/-- An artifact without a hit is built and stored. -/
def provide (cache : Cache) (target : Target) (planned : Planned) : Script Cache :=
  match planned.hit with
  | some _ => pure cache
  | none => do
      must (act (.removeWork target))
      must (act (.build target))
      cacheStore hashes cache target planned.fp

def check : Script Unit := do
  let _ ← gather hashes
  pure ()

def run : Script Unit := do
  let gathered ← gather hashes
  let cache ← provide hashes gathered.cache .sensorStack gathered.sensors
  let cache ← provide hashes cache .settings gathered.settings
  must (act (.saveCache cache))
  must (act .prepare)

inductive Action where
  | check
  | run
  deriving DecidableEq, Repr

def main : Action → Script Unit
  | .check => check hashes
  | .run => run hashes

/-! ### Sequences of runs -/

/-- A run up to anywhere in it, or a change of everything but cache.json. -/
inductive Day : World Tree → World Tree → Prop where
  | run (action : Action) {world later : World Tree} {left : Script Unit}
      (reaches : Reaches (machine hashes) (main hashes action, world) (left, later)) :
      Day world later
  | change (sources : Sources Tree) (artifacts : Text → Option Bytes)
      (built : Target → Option Bytes) {world : World Tree} :
      Day world { world with sources, artifacts, built }

def Days : World Tree → World Tree → Prop := Relation.ReflTransGen (Day hashes)

end Hashed

end Liuqin.Inputs
