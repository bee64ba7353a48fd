/-
The root admission contract: the generator, the reader of stage 1 and the check
of the installer (tools/lib/build-root-contract.py, initramfs/init,
tools/lib/install-root.sh).
-/

import Mathlib.Data.Char
import Mathlib.Data.List.Lex
import Mathlib.Data.List.Sort
import Liuqin.Library.Bytes
import Liuqin.Admission.Pins

namespace Liuqin.Admission

open Library.Lines Library.Checked Library.Bytes

/-! ### The generator -/

def gap : Text := "  ".toList

/-- The digests of a manifest; a later line replaces an earlier one. -/
def layerHashes (manifest : Text) : List (Text × Text) :=
  (splitlines manifest).foldl (fun hashes line =>
    let (digest, rel) := partition gap line
    if rel ≠ [] then (rel, digest) :: hashes else hashes) []

def number (value : Nat) : Text := (toString value).toList

def outsideBounds (profile : Profile) (lines : List Text) (data : Text) : Text :=
  profile.name ++ " contract is outside stage-1 bounds: ".toList ++ number lines.length ++
    " lines, ".toList ++ number data.length ++ " bytes".toList

/-- `sorted`: by code points. -/
def sorted (paths : List Text) : List Text := paths.insertionSort (fun one other => one ≤ other)

def contractLine (hashes : List (Text × Text)) (rel : Text) : Text :=
  (hashes.lookup rel).getD [] ++ gap ++ rel

/-- What the generator writes.  `named` tells that the manifest was named on the command line; none
is a manifest that is no file. -/
def buildContract (profile : Profile) (named : Bool) (manifestPath : Text)
    (manifest : Option Text) : Except Text Text := do
  let pinned := profile.pins
  checkPinList pinned
  refuseIf (profile = .native ∧ named = false)
    ("the native profile requires --device-layer-manifest pointing at " ++
      "the assembled root's native-root.hashes").toList
  refuseIf (manifest = none)
    ("hash manifest is unavailable: ".toList ++ manifestPath ++
      "; run the device-layer or native-root builder first".toList)
  let hashes := layerHashes (manifest.getD [])
  pinned.forM (fun rel => refuseIf (hashes.lookup rel = none)
    ("the input manifest does not carry ".toList ++ rel))
  let lines := profile.header :: (sorted pinned).map (contractLine hashes)
  let data := List.intercalate ['\n'] lines ++ ['\n']
  refuseIf (lines.length ≠ pinned.length + 1)
    "the contract does not have one line per pinned path".toList
  refuseIf (¬ (10 ≤ lines.length ∧ lines.length ≤ 128) ∨
      ¬ (256 ≤ data.length ∧ data.length ≤ 16384)) (outsideBounds profile lines data)
  -- write_text with the encoding ascii
  refuseIf (¬ Ascii data) "ordinal not in range(128)".toList
  pure data

/-! ### Checks in order -/

/-- Every item is checked until one is refused. -/
def untilRefused {α ε : Type} (check : α → Option ε) : List α → List α × Option ε
  | [] => ([], none)
  | item :: rest =>
      match check item with
      | some reason => ([item], some reason)
      | none => (item :: (untilRefused check rest).1, (untilRefused check rest).2)

theorem untilRefused_accepted {α ε : Type} {check : α → Option ε} {items : List α}
    (accepted : ∀ item ∈ items, check item = none) : untilRefused check items = (items, none) := by
  induction items with
  | nil => rfl
  | cons item rest ih =>
      have later := ih (fun other member => accepted other (List.mem_cons_of_mem _ member))
      rw [untilRefused, accepted item List.mem_cons_self, later]

/-! ### The reader of stage 1 -/

/-- The files of a root as the reader sees them. -/
structure Files where
  /-- A regular file, no symbolic link. -/
  regular : Text → Bool
  ownedByRoot : Text → Bool
  sha256sum : Text → Text

inductive Rejection where
  | size
  | header
  | separator
  | digest
  | relative
  | climbing
  | lines
  | notRegular (path : Text)
  | notOwned (path : Text)
  | differs (path : Text)
  deriving DecidableEq, Repr

/-- What the reader logs; the others it returns without a word. -/
def Rejection.log : Rejection → Option Text
  | .notRegular path => some ("not a regular file: ".toList ++ path)
  | .notOwned path => some ("not owned by root: ".toList ++ path)
  | .differs path => some ("hash differs from the contract: ".toList ++ path)
  | _ => none

def hexDigit (char : Char) : Bool := ('0' ≤ char && char ≤ '9') || ('a' ≤ char && char ≤ 'f')

/-- `grep -Eq '^[0-9a-f]{64}$'` -/
def Sha256 (digest : Text) : Prop := digest.length = 64 ∧ digest.all hexDigit = true

instance (digest : Text) : Decidable (Sha256 digest) := instDecidableAnd

def parseLine (line : Text) : Except Rejection (Text × Text) :=
  let hash := ((breakAt gap line).map Prod.fst).getD line
  let path := ((breakAt gap line).map Prod.snd).getD line
  if hash ++ gap ++ path ≠ line then .error .separator
  else if ¬ Sha256 hash then .error .digest
  else if startsWith "/".toList path = false then .error .relative
  else if climbs path = true then .error .climbing
  else .ok (path, hash)

def checkFile (files : Files) (root : Text) (pin : Text × Text) : Option Rejection :=
  if files.regular (root ++ pin.1) = false then some (.notRegular pin.1)
  else if files.ownedByRoot (root ++ pin.1) = false then some (.notOwned pin.1)
  else if files.sha256sum (root ++ pin.1) ≠ pin.2 then some (.differs pin.1)
  else none

/-- The loop over the lines, with the file checks that it reaches. -/
def readLoop (header : Text) (files : Files) (root : Text) :
    Nat → List Text → List (Text × Text) × Option Rejection
  | count, [] => ([], if count ≥ 10 ∧ count ≤ 128 then none else some .lines)
  | count, line :: rest =>
      if count + 1 = 1 then
        if line ≠ header then ([], some .header) else readLoop header files root (count + 1) rest
      else
        match parseLine line with
        | .error reason => ([], some reason)
        | .ok pin =>
            match checkFile files root pin with
            | some reason => ([pin], some reason)
            | none =>
                (pin :: (readLoop header files root (count + 1) rest).1,
                  (readLoop header files root (count + 1) rest).2)

def readContract (header : Text) (files : Files) (root contract : Text) :
    List (Text × Text) × Option Rejection :=
  if (encode contract).length ≥ 256 ∧ (encode contract).length ≤ 16384 then
    readLoop header files root 0 ((endedLines contract).map keptByRead)
  else ([], some .size)

def storageGnomeRootOk : Files → Text → Text → List (Text × Text) × Option Rejection :=
  readContract gnomeHeader

def storageNativeRootOk : Files → Text → Text → List (Text × Text) × Option Rejection :=
  readContract nativeHeader

/-- The reader that each profile's image carries. -/
def Profile.rootOk : Profile → Files → Text → Text → List (Text × Text) × Option Rejection
  | .gnome => storageGnomeRootOk
  | .native => storageNativeRootOk

/-! ### The installer -/

def installedRoot : Text := "/mnt/install/native-root".toList

def rootMismatch (sha256sum : Text → Text) (pin : Text × Text) : Option Text :=
  if sha256sum (installedRoot ++ pin.1) ≠ pin.2 then
    some ("root contract mismatch: ".toList ++ pin.1)
  else none

/-- `while read -r expected path` -/
def verifyLoop (sha256sum : Text → Text) : List Text → List (Text × Text) × Option Text
  | [] => ([], none)
  | line :: rest =>
      let (expected, path) := readFields line
      if expected = [] then verifyLoop sha256sum rest
      else
        match rootMismatch sha256sum (path, expected) with
        | some reason => ([(path, expected)], some reason)
        | none =>
            ((path, expected) :: (verifyLoop sha256sum rest).1, (verifyLoop sha256sum rest).2)

def verifyRoot (sha256sum : Text → Text) (contract : Text) : List (Text × Text) × Option Text :=
  verifyLoop sha256sum (endedLines (withoutFirst contract))

/-! ### What they owe each other -/

/-- The pins with the manifest's digests. -/
def pinnedDigests (profile : Profile) (manifest : Text) : List (Text × Text) :=
  (sorted profile.pins).map (fun rel => (rel, ((layerHashes manifest).lookup rel).getD []))

/-- Whatever the files are, stage 1 and the installer check the pins, in order, and refuse nothing
else. -/
structure Parses (profile : Profile) (manifest contract : Text) : Prop where
  stage1 : ∀ files root, profile.rootOk files root contract =
    untilRefused (checkFile files root) (pinnedDigests profile manifest)
  installer : ∀ sha256sum, verifyRoot sha256sum contract =
    untilRefused (rootMismatch sha256sum) (pinnedDigests profile manifest)

end Liuqin.Admission
