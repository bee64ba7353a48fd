/-
The boot image the installer flashes (tools/install-liuqin.py).

pad_boot_image copies the project image chunk by chunk while two running
digests are fed, and appends zeros up to the partition size.  A running digest
is the bytes it was fed: feeding it in pieces is feeding it their
concatenation.
-/

import Liuqin.Switch.Image

namespace Liuqin.Install

open Liuqin.Switch

/-- A hashlib object: what `update` was called with so far. -/
structure Digest where
  fed : Bytes
  deriving DecidableEq, Repr

def Digest.new : Digest := { fed := [] }

def Digest.update (digest : Digest) (data : Bytes) : Digest :=
  { fed := digest.fed ++ data }

def Digest.hexdigest (sha256 : Sha256) (digest : Digest) : Line :=
  sha256.digest digest.fed

def chunkBytes : Nat := 1048576

/-- Feed `length` zero bytes into `digest`. -/
def updateZeros (digest : Digest) (length : Nat) : Digest :=
  if length > 0 then
    let block := min length chunkBytes
    updateZeros (digest.update (List.replicate block 0)) (length - block)
  else digest
  termination_by length
  decreasing_by
    simp only [chunkBytes]
    omega

/-- The state of the copy loop: two running digests and the file written. -/
structure Copy where
  image : Digest
  padded : Digest
  out : Bytes
  deriving DecidableEq, Repr

def copyLoop (source : Bytes) (copy : Copy) : Copy :=
  if source ≠ [] then
    let chunk := source.take chunkBytes
    copyLoop (source.drop chunkBytes)
      { image := copy.image.update chunk
        padded := copy.padded.update chunk
        out := copy.out ++ chunk }
  else copy
  termination_by source.length
  decreasing_by
    have := List.length_pos_iff.mpr ‹source ≠ []›
    simp only [List.length_drop, chunkBytes]
    omega

/-- `out.truncate(size)`: shorter files grow by zeros. -/
def truncate (out : Bytes) (size : Nat) : Bytes :=
  out.take size ++ List.replicate (size - out.length) 0

/-- The padded file and its sha256, or the error that stops the installation. -/
def padBootImage (sha256 : Sha256) (source : Bytes) (expectedSha256 : Line) (size : Nat) :
    Except String (Bytes × Line) :=
  let copy := copyLoop source { image := Digest.new, padded := Digest.new, out := [] }
  let length := copy.out.length
  if length > size then
    .error ("the image is " ++ toString length ++ " bytes, larger than the " ++ toString size ++
      "-byte partition")
  else
    let target := truncate copy.out size
    if copy.image.hexdigest sha256 ≠ expectedSha256 then
      .error "the image changed while it was being padded; nothing was written"
    else if target.length ≠ size then
      .error ("the padded image is not " ++ toString size ++ " bytes")
    else .ok (target, (updateZeros copy.padded (size - length)).hexdigest sha256)

theorem updateZeros_fed (digest : Digest) (length : Nat) :
    (updateZeros digest length).fed = digest.fed ++ List.replicate length 0 := by
  fun_induction updateZeros digest length with
  | case1 digest length positive block ih =>
      have split : length = block + (length - block) := by omega
      rw [ih, Digest.update, List.append_assoc, List.replicate_append_replicate, ← split]
  | case2 digest length empty =>
      have zero : length = 0 := by omega
      rw [zero, List.replicate_zero, List.append_nil]

/-- The loop copies the whole source and feeds both digests the same bytes. -/
theorem copyLoop_eq (source : Bytes) (copy : Copy) :
    copyLoop source copy =
      { image := copy.image.update source
        padded := copy.padded.update source
        out := copy.out ++ source } := by
  fun_induction copyLoop source copy with
  | case1 source copy more chunk ih =>
      have whole : chunk ++ source.drop chunkBytes = source := List.take_append_drop _ _
      rw [ih]
      simp only [Digest.update, List.append_assoc, whole]
  | case2 source copy finished =>
      have empty : source = [] := not_not.mp finished
      simp only [empty, Digest.update, List.append_nil]

theorem truncate_eq_padded {size : Nat} {image : Bytes} (fits : image.length ≤ size) :
    truncate image size = padded size image := by
  rw [truncate, padded, zeros_eq, List.take_of_length_le fits]

/-- A returned file is the zero-filled image, and its digest is its own. -/
theorem padBootImage_eq_ok (sha256 : Sha256) (source : Bytes) (expectedSha256 : Line) (size : Nat)
    (file : Bytes) (digest : Line) :
    padBootImage sha256 source expectedSha256 size = .ok (file, digest) ↔
      source.length ≤ size ∧ sha256.digest source = expectedSha256 ∧
        file = padded size source ∧ digest = sha256.digest (padded size source) := by
  have copied := copyLoop_eq source { image := Digest.new, padded := Digest.new, out := [] }
  simp only [Digest.update, Digest.new, List.nil_append] at copied
  simp only [padBootImage, Digest.new, copied, Digest.hexdigest, updateZeros_fed]
  by_cases fits : source.length ≤ size
  · have target : source ++ List.replicate (size - source.length) 0 = padded size source := by
      rw [padded, zeros_eq]
    simp only [if_neg (not_lt.mpr fits), truncate_eq_padded fits, target, padded_length fits, fits,
      true_and]
    by_cases same : sha256.digest source = expectedSha256
    · simp [same, eq_comm]
    · simp [same]
  · simp only [if_pos (not_le.mp fits), fits, false_and, iff_false]
    simp

end Liuqin.Install
