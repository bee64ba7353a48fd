/-
The boot image of `patch-android-boot-ksu.py`: taken apart, and put together
again around another ramdisk.  The kind is the header rule of
`install-liuqin.py`.
-/

import Liuqin.Boot.Cpio
import Liuqin.Library.Words

namespace Liuqin.Boot

open Library Library.Bytes

def pageSize : Nat := 4096

/-- The bytes of `ANDROID!`. -/
def bootMagic : Bytes := [0x41, 0x4E, 0x44, 0x52, 0x4F, 0x49, 0x44, 0x21]

/-- The bytes of `AVBf`. -/
def avbFooterMagic : Bytes := [0x41, 0x56, 0x42, 0x66]

def avbFooterSize : Nat := 64

/-- The bytes of `AVB0`. -/
def avbMagic : Bytes := [0x41, 0x56, 0x42, 0x30]

/-! ### Numbers in the image -/

/-- `struct.unpack_from('<I', data, offset)[0]` -/
def unpack (data : Bytes) (offset : Nat) : Except Failure Nat :=
  if offset + 4 ≤ data.length then .ok (fromLittle (part data offset (offset + 4)))
  else .error .struct

/-- `struct.pack_into('<I...', out, offset, ...)` -/
def packInto (out : Bytes) (offset : Nat) (values : List Nat) : Except Failure Bytes :=
  if (∀ value ∈ values, value < 2 ^ 32) ∧ offset + 4 * values.length ≤ out.length then
    .ok (overwrite out offset (values.flatMap (little 4)))
  else .error .struct

/-- `struct.pack_into('>QQ', out, offset, ...)` -/
def packBigInto (out : Bytes) (offset : Nat) (values : List Nat) : Except Failure Bytes :=
  if (∀ value ∈ values, value < 2 ^ 64) ∧ offset + 8 * values.length ≤ out.length then
    .ok (overwrite out offset (values.flatMap (big 8)))
  else .error .struct

/-! ### Taking apart -/

structure Avb where
  footer : Bytes
  header : Bytes
  tail : Bytes
  deriving DecidableEq, Repr

structure BootImage where
  data : Bytes
  headerVersion : Nat
  kernelSize : Nat
  ramdiskSize : Nat
  osVersion : Nat
  headerSize : Nat
  cmdline : Bytes
  signatureSize : Nat
  kernel : Bytes
  ramdiskOffset : Nat
  ramdisk : Bytes
  signature : Bytes
  payloadEnd : Nat
  avb : Option Avb
  deriving DecidableEq, Repr

/-- The numbers of an AVB footer: original size, vbmeta offset, vbmeta size. -/
def footerOriginalSize (footer : Bytes) : Nat := fromBig (part footer 12 20)

def footerVbmetaOffset (footer : Bytes) : Nat := fromBig (part footer 20 28)

def footerVbmetaSize (footer : Bytes) : Nat := fromBig (part footer 28 36)

/-- `_read_avb` -/
def readAvb (data : Bytes) (payloadEnd : Nat) : Except Failure (Option Avb) :=
  let footer := data.drop (data.length - avbFooterSize)
  if data.length < avbFooterSize ∨ part footer 0 4 ≠ avbFooterMagic then .ok none
  else
    let originalSize := footerOriginalSize footer
    let vbmetaOffset := footerVbmetaOffset footer
    let header := part data vbmetaOffset (vbmetaOffset + footerVbmetaSize footer)
    if part header 0 4 ≠ avbMagic then
      .error (.patch "the AVB footer does not point at a vbmeta block")
    else if originalSize < payloadEnd then
      .error (.patch "the AVB footer claims an image shorter than the boot payload")
    else .ok (some { footer, header, tail := part data payloadEnd originalSize })

/-- `BootImage(data)` -/
def bootImage (data : Bytes) : Except Failure BootImage := do
  if part data 0 8 ≠ bootMagic then
    .error (.patch "not an Android boot image: the ANDROID! magic is missing")
  else
    let headerVersion ← unpack data 40
    if headerVersion ≠ 3 ∧ headerVersion ≠ 4 then
      .error (.patch ("only boot header versions 3 and 4 are supported, not " ++
        toString headerVersion))
    else
      let kernelSize ← unpack data 8
      let ramdiskSize ← unpack data 12
      let osVersion ← unpack data 16
      let headerSize ← unpack data 20
      let signatureSize ← (if headerVersion ≥ 4 then unpack data 1580 else .ok 0)
      let ramdiskOffset := pageSize + aligned kernelSize pageSize
      let signatureOffset := ramdiskOffset + aligned ramdiskSize pageSize
      let payloadEnd := signatureOffset + aligned signatureSize pageSize
      let avb ← readAvb data payloadEnd
      .ok {
        data, headerVersion, kernelSize, ramdiskSize, osVersion, headerSize, signatureSize,
        ramdiskOffset, payloadEnd, avb
        cmdline := part data 44 (44 + 1536)
        kernel := part data pageSize (pageSize + kernelSize)
        ramdisk := part data ramdiskOffset (ramdiskOffset + ramdiskSize)
        signature := part data signatureOffset (signatureOffset + signatureSize) }

/-- `FIELDS`, without the signature size before version 4. -/
def fieldTable (headerVersion : Nat) : List (String × Nat) :=
  [("kernel_size", 8), ("ramdisk_size", 12), ("os_version", 16), ("header_size", 20),
    ("header_version", 40), ("signature_size", 1580)].filter (fun field =>
      ¬ (field.2 = 1580 ∧ headerVersion < 4))

/-- `header_fields` -/
def BootImage.headerFields (image : BootImage) : Except Failure (List (String × Nat)) :=
  (fieldTable image.headerVersion).mapM (fun field =>
    (unpack image.data field.2).map (fun value => (field.1, value)))

/-! ### Putting together -/

/-- The header page and the blocks, each padded to a page, with the sizes written in. -/
def payload (image : BootImage) (ramdisk : Bytes) : Except Failure Bytes := do
  let out := padTo pageSize (part image.data 0 pageSize ++ image.kernel)
  let out := padTo pageSize (out ++ ramdisk)
  let out := padTo pageSize (out ++ image.signature)
  let out ← packInto out 8 [image.kernel.length, ramdisk.length]
  if image.headerVersion ≥ 4 then packInto out 1580 [image.signature.length] else .ok out

/-- What follows the payload when the image has an AVB footer. -/
def sealAvb (image : BootImage) (avb : Avb) (out : Bytes) : Except Failure Bytes := do
  let out := padTo pageSize (out ++ avb.tail)
  let originalSize := out.length
  let vbmetaOffset := aligned out.length 4096
  let out := out ++ zeros ((vbmetaOffset : Int) - out.length) ++ avb.header
  if image.data.length < out.length + avbFooterSize then
    .error (.patch ("no room left for the AVB structures: the patched payload is " ++
      toString originalSize ++ " bytes in a " ++ toString image.data.length ++ "-byte image"))
  else
    let out := out ++ zeros ((image.data.length : Int) - avbFooterSize - out.length)
    let footer ← packBigInto avb.footer 12 [originalSize, vbmetaOffset]
    .ok (out ++ footer)

/-- `rebuild` -/
def rebuild (image : BootImage) (ramdisk : Bytes) : Except Failure Bytes := do
  let out ← payload image ramdisk
  match image.avb with
  | none =>
      if image.data.length < out.length then
        .error (.patch "the patched image is larger than the stock image")
      else .ok (out ++ zeros ((image.data.length : Int) - out.length))
  | some avb => sealAvb image avb out

/-! ### The kind -/

inductive BootKind where
  | unknown
  | ubuntu
  | android
  deriving DecidableEq, Repr

/-- `boot_image_kind` -/
def bootImageKind (header : Bytes) : BootKind :=
  let u32 := fun offset => fromLittle (part header offset (offset + 4))
  if header.length < 1652 ∨ part header 0 8 ≠ bootMagic then .unknown
  else if u32 8 = 0 then .unknown
  else if u32 40 = 2 ∧ u32 36 = 4096 ∧ u32 1644 = 1660 ∧ u32 1648 > 0 then .ubuntu
  else if (u32 40 = 3 ∧ u32 20 = 1580) ∨ (u32 40 = 4 ∧ u32 20 = 1584) then .android
  else .unknown

end Liuqin.Boot
