/-
`patch` of `patch-android-boot-ksu.py`: the stock ramdisk with another init and the
KernelSU module in it.

The texts that it prints on the way are left out, and so is their order; what raises
stands where the source raises it.
-/

import Liuqin.Boot.Decompress
import Liuqin.Boot.Image
import Liuqin.Library.Checked
import Liuqin.Library.Chunks
import Mathlib.Data.List.SplitOn

namespace Liuqin.Boot

open Library Library.Bytes
open Library.Chunks (chunks)

/-! ### Compression -/

/-- `LZ4_BLOCK_SIZE` -/
def lz4BlockSize : Nat := 0x800000

/-- What the compression libraries write. -/
structure Packers where
  /-- A raw deflate stream, level 9. -/
  deflate : Bytes → Bytes
  crc32 : Bytes → Nat
  /-- `lz4.block.compress` -/
  block : Bytes → Bytes

/-- One block of an lz4-legacy stream behind its length. -/
def packBlock (packers : Packers) (chunk : Bytes) : Except Failure Bytes :=
  let block := packers.block chunk
  if block.length < 2 ^ 32 then .ok (little 4 block.length ++ block) else .error .struct

def gzipStream (packers : Packers) (data : Bytes) : Bytes :=
  [0x1F, 0x8B, 0x08, 0x00] ++ (little 4 0 ++ [2, 3]) ++ packers.deflate data ++
    (little 4 (packers.crc32 data % 2 ^ 32) ++ little 4 (data.length % 2 ^ 32))

def compress (packers : Packers) (data : Bytes) : Format → Except Failure Bytes
  | .gzip => .ok (gzipStream packers data)
  | .lz4Legacy => do
      let blocks ← (chunks lz4BlockSize data).mapM (packBlock packers)
      .ok (lz4LegacyMagic ++ blocks.flatten)

/-! ### The archive -/

/-- `TYPE_REGULAR` -/
def typeRegular : Int := 0o100000

/-- `CpioEntry.regular` -/
def CpioEntry.regular (mode : Nat) (data : Bytes) : CpioEntry where
  mode := mode + typeRegular
  data := data

def normPath (path : Name) : Name :=
  List.intercalate ['/'] ((path.splitOn '/').filter fun part => part ≠ [])

def present (entries : Entries) (path : Name) : Bool := (get entries (normPath path)).isSome

def add (entries : Entries) (path : Name) (entry : CpioEntry) : Entries :=
  put entries (normPath path) entry

/-- `entries.pop(name)` -/
def remove (entries : Entries) (name : Name) : Entries :=
  entries.filter fun item => item.1 ≠ name

def move (entries : Entries) (source target : Name) : Entries :=
  match get entries (normPath source) with
  | none => entries  -- not reached: the source is asked for first
  | some entry => put (remove entries (normPath source)) (normPath target) entry

def initName : Name := "init".toList

def realName : Name := "init.real".toList

def moduleName : Name := "kernelsu.ko".toList

/-! ### The inputs -/

inductive Trouble where
  | raised (raised : Raised)
  | key (name : String)
  /-- The walk over an archive takes more steps than it was given. -/
  | unfinished
  deriving DecidableEq, Repr

def Trouble.patch (message : String) : Trouble := .raised (.own (.patch message))

structure Asset where
  name : String
  bytes : Nat
  sha256 : String

structure Manifest where
  version : String
  ksuinit : Asset
  lkm : Asset

/-- The files and their paths. -/
structure Inputs where
  stock : Bytes
  ksuinit : Bytes
  lkm : Bytes
  ksuinitPath : String
  lkmPath : String
  manifest : Manifest

structure Tools where
  codecs : Codecs
  packers : Packers
  sha256 : Bytes → String

def verifyAsset (tools : Tools) (version role : String) (asset : Asset) (path : String)
    (data : Bytes) : Except Trouble Unit :=
  if data.length ≠ asset.bytes ∨ tools.sha256 data ≠ asset.sha256 then
    .error (.patch (path ++ " is not the pinned KernelSU " ++ version ++ " " ++ role ++ " asset (" ++
      asset.name ++ "); run tools/fetch-kernelsu-assets.sh" ++
      "  —— KernelSU 资源与固定校验值不一致，请重新下载"))
  else .ok ()

/-! ### patch -/

def own {α : Type} (result : Except Failure α) : Except Trouble α :=
  result.mapError fun failure => .raised (.own failure)

def library {α : Type} (result : Except Raised α) : Except Trouble α := result.mapError .raised

/-- `Cpio.load` -/
def load (fuel : Nat) (data : Bytes) : Except Trouble Entries :=
  match loadLoop data fuel 0 [] with
  | none => .error .unfinished
  | some result => own result

/-- `entries[name]` -/
def entryOf (entries : Entries) (name : Name) : Except Trouble CpioEntry :=
  match get entries name with
  | none => .error (.key (String.ofList name))
  | some entry => .ok entry

/-- The ramdisk of an image, unpacked. -/
def unpackRamdisk (tools : Tools) (fuel : Nat) (ramdisk : Bytes) (format : Format) :
    Except Trouble Entries := do
  let plain ← library (decompress tools.codecs ramdisk format)
  load fuel plain

/-- The changes to the archive. -/
def exchange (cpio : Entries) (ksuinit lkm : Bytes) : Except Trouble Entries :=
  if present cpio moduleName = true then
    .error (.patch ("this boot image already carries kernelsu.ko; patch the stock image" ++
      " —— 该镜像已被打过补丁，请使用原厂镜像"))
  else
    let cpio := if present cpio initName = true then move cpio initName realName else cpio
    let cpio := add cpio initName (CpioEntry.regular 0o755 ksuinit)
    .ok (add cpio moduleName (CpioEntry.regular 0o755 lkm))

def compareField (after : List (String × Nat)) (field : String × Nat) :
    Except Trouble (String × Bool) :=
  match after.lookup field.1 with
  | none => .error (.key field.1)
  | some now => .ok (field.1, decide (field.2 ≠ now))

/-- The names of the header fields that differ. -/
def changedFields (before after : List (String × Nat)) : Except Trouble (List String) := do
  let compared ← before.mapM (compareField after)
  .ok ((compared.filter Prod.snd).map Prod.fst)

/-- What is looked at in the image that was made. -/
def verifyPatched (tools : Tools) (inputs : Inputs) (fuel : Nat) (image : BootImage)
    (before : List (String × Nat)) (cpio : Entries) (out : Bytes) : Except Trouble Unit := do
  let result ← own (bootImage out)
  let after ← own result.headerFields
  let changed ← changedFields before after
  let format ← library (detectFormat result.ramdisk)
  let patched ← unpackRamdisk tools fuel result.ramdisk format
  let init ← entryOf patched initName
  let _ ← entryOf patched realName
  let _ ← entryOf cpio realName
  let lkm ← entryOf patched moduleName
  if changed.filter (fun name => name ≠ "ramdisk_size") ≠ [] ∨
      tools.sha256 result.kernel ≠ tools.sha256 image.kernel ∨ result.cmdline ≠ image.cmdline ∨
      out.length ≠ inputs.stock.length ∨ init.data ≠ inputs.ksuinit ∨ lkm.data ≠ inputs.lkm then
    .error (.patch "the patched image failed its own verification; nothing was written")
  else .ok ()

def patch (tools : Tools) (inputs : Inputs) (fuel : Nat) : Except Trouble Bytes := do
  verifyAsset tools inputs.manifest.version "ksuinit" inputs.manifest.ksuinit inputs.ksuinitPath
    inputs.ksuinit
  verifyAsset tools inputs.manifest.version "lkm" inputs.manifest.lkm inputs.lkmPath inputs.lkm
  let image ← own (bootImage inputs.stock)
  let before ← own image.headerFields
  let roundTrip ← own (rebuild image image.ramdisk)
  if roundTrip ≠ inputs.stock then
    .error (.patch ("the unpatched round trip is not byte-identical to the stock image;" ++
      " refusing to patch —— 空转重打包与原厂镜像不一致，已拒绝"))
  else
    let format ← library (detectFormat image.ramdisk)
    let cpio ← unpackRamdisk tools fuel image.ramdisk format
    let cpio ← exchange cpio inputs.ksuinit inputs.lkm
    let ramdisk ← own (compress tools.packers (dump cpio) format)
    let out ← own (rebuild image ramdisk)
    verifyPatched tools inputs fuel image before cpio out
    .ok out

end Liuqin.Boot
