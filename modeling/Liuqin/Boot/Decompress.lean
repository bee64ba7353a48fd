/-
The compressed ramdisk of `patch-android-boot-ksu.py`: gzip, or lz4-legacy.

An lz4-legacy stream is a magic number and blocks, each behind its length.  The
reader stops at a length of zero and at a block that is not there in full.
-/

import Liuqin.Boot.Cpio
import Liuqin.Library.Words

namespace Liuqin.Boot

open Library Library.Bytes

/-- `LZ4_LEGACY_MAGIC` -/
def lz4LegacyMagic : Bytes := [0x02, 0x21, 0x4C, 0x18]

def gzipMagics : List Bytes := [[0x1F, 0x8B], [0x1F, 0x9E]]

inductive Format where
  | gzip
  | lz4Legacy
  deriving DecidableEq, Repr

/-- The compression libraries: nothing where they raise. -/
structure Codecs where
  /-- `zlib.decompress` of a gzip stream. -/
  gunzip : Bytes → Option Bytes
  /-- `lz4.block.decompress` into at most LZ4_BLOCK_SIZE bytes. -/
  unblock : Bytes → Option Bytes

inductive Raised where
  | own (failure : Failure)
  | library
  deriving DecidableEq, Repr

/-- `data.hex()` -/
def hex (data : Bytes) : String :=
  String.ofList ((data.flatMap (fun byte => digits 2 byte.toNat)).map
    (fun digit => Char.ofNat digit.toNat))

def detectFormat (data : Bytes) : Except Raised Format :=
  if lz4LegacyMagic.isPrefixOf data then .ok .lz4Legacy
  else if gzipMagics.any (fun magic => magic.isPrefixOf data) then .ok .gzip
  else
    .error (.own (.patch ("unsupported ramdisk compression; the first bytes are " ++
      hex (data.take 4))))

/-- The loop over the blocks of an lz4-legacy stream. -/
def lz4Loop (codecs : Codecs) (data : Bytes) (offset : Nat) (out : Bytes) : Except Raised Bytes :=
  if offset + 4 ≤ data.length then
    let block := fromLittle (part data offset (offset + 4))
    let start := offset + 4
    if block = 0 ∨ start + block > data.length then .ok out
    else
      match codecs.unblock (part data start (start + block)) with
      | none => .error .library
      | some chunk => lz4Loop codecs data (start + block) (out ++ chunk)
  else .ok out
termination_by data.length - offset

def decompress (codecs : Codecs) (data : Bytes) : Format → Except Raised Bytes
  | .gzip =>
      match codecs.gunzip data with
      | none => .error .library
      | some plain => .ok plain
  | .lz4Legacy =>
      match lz4Loop codecs data lz4LegacyMagic.length [] with
      | .error raised => .error raised
      | .ok [] => .error (.own (.patch "the lz4-legacy ramdisk decompressed to nothing"))
      | .ok out => .ok out

/-- `Cpio.load` of what `decompress` returns comes back with this result. -/
inductive Unpacks (codecs : Codecs) (data : Bytes) (format : Format) :
    Except Raised Entries → Prop where
  | packed {raised : Raised} (failed : decompress codecs data format = .error raised) :
      Unpacks codecs data format (.error raised)
  | refused {plain : Bytes} {failure : Failure} (done : decompress codecs data format = .ok plain)
      (failed : Loads plain (.error failure)) : Unpacks codecs data format (.error (.own failure))
  | read {plain : Bytes} {entries : Entries} (done : decompress codecs data format = .ok plain)
      (loaded : Loads plain (.ok entries)) : Unpacks codecs data format (.ok entries)

/-! ### Streams -/

section Streams

variable (codecs : Codecs)

/-- A gzip stream: zlib reads it, and calls every shorter front of it truncated. -/
structure Gzip where
  data : Bytes
  plain : Bytes
  whole : codecs.gunzip data = some plain
  truncated : ∀ cut < data.length, codecs.gunzip (data.take cut) = none

structure Block where
  payload : Bytes
  chunk : Bytes
  nonempty : payload ≠ []
  small : payload.length < 2 ^ 32
  reads : codecs.unblock payload = some chunk

inductive Stream where
  | gzip (stream : Gzip codecs)
  | lz4Legacy (blocks : List (Block codecs))

end Streams

section Stream

variable {codecs : Codecs}

def Block.bytes (block : Block codecs) : Bytes :=
  little 4 block.payload.length ++ block.payload

def Stream.format : Stream codecs → Format
  | .gzip _ => .gzip
  | .lz4Legacy _ => .lz4Legacy

def Stream.bytes : Stream codecs → Bytes
  | .gzip stream => stream.data
  | .lz4Legacy blocks => lz4LegacyMagic ++ blocks.flatMap Block.bytes

def Stream.plain : Stream codecs → Bytes
  | .gzip stream => stream.plain
  | .lz4Legacy blocks => blocks.flatMap Block.chunk

/-- The blocks that are there in full. -/
def wholeBlocks : List (Block codecs) → Nat → List (Block codecs)
  | [], _ => []
  | block :: rest, cut =>
      if block.bytes.length ≤ cut then block :: wholeBlocks rest (cut - block.bytes.length) else []

/-- The plain bytes in front of the cut, where the format lets go of the rest unseen. -/
def Stream.survived : Stream codecs → Nat → Option Bytes
  | .gzip _, _ => none
  | .lz4Legacy blocks, cut =>
      some ((wholeBlocks blocks (cut - lz4LegacyMagic.length)).flatMap Block.chunk)

theorem Block.bytes_length (block : Block codecs) :
    block.bytes.length = 4 + block.payload.length := by
  rw [Block.bytes, List.length_append, little_length]

theorem wholeBlocks_prefix (blocks : List (Block codecs)) (cut : Nat) :
    wholeBlocks blocks cut <+: blocks := by
  induction blocks generalizing cut with
  | nil => exact List.nil_prefix
  | cons block rest ih =>
      rw [wholeBlocks]
      split
      · exact (List.prefix_cons_inj block).mpr (ih _)
      · exact List.nil_prefix

theorem lz4Loop_over {data : Bytes} {offset : Nat} (past : data.length < offset + 4)
    (out : Bytes) : lz4Loop codecs data offset out = .ok out := by
  rw [lz4Loop, if_neg (by omega)]

/-- The length of a block, as far as there is one. -/
theorem block_word (front : Bytes) (block : Block codecs) (rest : Bytes) {cut : Nat}
    (there : 4 ≤ cut) :
    fromLittle (part (front ++ (block.bytes ++ rest).take cut) front.length (front.length + 4)) =
      block.payload.length := by
  have word : (block.bytes ++ rest).take cut =
      little 4 block.payload.length ++ (block.payload ++ rest).take (cut - 4) := by
    rw [Block.bytes, List.append_assoc, List.take_append, little_length,
      List.take_of_length_le (by rw [little_length]; exact there)]
  have first : part (front ++ (little 4 block.payload.length ++
      (block.payload ++ rest).take (cut - 4))) front.length
        (front.length + (little 4 block.payload.length).length) = little 4 block.payload.length :=
    part_next rfl _
  rw [little_length] at first
  rw [word, first, fromLittle_little block.small]

theorem lz4Loop_cut (blocks : List (Block codecs)) (front out : Bytes) (cut : Nat) :
    lz4Loop codecs (front ++ (blocks.flatMap Block.bytes).take cut) front.length out =
      .ok (out ++ (wholeBlocks blocks cut).flatMap Block.chunk) := by
  induction blocks generalizing front out cut with
  | nil =>
      rw [List.flatMap_nil, List.take_nil, List.append_nil, wholeBlocks, List.flatMap_nil,
        List.append_nil]
      exact lz4Loop_over (by omega) out
  | cons block rest ih =>
      have length := block.bytes_length
      have positive : 0 < block.payload.length := List.length_pos_of_ne_nil block.nonempty
      rw [List.flatMap_cons, wholeBlocks]
      have reach : (front ++ (block.bytes ++ rest.flatMap Block.bytes).take cut).length =
          front.length + min cut (block.bytes.length + (rest.flatMap Block.bytes).length) := by
        rw [List.length_append, List.length_take, List.length_append]
      by_cases there : 4 ≤ cut
      · rw [lz4Loop, if_pos (by omega)]
        simp only [block_word front block (rest.flatMap Block.bytes) there]
        by_cases whole : block.bytes.length ≤ cut
        · have split : front ++ (block.bytes ++ rest.flatMap Block.bytes).take cut =
              (front ++ block.bytes) ++
                (rest.flatMap Block.bytes).take (cut - block.bytes.length) := by
            rw [List.take_append, List.take_of_length_le whole, List.append_assoc]
          have payload : part (front ++ (block.bytes ++ rest.flatMap Block.bytes).take cut)
              (front.length + 4) (front.length + 4 + block.payload.length) = block.payload := by
            have shape : front ++ (block.bytes ++ rest.flatMap Block.bytes).take cut =
                (front ++ little 4 block.payload.length) ++ (block.payload ++
                  (rest.flatMap Block.bytes).take (cut - block.bytes.length)) := by
              rw [split, Block.bytes]
              simp only [List.append_assoc]
            rw [shape]
            apply part_next
            rw [List.length_append, little_length]
          have next : front.length + 4 + block.payload.length =
              (front ++ block.bytes).length := by
            rw [List.length_append]
            omega
          rw [if_neg (by omega), payload, block.reads, if_pos whole, next]
          rw [split]
          have later := ih (front ++ block.bytes) (out ++ block.chunk)
            (cut - block.bytes.length)
          rw [List.flatMap_cons, ← List.append_assoc]
          exact later
        · rw [if_pos (by omega), if_neg whole, List.flatMap_nil, List.append_nil]
      · rw [if_neg (by omega : ¬block.bytes.length ≤ cut), List.flatMap_nil, List.append_nil]
        exact lz4Loop_over (by omega) out

end Stream

end Liuqin.Boot
