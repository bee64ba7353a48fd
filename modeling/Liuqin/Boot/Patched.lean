/-
What `patch` makes of the archive in a stock image.

What it writes is read back by its own verification, and a name that would not
survive that is refused there: so the archive of the result is the stock archive
with its three names exchanged, entry for entry.
-/

import Liuqin.Boot.Patch
import Liuqin.Boot.OnlyRamdisk
import Liuqin.Boot.Loaded
import Liuqin.Boot.Truncated

namespace Liuqin.Boot

open Library Library.Bytes
open Library.Chunks (chunks chunks_flatten chunk_bounds)

/-! ### The archive with its names exchanged -/

section Exchange

variable {entries : Entries} {ksuinit lkm : Bytes}

/-- The entry under a name after the changes. -/
def exchanged (entries : Entries) (ksuinit lkm : Bytes) (name : Name) : Option CpioEntry :=
  if name = initName then some (CpioEntry.regular 0o755 ksuinit)
  else if name = moduleName then some (CpioEntry.regular 0o755 lkm)
  else if name = realName ∧ (get entries initName).isSome = true then get entries initName
  else get entries name

theorem norm_init : normPath initName = initName := by decide

theorem norm_real : normPath realName = realName := by decide

theorem norm_module : normPath moduleName = moduleName := by decide

theorem get_remove (entries : Entries) (name other : Name) :
    get (remove entries name) other = if name = other then none else get entries other := by
  induction entries with
  | nil => exact (ite_self _).symm
  | cons item rest ih =>
      obtain ⟨key, entry⟩ := item
      rw [remove, List.filter_cons]
      by_cases gone : key = name
      · rw [if_neg (by rw [decide_eq_true_eq]; exact not_not.mpr gone), get, gone]
        by_cases same : name = other
        · rw [if_pos same, ← remove, ih, if_pos same]
        · rw [if_neg same, if_neg same, ← remove, ih, if_neg same]
      · rw [if_pos (decide_eq_true gone), get, get, ← remove, ih]
        by_cases here : key = other
        · rw [if_pos here, if_pos here, if_neg (fun same => gone (here.trans same.symm))]
        · rw [if_neg here, if_neg here]

/-- What `exchange` leaves under each name. -/
theorem get_exchange {after : Entries} (done : exchange entries ksuinit lkm = .ok after) :
    get entries moduleName = none ∧ ∀ name, get after name = exchanged entries ksuinit lkm name := by
  rw [exchange, present, norm_module] at done
  split at done
  · cases done
  rename_i absent
  refine ⟨Option.not_isSome_iff_eq_none.mp absent, ?_⟩
  intro name
  have same := Except.ok.inj done
  rw [← same, add, add, norm_init, norm_module, get_put, get_put, exchanged]
  by_cases isInit : name = initName
  · rw [if_pos isInit, isInit, if_neg (by decide), if_pos rfl]
  rw [if_neg isInit, if_neg (show ¬initName = name from fun same => isInit same.symm)]
  by_cases isModule : name = moduleName
  · rw [if_pos isModule, if_pos isModule.symm]
  rw [if_neg isModule, if_neg (fun same => isModule same.symm), present, norm_init]
  cases init : get entries initName with
  | none =>
      rw [if_neg (by decide), if_neg (fun both => nomatch both.2)]
  | some entry =>
      rw [if_pos Option.isSome_some, move, norm_init, norm_real, init]
      dsimp only
      rw [get_put, get_remove, if_neg (show ¬initName = name from fun same => isInit same.symm)]
      by_cases isReal : name = realName
      · rw [if_pos isReal.symm, if_pos ⟨isReal, rfl⟩]
      · rw [if_neg (fun same => isReal same.symm), if_neg (fun both => isReal both.1)]

/-- A property of every name and entry that the changes keep. -/
theorem exchange_all (Holds : Name → CpioEntry → Prop) {after : Entries}
    (done : exchange entries ksuinit lkm = .ok after)
    (old : ∀ item ∈ entries, Holds item.1 item.2)
    (real : ∀ entry, Holds initName entry → Holds realName entry)
    (init : Holds initName (CpioEntry.regular 0o755 ksuinit))
    (module_ : Holds moduleName (CpioEntry.regular 0o755 lkm)) :
    ∀ item ∈ after, Holds item.1 item.2 := by
  rw [exchange] at done
  split at done
  · cases done
  have same := Except.ok.inj done
  rw [← same, add, add, norm_init, norm_module]
  intro item member
  rcases mem_put member with new | member
  · rw [new]
    exact module_
  rcases mem_put member with new | member
  · rw [new]
    exact init
  split at member
  · rw [move] at member
    cases found : get entries (normPath initName) with
    | none =>
        rw [found] at member
        exact old item member
    | some entry =>
        rw [found, norm_real] at member
        rcases mem_put member with new | member
        · rw [new]
          apply real
          rw [norm_init] at found
          exact old _ (get_mem found)
        · exact old item (List.mem_filter.mp member).1
  · exact old item member

theorem exchange_distinct {after : Entries} (done : exchange entries ksuinit lkm = .ok after)
    (distinct : (entries.map Prod.fst).Nodup) : (after.map Prod.fst).Nodup := by
  rw [exchange] at done
  split at done
  · cases done
  have same := Except.ok.inj done
  rw [← same]
  apply put_distinct
  apply put_distinct
  split
  · rw [move]
    cases get entries (normPath initName) with
    | none => exact distinct
    | some entry =>
        apply put_distinct
        exact distinct.sublist (List.filter_sublist.map Prod.fst)
  · exact distinct

theorem exchange_length {after : Entries} (done : exchange entries ksuinit lkm = .ok after) :
    after.length ≤ entries.length + 3 := by
  rw [exchange] at done
  split at done
  · cases done
  have same := Except.ok.inj done
  rw [← same, add, add]
  have moved : (if present entries initName = true then move entries initName realName
      else entries).length ≤ entries.length + 1 := by
    split
    · rw [move]
      cases get entries (normPath initName) with
      | none => exact Nat.le_succ _
      | some entry =>
          apply (put_length _ _ _).trans
          exact Nat.succ_le_succ (List.length_filter_le _ _)
    · exact Nat.le_succ _
  apply (put_length _ _ _).trans
  apply Nat.succ_le_succ
  apply (put_length _ _ _).trans
  exact Nat.succ_le_succ moved

end Exchange

/-! ### Compressing and back -/

/-- The library of a format reads what it wrote. -/
inductive Faithful (codecs : Codecs) (packers : Packers) : Format → Prop where
  | gzip (gunzip : ∀ data, codecs.gunzip (gzipStream packers data) = some data) :
      Faithful codecs packers .gzip
  | lz4Legacy (unblock : ∀ chunk, chunk ≠ [] → chunk.length ≤ lz4BlockSize →
        codecs.unblock (packers.block chunk) = some chunk)
      (nonempty : ∀ chunk, packers.block chunk ≠ []) : Faithful codecs packers .lz4Legacy

section Compress

variable {codecs : Codecs} {packers : Packers}

theorem wholeBlocks_all (blocks : List (Block codecs)) {cut : Nat}
    (room : (blocks.flatMap Block.bytes).length ≤ cut) : wholeBlocks blocks cut = blocks := by
  induction blocks generalizing cut with
  | nil => rfl
  | cons block rest ih =>
      rw [List.flatMap_cons, List.length_append] at room
      rw [wholeBlocks, if_pos (by omega), ih (by omega)]

/-- The blocks that are written for some chunks. -/
theorem blocks_of_chunks
    (unblock : ∀ chunk, chunk ≠ [] → chunk.length ≤ lz4BlockSize →
      codecs.unblock (packers.block chunk) = some chunk)
    (nonempty : ∀ chunk, packers.block chunk ≠ []) {pieces : List Bytes}
    {packed : List Bytes} (bounds : ∀ chunk ∈ pieces, chunk ≠ [] ∧ chunk.length ≤ lz4BlockSize)
    (done : pieces.mapM (packBlock packers) = .ok packed) :
    ∃ blocks : List (Block codecs), packed.flatten = blocks.flatMap Block.bytes ∧
      blocks.flatMap Block.chunk = pieces.flatten := by
  have each := Checked.mapM_forall done
  clear done
  induction each with
  | nil => exact ⟨[], rfl, rfl⟩
  | @cons chunk bytes pieces packed here _ ih =>
      obtain ⟨blocks, written, read⟩ := ih fun other member =>
        bounds other (List.mem_cons_of_mem _ member)
      obtain ⟨some_, short⟩ := bounds chunk List.mem_cons_self
      rw [packBlock] at here
      split at here
      · rename_i small
        have same := Except.ok.inj here
        let block : Block codecs :=
          { payload := packers.block chunk
            chunk := chunk
            nonempty := nonempty chunk
            small := small
            reads := unblock chunk some_ short }
        refine ⟨block :: blocks, ?_, ?_⟩
        · rw [List.flatten_cons, List.flatMap_cons, written, ← same]
          rfl
        · rw [List.flatMap_cons, List.flatten_cons, read]
      · cases here

/-- What `compress` writes is found to be of its format and unpacks to what it was. -/
theorem decompress_compress {data packed : Bytes} {format : Format}
    (faithful : Faithful codecs packers format) (nonempty : data ≠ []) (done : compress packers data format = .ok packed) :
    detectFormat packed = .ok format ∧ decompress codecs packed format = .ok data := by
  cases faithful with
  | gzip gunzip =>
      have same := Except.ok.inj done
      rw [← same]
      constructor
      · rfl
      · rw [decompress, gunzip]
  | lz4Legacy unblock some_ =>
      rw [compress] at done
      obtain ⟨bytes, built, done⟩ := (Checked.bind_eq_ok _ _ _).mp done
      have same := Except.ok.inj done
      have positive : 0 < lz4BlockSize := by decide
      obtain ⟨blocks, written, read⟩ :=
        blocks_of_chunks unblock some_ (fun chunk member => chunk_bounds positive member) built
      rw [chunks_flatten positive] at read
      have loop := lz4Loop_cut blocks lz4LegacyMagic [] (blocks.flatMap Block.bytes).length
      rw [List.take_length, wholeBlocks_all blocks (Nat.le_refl _), List.nil_append, read] at loop
      rw [← same, written]
      constructor
      · rfl
      · rw [decompress, loop]
        cases data with
        | nil => exact absurd rfl nonempty
        | cons byte rest => rfl

theorem dump_nonempty (entries : Entries) : dump entries ≠ [] := by
  rw [dump_eq]
  apply List.append_ne_nil_of_right_ne_nil
  rw [last, dumpHead, padTo, header]
  exact List.append_ne_nil_of_left_ne_nil (List.append_ne_nil_of_left_ne_nil
    (List.append_ne_nil_of_right_ne_nil _ (List.append_ne_nil_of_left_ne_nil (by decide) _)) _) _

end Compress

/-! ### The image around the ramdisk -/

/-- The ramdisk of a rebuilt image is the one it was rebuilt around. -/
theorem rebuilt_ramdisk {stock ramdisk out : Bytes} {image result : BootImage}
    (parsed : bootImage stock = .ok image) (roundTrip : rebuild image image.ramdisk = .ok stock)
    (done : rebuild image ramdisk = .ok out) (again : bootImage out = .ok result) :
    result.ramdisk = ramdisk := by
  obtain ⟨rest, exact_⟩ := exact_of_roundTrip parsed roundTrip
  obtain ⟨front, tail, built, whole, _⟩ := rebuild_front done
  have some_ : image.data ≠ [] := by
    apply List.ne_nil_of_length_pos
    rw [exact_.same]
    exact Nat.lt_of_lt_of_le (by decide) (exact_long exact_)
  have small := (payload_inv built some_).2.1
  rw [exact_payload exact_ small] at built
  have form : out = carrying stock image ramdisk tail := by
    rw [whole, ← Except.ok.inj built, carrying, resized, List.append_assoc]
  obtain ⟨_, _, avb, _, same⟩ := bootImage_inv again
  rw [same, form]
  exact assembled_ramdisk (resized_describes exact_ small) tail avb

/-! ### A run that returns -/

theorem own_eq_ok {α : Type} (result : Except Failure α) (value : α) :
    own result = .ok value ↔ result = .ok value := by
  cases result with
  | error failure => exact ⟨(nomatch ·), (nomatch ·)⟩
  | ok found => exact ⟨fun same => congrArg Except.ok (Except.ok.inj same),
      fun same => congrArg Except.ok (Except.ok.inj same)⟩

theorem library_eq_ok {α : Type} (result : Except Raised α) (value : α) :
    library result = .ok value ↔ result = .ok value := by
  cases result with
  | error raised => exact ⟨(nomatch ·), (nomatch ·)⟩
  | ok found => exact ⟨fun same => congrArg Except.ok (Except.ok.inj same),
      fun same => congrArg Except.ok (Except.ok.inj same)⟩

theorem loads_of_load {fuel : Nat} {data : Bytes} {entries : Entries}
    (done : load fuel data = .ok entries) : Loads data (.ok entries) := by
  rw [load] at done
  cases result : loadLoop data fuel 0 [] with
  | none =>
      rw [result] at done
      cases done
  | some found =>
      rw [result] at done
      refine ⟨fuel, ?_⟩
      rw [result, (own_eq_ok found entries).mp done]

/-- The image holds this archive in its ramdisk. -/
structure Holds (codecs : Codecs) (image : Bytes) (format : Format) (plain : Bytes)
    (entries : Entries) : Prop where
  unpacks : ∃ parsed, bootImage image = .ok parsed ∧ detectFormat parsed.ramdisk = .ok format ∧
    decompress codecs parsed.ramdisk format = .ok plain
  loads : Loads plain (.ok entries)

/-- An image holds one archive. -/
theorem Holds.unique {codecs : Codecs} {image plain other : Bytes} {format found : Format}
    {entries others : Entries} (one : Holds codecs image format plain entries)
    (two : Holds codecs image found other others) : format = found ∧ entries = others := by
  obtain ⟨parsed, read, detected, done⟩ := one.unpacks
  obtain ⟨parsed', read', detected', done'⟩ := two.unpacks
  rw [read] at read'
  cases read'
  rw [detected] at detected'
  cases detected'
  rw [done] at done'
  cases done'
  exact ⟨rfl, Except.ok.inj (loads_unique one.loads two.loads)⟩

/-- The steps of a run up to the image it makes. -/
structure Makes (tools : Tools) (inputs : Inputs) (format : Format) (cpio after : Entries)
    (out : Bytes) : Prop where
  holds : ∃ plain, Holds tools.codecs inputs.stock format plain cpio
  changes : exchange cpio inputs.ksuinit inputs.lkm = .ok after
  rebuilt : ∃ image ramdisk, bootImage inputs.stock = .ok image ∧
    rebuild image image.ramdisk = .ok inputs.stock ∧
    compress tools.packers (dump after) format = .ok ramdisk ∧ rebuild image ramdisk = .ok out

section Patch

variable {tools : Tools} {inputs : Inputs} {fuel : Nat} {out : Bytes}

theorem unpackRamdisk_inv {ramdisk : Bytes} {format : Format} {entries : Entries}
    (done : unpackRamdisk tools fuel ramdisk format = .ok entries) :
    ∃ plain, decompress tools.codecs ramdisk format = .ok plain ∧ Loads plain (.ok entries) := by
  obtain ⟨plain, unpacked, loaded⟩ := (Checked.bind_eq_ok _ _ _).mp done
  exact ⟨plain, (library_eq_ok _ _).mp unpacked, loads_of_load loaded⟩

theorem entryOf_inv {entries : Entries} {name : Name} {entry : CpioEntry}
    (done : entryOf entries name = .ok entry) : get entries name = some entry := by
  rw [entryOf] at done
  cases found : get entries name with
  | none =>
      rw [found] at done
      cases done
  | some other =>
      rw [found] at done
      exact congrArg some (Except.ok.inj done)

/-- The verification has read the archive of the result, and found an init.real. -/
theorem verifyPatched_inv {image : BootImage} {before : List (String × Nat)} {cpio : Entries}
    (done : verifyPatched tools inputs fuel image before cpio out = .ok ()) :
    (get cpio realName).isSome = true ∧
      ∃ format plain patched, Holds tools.codecs out format plain patched := by
  obtain ⟨result, parsed, done⟩ := (Checked.bind_eq_ok _ _ _).mp done
  obtain ⟨after, _, done⟩ := (Checked.bind_eq_ok _ _ _).mp done
  obtain ⟨changed, _, done⟩ := (Checked.bind_eq_ok _ _ _).mp done
  obtain ⟨format, detected, done⟩ := (Checked.bind_eq_ok _ _ _).mp done
  obtain ⟨patched, unpacked, done⟩ := (Checked.bind_eq_ok _ _ _).mp done
  obtain ⟨_, _, done⟩ := (Checked.bind_eq_ok _ _ _).mp done
  obtain ⟨_, _, done⟩ := (Checked.bind_eq_ok _ _ _).mp done
  obtain ⟨real, found, _⟩ := (Checked.bind_eq_ok _ _ _).mp done
  obtain ⟨plain, decompressed, loads⟩ := unpackRamdisk_inv unpacked
  refine ⟨by rw [entryOf_inv found]; rfl, ?_⟩
  exact ⟨format, plain, patched, ⟨result, (own_eq_ok _ _).mp parsed, (library_eq_ok _ _).mp detected,
    decompressed⟩, loads⟩

theorem patch_inv (done : patch tools inputs fuel = .ok out) :
    ∃ format cpio after, Makes tools inputs format cpio after out ∧
      (get after realName).isSome = true ∧ ∃ found plain patched, Holds tools.codecs out found plain patched := by
  obtain ⟨_, _, done⟩ := (Checked.bind_eq_ok _ _ _).mp done
  obtain ⟨_, _, done⟩ := (Checked.bind_eq_ok _ _ _).mp done
  obtain ⟨image, parsed, done⟩ := (Checked.bind_eq_ok _ _ _).mp done
  obtain ⟨before, _, done⟩ := (Checked.bind_eq_ok _ _ _).mp done
  obtain ⟨roundTrip, identical, done⟩ := (Checked.bind_eq_ok _ _ _).mp done
  split at done
  · cases done
  rename_i same
  rw [not_not.mp same] at identical
  obtain ⟨format, detected, done⟩ := (Checked.bind_eq_ok _ _ _).mp done
  obtain ⟨cpio, unpacked, done⟩ := (Checked.bind_eq_ok _ _ _).mp done
  obtain ⟨after, changed, done⟩ := (Checked.bind_eq_ok _ _ _).mp done
  obtain ⟨ramdisk, compressed, done⟩ := (Checked.bind_eq_ok _ _ _).mp done
  obtain ⟨written, rebuilt, done⟩ := (Checked.bind_eq_ok _ _ _).mp done
  obtain ⟨_, verified, done⟩ := (Checked.bind_eq_ok _ _ _).mp done
  obtain ⟨plain, decompressed, loads⟩ := unpackRamdisk_inv unpacked
  have result := Except.ok.inj done
  rw [result] at rebuilt verified
  have parsed := (own_eq_ok _ _).mp parsed
  refine ⟨format, cpio, after, ⟨⟨plain, ⟨image, parsed, (library_eq_ok _ _).mp detected,
    decompressed⟩, loads⟩, changed, image, ramdisk, parsed, (own_eq_ok _ _).mp identical,
    (own_eq_ok _ _).mp compressed, (own_eq_ok _ _).mp rebuilt⟩, verifyPatched_inv verified⟩

/-- The result holds the archive that was written. -/
theorem Makes.dumped {format found : Format} {cpio after patched : Entries} {plain : Bytes}
    (makes : Makes tools inputs format cpio after out)
    (faithful : Faithful tools.codecs tools.packers format)
    (holds : Holds tools.codecs out found plain patched) : plain = dump after := by
  obtain ⟨image, ramdisk, parsed, roundTrip, compressed, rebuilt⟩ := makes.rebuilt
  obtain ⟨result, again, detected, decompressed⟩ := holds.unpacks
  have same := rebuilt_ramdisk parsed roundTrip rebuilt again
  obtain ⟨written, read⟩ := decompress_compress faithful (dump_nonempty after) compressed
  rw [same, written] at detected
  rw [same, ← Except.ok.inj detected, read] at decompressed
  exact (Except.ok.inj decompressed).symm

theorem regular_carried {name : Name} {data : Bytes} (proper : Proper name)
    (small : data.length < 4294967296) : Carried name (CpioEntry.regular 0o755 data) := by
  have zero : Word 0 := ⟨by decide, by decide⟩
  apply carried_of_fitting proper
  constructor
  · exact ⟨(by decide : 0 ≤ ((0o755 : Nat) : Int) + typeRegular),
      (by decide : ((0o755 : Nat) : Int) + typeRegular < 4294967296)⟩
  · exact zero
  · exact zero
  · exact zero
  · exact zero
  · exact small

theorem nulFree_of_all {name : Name} (free : name.all (fun char => char.val.toNat != 0) = true) :
    ∀ char ∈ name, char.val.toNat ≠ 0 := by
  intro char member
  exact bne_iff_ne.mp (List.all_eq_true.mp free char member)

theorem init_proper : Proper initName :=
  ⟨by decide, nulFree_of_all (by decide), by decide, by decide, by decide⟩

theorem real_proper : Proper realName :=
  ⟨by decide, nulFree_of_all (by decide), by decide, by decide, by decide⟩

theorem module_proper : Proper moduleName :=
  ⟨by decide, nulFree_of_all (by decide), by decide, by decide, by decide⟩

/-- An archive that `patch` may be given: what a header can hold, and names without NUL. -/
structure Ordinary (inputs : Inputs) (plain : Bytes) (cpio : Entries) : Prop where
  small : plain.length < 4294967296
  few : firstInode + (cpio.length + 3) < 4294967296
  nulFree : ∀ item ∈ cpio, ∀ char ∈ item.1, char.val.toNat ≠ 0
  ksuinit : inputs.ksuinit.length < 4294967296
  lkm : inputs.lkm.length < 4294967296

/-- What is written for an ordinary archive. -/
structure Writable (after : Entries) : Prop where
  distinct : (after.map Prod.fst).Nodup
  few : Few after
  carried : ∀ item ∈ after, Carried item.1 item.2
  nulFree : ∀ item ∈ after, ∀ char ∈ item.1, char.val.toNat ≠ 0

theorem Ordinary.writable {plain : Bytes} {cpio after : Entries}
    (ordinary : Ordinary inputs plain cpio) (loads : Loads plain (.ok cpio))
    (done : exchange cpio inputs.ksuinit inputs.lkm = .ok after) : Writable after := by
  have sound := loads_sound ordinary.small loads
  constructor
  · exact exchange_distinct done sound.distinct
  · have length := exchange_length done
    have few := ordinary.few
    rw [Few]
    omega
  · apply exchange_all Carried done sound.carried
    · intro entry carried
      exact { carried with
        notDot := real_proper.notDot
        notDots := real_proper.notDots
        notTrailer := real_proper.notTrailer
        unended := fun ended => encode_nonzero real_proper.nulFree (List.mem_of_getLast? ended) }
    · exact regular_carried init_proper ordinary.ksuinit
    · exact regular_carried module_proper ordinary.lkm
  · apply exchange_all (fun name _ => ∀ char ∈ name, char.val.toNat ≠ 0) done ordinary.nulFree
    · exact fun _ _ => real_proper.nulFree
    · exact init_proper.nulFree
    · exact module_proper.nulFree

/-- An archive that is read back after all has plain names. -/
theorem Writable.plain {after patched : Entries} (writable : Writable after)
    (loads : Loads (dump after) (.ok patched)) : ∀ item ∈ after, Plain item.1 := by
  intro item member
  by_contra notPlain
  exact unreadable writable.distinct writable.few writable.carried
    (fun item member => Or.inr (writable.nulFree item member)) ⟨item, member, notPlain⟩ patched loads

/-- And it is what was written. -/
theorem Writable.read {after patched : Entries} (writable : Writable after)
    (loads : Loads (dump after) (.ok patched)) (name : Name) :
    get patched name = get after name := by
  obtain ⟨loaded, reads, same⟩ :=
    read_back writable.distinct writable.few writable.carried (writable.plain loads)
  rw [← same, Except.ok.inj (loads_unique loads reads)]

/-- Where `patch` returns, the archive of the result is the stock archive with init,
init.real and kernelsu.ko exchanged: under every other name it holds the same. -/
theorem patch_keeps {format : Format} {plain : Bytes} {cpio : Entries}
    (done : patch tools inputs fuel = .ok out)
    (stock : Holds tools.codecs inputs.stock format plain cpio)
    (faithful : Faithful tools.codecs tools.packers format) (ordinary : Ordinary inputs plain cpio) :
    get cpio moduleName = none ∧
      ∃ found packed patched, Holds tools.codecs out found packed patched ∧
        ∀ name, get patched name = exchanged cpio inputs.ksuinit inputs.lkm name := by
  obtain ⟨same, others, after, makes, _, found, packed, patched, holds⟩ := patch_inv done
  obtain ⟨_, held⟩ := makes.holds
  rw [← (stock.unique held).1, ← (stock.unique held).2] at makes
  obtain ⟨absent, exchanged_⟩ := get_exchange makes.changes
  refine ⟨absent, found, packed, patched, holds, ?_⟩
  intro name
  have loads := holds.loads
  rw [makes.dumped faithful holds] at loads
  rw [← exchanged_]
  exact (ordinary.writable stock.loads makes.changes).read loads name

end Patch

end Liuqin.Boot
