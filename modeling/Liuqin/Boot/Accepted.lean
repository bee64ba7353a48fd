/-
What `patch` accepts: its own verification refuses no image that was rebuilt.

The header fields, the kernel and the command line stay as they are by the form of
the image; the archive is read back because its names are plain.
-/

import Liuqin.Boot.Patched

namespace Liuqin.Boot

open Library Library.Bytes

/-! ### The header fields -/

section Fields

variable {α : Type}

theorem lookup_of_mem {fields : List (String × α)} (distinct : (fields.map Prod.fst).Nodup)
    {name : String} {value : α} (member : (name, value) ∈ fields) :
    fields.lookup name = some value := by
  induction fields with
  | nil => cases member
  | cons field rest ih =>
      obtain ⟨other, old⟩ := field
      rw [List.map_cons, List.nodup_cons] at distinct
      rw [List.lookup_cons]
      rcases List.mem_cons.mp member with here | there
      · rw [Prod.mk.injEq] at here
        rw [here.1, here.2, beq_self_eq_true]
      · have apart : name ≠ other := by
          intro same
          apply distinct.1
          exact List.mem_map.mpr ⟨(name, value), there, same⟩
        rw [beq_eq_false_iff_ne.mpr apart]
        exact ih distinct.2 there

theorem lookup_filter {fields : List (String × α)} {name other : String} (apart : name ≠ other) :
    (fields.filter fun field => field.1 ≠ other).lookup name = fields.lookup name := by
  induction fields with
  | nil => rfl
  | cons field rest ih =>
      obtain ⟨key, value⟩ := field
      rw [List.filter_cons, List.lookup_cons]
      by_cases gone : key = other
      · rw [if_neg (by rw [decide_eq_true_eq]; exact not_not.mpr gone), ih,
          beq_eq_false_iff_ne.mpr (fun same => apart (same.trans gone))]
      · rw [if_pos (decide_eq_true gone), List.lookup_cons, ih]

theorem fieldTable_cases (version : Nat) :
    fieldTable version = fieldTable 3 ∨ fieldTable version = fieldTable 4 := by
  rw [fieldTable, fieldTable, fieldTable]
  by_cases three : version < 4
  · left
    simp only [three, (by decide : 3 < 4), and_true]
  · right
    simp only [three, (by decide : ¬4 < 4), and_false]

theorem headerFields_names {image : BootImage} {fields : List (String × Nat)}
    (done : image.headerFields = .ok fields) :
    fields.map Prod.fst = (fieldTable image.headerVersion).map Prod.fst := by
  have each := Checked.mapM_forall done
  generalize fieldTable image.headerVersion = table at each ⊢
  clear done
  induction each with
  | nil => rfl
  | @cons field found table fields here _ ih =>
      obtain ⟨value, _, same⟩ := (Checked.bind_eq_ok _ _ _).mp
        (show (unpack image.data field.2 >>= fun value => .ok (field.1, value)) = .ok found from by
          rw [← here]
          cases unpack image.data field.2 <;> rfl)
      rw [List.map_cons, List.map_cons, ih, ← Except.ok.inj same]

theorem headerFields_distinct {image : BootImage} {fields : List (String × Nat)}
    (done : image.headerFields = .ok fields) : (fields.map Prod.fst).Nodup := by
  rw [headerFields_names done]
  rcases fieldTable_cases image.headerVersion with three | four
  · rw [three]
    decide
  · rw [four]
    decide

theorem headerFields_ramdisk {image : BootImage} {fields : List (String × Nat)}
    (done : image.headerFields = .ok fields) : "ramdisk_size" ∈ fields.map Prod.fst := by
  rw [headerFields_names done]
  rcases fieldTable_cases image.headerVersion with three | four
  · rw [three]
    decide
  · rw [four]
    decide

theorem lookup_of_key {fields : List (String × α)} {name : String}
    (member : name ∈ fields.map Prod.fst) : (fields.lookup name).isSome = true := by
  induction fields with
  | nil => cases member
  | cons field rest ih =>
      obtain ⟨other, value⟩ := field
      rw [List.lookup_cons]
      by_cases same : name = other
      · rw [same, beq_self_eq_true]
        rfl
      · rw [beq_eq_false_iff_ne.mpr same]
        apply ih
        rw [List.map_cons, List.mem_cons] at member
        exact member.resolve_left same

/-- Of fields that are the same but for one, no other is found to differ. -/
theorem changedFields_one {before now : List (String × Nat)}
    (distinct : (before.map Prod.fst).Nodup) (held : "ramdisk_size" ∈ now.map Prod.fst)
    (same : now.filter (fun field => field.1 ≠ "ramdisk_size") =
      before.filter (fun field => field.1 ≠ "ramdisk_size")) :
    ∃ changed, changedFields before now = .ok changed ∧
      changed.filter (fun name => name ≠ "ramdisk_size") = [] := by
  have known : ∀ field ∈ before, field.1 ≠ "ramdisk_size" → now.lookup field.1 = some field.2 := by
    intro field member apart
    rw [← lookup_filter apart, same, lookup_filter apart]
    exact lookup_of_mem distinct member
  let compared := before.map fun field =>
    (field.1, decide (field.2 ≠ (now.lookup field.1).getD 0))
  have each : before.mapM (compareField now) = .ok compared := by
    apply Checked.mapM_ok
    intro field member
    have found : (now.lookup field.1).isSome = true := by
      by_cases ramdisk : field.1 = "ramdisk_size"
      · rw [ramdisk]
        exact lookup_of_key held
      · rw [known field member ramdisk]
        rfl
    obtain ⟨value, here⟩ := Option.isSome_iff_exists.mp found
    rw [compareField, here]
    rfl
  refine ⟨(compared.filter Prod.snd).map Prod.fst, ?_, ?_⟩
  · rw [changedFields, each]
    rfl
  · rw [List.filter_eq_nil_iff]
    intro name member differs
    obtain ⟨pair, inside, fst⟩ := List.mem_map.mp member
    obtain ⟨inside, changed⟩ := List.mem_filter.mp inside
    obtain ⟨field, original, pair_⟩ := List.mem_map.mp inside
    rw [← pair_] at fst changed
    have apart : field.1 ≠ "ramdisk_size" := by
      have name_ : field.1 = name := fst
      rw [name_]
      exact of_decide_eq_true differs
    have unequal : field.2 ≠ (now.lookup field.1).getD 0 := of_decide_eq_true changed
    rw [known field original apart] at unequal
    exact unequal rfl

end Fields

/-! ### A run that comes through -/

section Accepted

variable {tools : Tools} {inputs : Inputs} {image : BootImage} {format : Format}
  {plain ramdisk out : Bytes} {cpio after : Entries}

/-- A stock image whose round trip gives it back, and assets that are the pinned ones. -/
structure Given (tools : Tools) (inputs : Inputs) (image : BootImage) (format : Format)
    (plain : Bytes) (cpio : Entries) : Prop where
  ksuinit : inputs.ksuinit.length = inputs.manifest.ksuinit.bytes ∧
    tools.sha256 inputs.ksuinit = inputs.manifest.ksuinit.sha256
  lkm : inputs.lkm.length = inputs.manifest.lkm.bytes ∧
    tools.sha256 inputs.lkm = inputs.manifest.lkm.sha256
  parsed : bootImage inputs.stock = .ok image
  identical : rebuild image image.ramdisk = .ok inputs.stock
  detected : detectFormat image.ramdisk = .ok format
  decompressed : decompress tools.codecs image.ramdisk format = .ok plain
  loads : Loads plain (.ok cpio)

/-- The image can be rebuilt around this ramdisk. Where there is no footer, the 64 bytes
where one would be stay zero. -/
structure Room (inputs : Inputs) (image : BootImage) (ramdisk out : Bytes) : Prop where
  rebuilt : rebuild image ramdisk = .ok out
  free : image.avb = none → ∀ built, payload image ramdisk = .ok built →
    built.length + avbFooterSize ≤ inputs.stock.length

/-- An image that the changes can be made to. -/
structure Patchable (tools : Tools) (inputs : Inputs) (image : BootImage) (format : Format)
    (plain : Bytes) (cpio after : Entries) (ramdisk out : Bytes) : Prop
    extends Given tools inputs image format plain cpio, Room inputs image ramdisk out where
  bootable : (get cpio initName).isSome = true ∨ (get cpio realName).isSome = true
  names : ∀ item ∈ cpio, Plain item.1
  changes : exchange cpio inputs.ksuinit inputs.lkm = .ok after
  compressed : compress tools.packers (dump after) format = .ok ramdisk

theorem load_of_loads {fuel more : Nat} {data : Bytes} {entries : Entries}
    (ended : loadLoop data fuel 0 [] = some (.ok entries)) (enough : fuel ≤ more) :
    load more data = .ok entries := by
  have same : fuel + (more - fuel) = more := by omega
  rw [load, ← same, loadLoop_more ended]
  rfl

theorem unpack_of_loads {fuel more : Nat} {data : Bytes}
    (decompressed : decompress tools.codecs ramdisk format = .ok data) {entries : Entries}
    (ended : loadLoop data fuel 0 [] = some (.ok entries)) (enough : fuel ≤ more) :
    unpackRamdisk tools more ramdisk format = .ok entries := by
  rw [unpackRamdisk, decompressed]
  exact load_of_loads ended enough

theorem entryOf_some {entries : Entries} {name : Name} {entry : CpioEntry}
    (found : get entries name = some entry) : entryOf entries name = .ok entry := by
  rw [entryOf, found]

/-- Only the ramdisk of the image changes. -/
theorem Patchable.only
    (patchable : Patchable tools inputs image format plain cpio after ramdisk out) :
    ∃ result, OnlyRamdisk image result ramdisk out := by
  obtain ⟨rest, exact_⟩ := exact_of_roundTrip patchable.parsed patchable.identical
  obtain ⟨front, tail, built, _, _⟩ := rebuild_front patchable.rebuilt
  have some_ : image.data ≠ [] := by
    apply List.ne_nil_of_length_pos
    rw [exact_.same]
    exact Nat.lt_of_lt_of_le (by decide) (exact_long exact_)
  have small := (payload_inv built some_).2.1
  obtain ⟨_, _, avb, read, same⟩ := bootImage_inv patchable.parsed
  have identical := patchable.identical
  have rebuilt := patchable.rebuilt
  have free := patchable.free
  rw [same] at exact_ identical rebuilt free ⊢
  cases avb with
  | none => exact rebuilt_plain exact_ small identical rebuilt (free rfl)
  | some avb => exact rebuilt_sealed read exact_ small identical rebuilt

/-- The archive of the result, and that it can be read. -/
theorem Patchable.patched
    (patchable : Patchable tools inputs image format plain cpio after ramdisk out)
    (ordinary : Ordinary inputs plain cpio) :
    ∃ patched, Loads (dump after) (.ok patched) ∧
      ∀ name, get patched name = exchanged cpio inputs.ksuinit inputs.lkm name := by
  have writable := ordinary.writable patchable.loads patchable.changes
  have names : ∀ item ∈ after, Plain item.1 := by
    apply exchange_all (fun name _ => Plain name) patchable.changes patchable.names
    · exact fun _ _ => ⟨by decide, by decide⟩
    · exact ⟨by decide, by decide⟩
    · exact ⟨by decide, by decide⟩
  obtain ⟨patched, loads, same⟩ :=
    read_back writable.distinct writable.few writable.carried names
  refine ⟨patched, loads, ?_⟩
  intro name
  rw [same, (get_exchange patchable.changes).2]

/-- The verification passes. -/
theorem Patchable.verifies
    (patchable : Patchable tools inputs image format plain cpio after ramdisk out)
    (faithful : Faithful tools.codecs tools.packers format) {patched : Entries} {fuel more : Nat}
    (ended : loadLoop (dump after) fuel 0 [] = some (.ok patched)) (enough : fuel ≤ more)
    (same : ∀ name, get patched name = exchanged cpio inputs.ksuinit inputs.lkm name)
    {before : List (String × Nat)} (fields : image.headerFields = .ok before) :
    verifyPatched tools inputs more image before after out = .ok () := by
  obtain ⟨result, only⟩ := patchable.only
  obtain ⟨old, now, known, found, kept⟩ := only.fields
  rw [fields] at known
  rw [← Except.ok.inj known] at kept
  obtain ⟨changed, compared, none_⟩ :=
    changedFields_one (headerFields_distinct fields) (headerFields_ramdisk found) kept
  obtain ⟨detected, decompressed⟩ :=
    decompress_compress faithful (dump_nonempty after) patchable.compressed
  have unpacked : unpackRamdisk tools more result.ramdisk format = .ok patched := by
    rw [only.ramdisk]
    exact unpack_of_loads decompressed ended enough
  have init : get patched initName = some (CpioEntry.regular 0o755 inputs.ksuinit) := by
    rw [same, exchanged, if_pos rfl]
  have lkm : get patched moduleName = some (CpioEntry.regular 0o755 inputs.lkm) := by
    rw [same, exchanged, if_neg (by decide), if_pos rfl]
  have real : ∃ entry, get patched realName = some entry := by
    rw [same, exchanged, if_neg (by decide), if_neg (by decide)]
    rcases patchable.bootable with has | has
    · rw [if_pos ⟨rfl, has⟩]
      exact Option.isSome_iff_exists.mp has
    · split
      · rename_i both
        exact Option.isSome_iff_exists.mp both.2
      · exact Option.isSome_iff_exists.mp has
  obtain ⟨entry, real⟩ := real
  have realAfter : get after realName = some entry := by
    rw [(get_exchange patchable.changes).2, ← same, real]
  have length : out.length = inputs.stock.length := by
    rw [only.length, (exact_of_roundTrip patchable.parsed patchable.identical).choose_spec.same]
  rw [verifyPatched, only.parsed]
  show (own result.headerFields >>= _) = _
  rw [found]
  show (changedFields before now >>= _) = _
  rw [compared]
  show (library (detectFormat result.ramdisk) >>= _) = _
  rw [only.ramdisk, detected]
  show (unpackRamdisk tools more ramdisk format >>= _) = _
  rw [← only.ramdisk, unpacked]
  show (entryOf patched initName >>= _) = _
  rw [entryOf_some init]
  show (entryOf patched realName >>= _) = _
  rw [entryOf_some real]
  show (entryOf after realName >>= _) = _
  rw [entryOf_some realAfter]
  show (entryOf patched moduleName >>= _) = _
  rw [entryOf_some lkm]
  show (if _ then _ else _) = _
  rw [if_neg]
  rw [not_or, not_or, not_or, not_or, not_or]
  refine ⟨not_not.mpr none_, ?_, ?_, not_not.mpr length, ?_, ?_⟩
  · rw [only.kernel]
    exact not_not.mpr rfl
  · rw [only.cmdline]
    exact not_not.mpr rfl
  · exact not_not.mpr rfl
  · exact not_not.mpr rfl

/-- With steps enough to walk the two archives `patch` returns. -/
theorem Patchable.returns (faithful : Faithful tools.codecs tools.packers format)
    (ordinary : Ordinary inputs plain cpio)
    (patchable : Patchable tools inputs image format plain cpio after ramdisk out) :
    ∃ fuel, patch tools inputs fuel = .ok out := by
  obtain ⟨patched, ⟨second, endedPatched⟩, same⟩ := patchable.patched ordinary
  obtain ⟨first, ended⟩ := patchable.loads
  obtain ⟨result, only⟩ := patchable.only
  obtain ⟨before, _, fields, _⟩ := only.fields
  have unpacked := unpack_of_loads patchable.decompressed ended (Nat.le_add_right first second)
  have verified := patchable.verifies faithful endedPatched (Nat.le_add_left second first) same fields
  refine ⟨first + second, ?_⟩
  have ksuinit : verifyAsset tools inputs.manifest.version "ksuinit" inputs.manifest.ksuinit
      inputs.ksuinitPath inputs.ksuinit = .ok () := by
    rw [verifyAsset, if_neg]
    rw [not_or, not_not, not_not]
    exact patchable.ksuinit
  have lkm : verifyAsset tools inputs.manifest.version "lkm" inputs.manifest.lkm inputs.lkmPath
      inputs.lkm = .ok () := by
    rw [verifyAsset, if_neg]
    rw [not_or, not_not, not_not]
    exact patchable.lkm
  rw [patch, ksuinit]
  show (verifyAsset _ _ _ _ _ _ >>= _) = _
  rw [lkm]
  show (own (bootImage inputs.stock) >>= _) = _
  rw [patchable.parsed]
  show (own image.headerFields >>= _) = _
  rw [fields]
  show (own (rebuild image image.ramdisk) >>= _) = _
  rw [patchable.identical]
  show (if inputs.stock ≠ inputs.stock then _ else _) = _
  rw [if_neg (not_not.mpr rfl)]
  show (library (detectFormat image.ramdisk) >>= _) = _
  rw [patchable.detected]
  show (unpackRamdisk tools (first + second) image.ramdisk format >>= _) = _
  rw [unpacked]
  show (exchange cpio inputs.ksuinit inputs.lkm >>= _) = _
  rw [patchable.changes]
  show (own (compress tools.packers (dump after) format) >>= _) = _
  rw [patchable.compressed]
  show (own (rebuild image ramdisk) >>= _) = _
  rw [patchable.rebuilt]
  show (verifyPatched tools inputs (first + second) image before after out >>= _) = _
  rw [verified]
  rfl

theorem Given.holds (given : Given tools inputs image format plain cpio) :
    Holds tools.codecs inputs.stock format plain cpio :=
  ⟨⟨image, given.parsed, given.detected, given.decompressed⟩, given.loads⟩

end Accepted

/-! ### A smallest stock image -/

/-- An lz4 block of literals alone. -/
def literals (chunk : Bytes) : Bytes :=
  if chunk.length < 15 then UInt8.ofNat (chunk.length * 16) :: chunk
  else
    0xF0 :: (List.replicate ((chunk.length - 15) / 255) 255 ++
      UInt8.ofNat ((chunk.length - 15) % 255) :: chunk)

/-- The reader of lz4 blocks, on blocks of literals. -/
def readLiterals : Bytes → Option Bytes
  | [] => none
  | token :: rest =>
      if token.toNat < 0xF0 then
        if rest.length * 16 = token.toNat then some rest else none
      else
        match rest.dropWhile (fun byte => byte = 255) with
        | [] => none
        | last :: chunk =>
            if chunk.length = 15 + 255 * (rest.takeWhile (fun byte => byte = 255)).length + last.toNat
            then some chunk else none

theorem readLiterals_literals (chunk : Bytes) : readLiterals (literals chunk) = some chunk := by
  rw [literals]
  split
  · rename_i short
    have token : (UInt8.ofNat (chunk.length * 16)).toNat = chunk.length * 16 :=
      UInt8.toNat_ofNat_of_lt' (by rw [UInt8.size]; omega)
    rw [readLiterals, token, if_pos (by omega), if_pos rfl]
  · rename_i long
    have bound : (chunk.length - 15) % 255 < 255 := Nat.mod_lt _ (by decide)
    have last : (UInt8.ofNat ((chunk.length - 15) % 255)).toNat = (chunk.length - 15) % 255 :=
      UInt8.toNat_ofNat_of_lt' (by rw [UInt8.size]; omega)
    have ends : ¬UInt8.ofNat ((chunk.length - 15) % 255) = 255 := by
      intro same
      rw [same] at last
      have full : (255 : UInt8).toNat = 255 := rfl
      omega
    have run : ∀ byte ∈ List.replicate ((chunk.length - 15) / 255) (255 : UInt8),
        decide (byte = 255) = true := by
      intro byte member
      rw [List.eq_of_mem_replicate member]
      rfl
    rw [readLiterals, if_neg (by decide), List.dropWhile_append_of_pos run,
      List.takeWhile_append_of_pos run, List.dropWhile_cons_of_neg (by rwa [decide_eq_true_eq]),
      List.takeWhile_cons_of_neg (by rwa [decide_eq_true_eq])]
    dsimp only
    rw [List.append_nil, List.length_replicate, last, if_pos]
    have whole := Nat.div_add_mod (chunk.length - 15) 255
    omega

def referenceTools : Tools where
  codecs := { gunzip := fun _ => none, unblock := readLiterals }
  packers := { deflate := id, crc32 := fun _ => 0, block := literals }
  sha256 := hex

theorem reference_faithful :
    Faithful referenceTools.codecs referenceTools.packers .lz4Legacy := by
  apply Faithful.lz4Legacy
  · exact fun chunk _ _ => readLiterals_literals chunk
  · intro chunk
    show literals chunk ≠ []
    rw [literals]
    split
    · exact List.cons_ne_nil _ _
    · exact List.cons_ne_nil _ _

def referenceArchive : Entries :=
  [(initName, CpioEntry.regular 0o750 [115, 116, 111, 99, 107])]

/-- The stream of one block. -/
def oneBlock (data : Bytes) : Bytes :=
  lz4LegacyMagic ++ (little 4 (literals data).length ++ literals data)

theorem compress_oneBlock {data : Bytes} (nonempty : data ≠ []) (short : data.length ≤ lz4BlockSize)
    (small : (literals data).length < 2 ^ 32) :
    compress referenceTools.packers data .lz4Legacy = .ok (oneBlock data) := by
  have packed : packBlock referenceTools.packers data =
      .ok (little 4 (literals data).length ++ literals data) := by
    rw [packBlock]
    exact if_pos small
  rw [compress, Chunks.chunks_short nonempty short, List.mapM_cons, packed]
  show Except.ok (lz4LegacyMagic ++ [little 4 (literals data).length ++ literals data].flatten) = _
  rw [List.flatten_singleton]
  rfl

/-- The bare image around a ramdisk. -/
def imageOf (ramdisk : Bytes) : Bytes :=
  carrying bareImage (taken bareImage none) ramdisk (List.replicate 8192 0)

section ImageOf

variable {ramdisk other : Bytes} (small : ramdisk.length < 2 ^ 32)
include small

theorem imageOf_exact :
    Exact (imageOf ramdisk) (List.replicate 8192 0) (taken (imageOf ramdisk) none) :=
  carrying_exact bare_exact small _ none

theorem imageOf_parsed : bootImage (imageOf ramdisk) = .ok (taken (imageOf ramdisk) none) := by
  apply bootImage_ok
  · exact carrying_headed bare_exact small _
  · exact exact_long (imageOf_exact small)
  · rw [imageOf, carrying, ← List.append_assoc]
    exact readAvb_zeros _ 8192 _ (by decide)

theorem imageOf_ramdisk : (taken (imageOf ramdisk) none).ramdisk = ramdisk :=
  assembled_ramdisk (resized_describes bare_exact small) _ none

theorem imageOf_length : (imageOf ramdisk).length = 12288 + aligned ramdisk.length pageSize := by
  have kernel : (taken bareImage none).kernel = [] := assembled_kernel bareHead_describes _ none
  have signature : (taken bareImage none).signature = [] :=
    assembled_signature bareHead_describes _ none
  rw [imageOf, carrying_length, List.length_append, (resized_describes bare_exact small).whole,
    blocks_length, List.length_replicate, kernel, signature]
  have none_ : aligned ([] : Bytes).length pageSize = 0 := rfl
  rw [none_, pageSize]
  omega

/-- A rebuild around a ramdisk of at most one page. -/
theorem imageOf_room (one : other.length ≤ pageSize) :
    ∃ built, payload (taken (imageOf ramdisk) none) other = .ok built ∧
      built.length + avbFooterSize ≤ (imageOf ramdisk).length := by
  have exact_ := imageOf_exact small
  have kernel : (taken (imageOf ramdisk) none).kernel = [] :=
    (assembled_kernel (resized_describes bare_exact small) _ none).trans
      (assembled_kernel bareHead_describes _ none)
  have signature : (taken (imageOf ramdisk) none).signature = [] :=
    (assembled_signature (resized_describes bare_exact small) _ none).trans
      (assembled_signature bareHead_describes _ none)
  have page : pageSize = 4096 := rfl
  refine ⟨_, exact_payload exact_ (by omega), ?_⟩
  have bounds := aligned_bounds other.length (by decide : 0 < pageSize)
  obtain ⟨pages, even⟩ := aligned_dvd other.length pageSize
  have count : aligned other.length pageSize = 4096 * pages := even
  have none_ : aligned ([] : Bytes).length pageSize = 0 := rfl
  have footer : avbFooterSize = 64 := rfl
  rw [List.length_append, sized_length exact_.describes.whole, blocks_length, kernel, signature, none_,
    imageOf_length small]
  omega

end ImageOf

theorem imageOf_identical {ramdisk : Bytes} (one : ramdisk.length ≤ pageSize) :
    rebuild (taken (imageOf ramdisk) none) (taken (imageOf ramdisk) none).ramdisk =
      .ok (imageOf ramdisk) := by
  have small : ramdisk.length < 2 ^ 32 := Nat.lt_of_le_of_lt one (by decide)
  have exact_ := imageOf_exact small
  have own := exact_payload_own exact_
  have form := exact_.form
  rw [← List.append_assoc] at form
  have length := congrArg List.length form
  rw [List.length_append, List.length_replicate] at length
  have fits : (part (imageOf ramdisk) 0 pageSize ++ blocks (taken (imageOf ramdisk) none).kernel
      (taken (imageOf ramdisk) none).ramdisk (taken (imageOf ramdisk) none).signature).length ≤
        (taken (imageOf ramdisk) none).data.length := by
    show _ ≤ (imageOf ramdisk).length
    omega
  rw [rebuild_plain rfl own fits]
  have gap : (((taken (imageOf ramdisk) none).data.length : Nat) : Int) -
      (part (imageOf ramdisk) 0 pageSize ++ blocks (taken (imageOf ramdisk) none).kernel
        (taken (imageOf ramdisk) none).ramdisk (taken (imageOf ramdisk) none).signature).length =
          ((8192 : Nat) : Int) := by
    show (((imageOf ramdisk).length : Nat) : Int) - _ = _
    omega
  rw [gap, zeros_nat]
  exact congrArg Except.ok form.symm

def referenceInputs : Inputs where
  stock := imageOf (oneBlock (dump referenceArchive))
  ksuinit := [1]
  lkm := [2, 3]
  ksuinitPath := "ksuinit"
  lkmPath := "lkm"
  manifest :=
    { version := "v3"
      ksuinit := { name := "ksuinit-aarch64", bytes := 1, sha256 := hex [1] }
      lkm := { name := "kernelsu.ko", bytes := 2, sha256 := hex [2, 3] } }

/-- The archive after the changes. -/
def referencePatched : Entries :=
  [(realName, CpioEntry.regular 0o750 [115, 116, 111, 99, 107]),
    (initName, CpioEntry.regular 0o755 [1]), (moduleName, CpioEntry.regular 0o755 [2, 3])]

/-- Its members in the order of their names. -/
theorem reference_dump : dump referencePatched = members firstInode
    [(initName, CpioEntry.regular 0o755 [1]),
      (realName, CpioEntry.regular 0o750 [115, 116, 111, 99, 107]),
      (moduleName, CpioEntry.regular 0o755 [2, 3])] ++ last (firstInode + 3) := by
  have names : sortedNames referencePatched = [initName, realName, moduleName] := by
    apply List.Perm.eq_of_pairwise _ (sortedNames_increasing (by decide))
      (by decide : [initName, realName, moduleName].Pairwise fun one other => encode one < encode other)
    · exact (sortedNames_perm _).trans (List.Perm.swap _ _ _)
    · intro one other _ _ before after
      exact absurd (List.lt_trans before after) (List.lt_irrefl _)
  rw [dump_eq, items, names]
  rfl

theorem reference_exchange : exchange referenceArchive [1] [2, 3] = .ok referencePatched := by
  decide +kernel

theorem reference_given : Given referenceTools referenceInputs
    (taken (imageOf (oneBlock (dump referenceArchive))) none) .lz4Legacy (dump referenceArchive)
    referenceArchive := by
  have one : (oneBlock (dump referenceArchive)).length ≤ pageSize := by decide +kernel
  have small : (oneBlock (dump referenceArchive)).length < 2 ^ 32 :=
    Nat.lt_of_le_of_lt one (by decide)
  have packed : compress referenceTools.packers (dump referenceArchive) .lz4Legacy =
      .ok (oneBlock (dump referenceArchive)) :=
    compress_oneBlock (dump_nonempty _) (by decide +kernel) (by decide +kernel)
  obtain ⟨detected, decompressed⟩ :=
    decompress_compress reference_faithful (dump_nonempty _) packed
  constructor
  · exact ⟨rfl, rfl⟩
  · exact ⟨rfl, rfl⟩
  · exact imageOf_parsed small
  · exact imageOf_identical one
  · rw [imageOf_ramdisk small]
    exact detected
  · rw [imageOf_ramdisk small]
    exact decompressed
  · exact ⟨3, by decide +kernel⟩

theorem reference_ordinary :
    Ordinary referenceInputs (dump referenceArchive) referenceArchive := by
  constructor
  · decide +kernel
  · decide
  · intro item member
    have only : item = (initName, CpioEntry.regular 0o750 [115, 116, 111, 99, 107]) :=
      List.mem_singleton.mp member
    rw [only]
    exact init_proper.nulFree
  · decide
  · decide

theorem reference_room : ∃ out, Room referenceInputs
    (taken (imageOf (oneBlock (dump referenceArchive))) none) (oneBlock (dump referencePatched))
    out := by
  have one : (oneBlock (dump referenceArchive)).length ≤ pageSize := by decide +kernel
  have small : (oneBlock (dump referenceArchive)).length < 2 ^ 32 :=
    Nat.lt_of_le_of_lt one (by decide)
  obtain ⟨built, made, room⟩ :=
    imageOf_room small (show (oneBlock (dump referencePatched)).length ≤ pageSize by
      rw [reference_dump]
      decide +kernel)
  refine ⟨_, rebuild_plain rfl made ?_, ?_⟩
  · show built.length ≤ (imageOf (oneBlock (dump referenceArchive))).length
    omega
  · intro _ other found
    rw [made] at found
    rw [← Except.ok.inj found]
    exact room

theorem reference_compressed : compress referenceTools.packers (dump referencePatched) .lz4Legacy =
    .ok (oneBlock (dump referencePatched)) := by
  apply compress_oneBlock (dump_nonempty _)
  · rw [reference_dump]
    decide +kernel
  · rw [reference_dump]
    decide +kernel

/-- The archive of a patched reference image. -/
theorem patch_keeps_reference : ∃ patched : Entries,
    get patched realName = some (CpioEntry.regular 0o750 [115, 116, 111, 99, 107]) ∧
      get patched initName = some (CpioEntry.regular 0o755 [1]) := by
  obtain ⟨out, room⟩ := reference_room
  have patchable : Patchable referenceTools referenceInputs
      (taken (imageOf (oneBlock (dump referenceArchive))) none) .lz4Legacy (dump referenceArchive)
      referenceArchive referencePatched (oneBlock (dump referencePatched)) out := by
    refine ⟨reference_given, room, Or.inl (by decide), ?_, reference_exchange, reference_compressed⟩
    intro item member
    rw [List.mem_singleton.mp member]
    exact ⟨by decide, by decide⟩
  obtain ⟨fuel, done⟩ := patchable.returns reference_faithful reference_ordinary
  obtain ⟨_, _, _, patched, _, same⟩ :=
    patch_keeps done reference_given.holds reference_faithful reference_ordinary
  refine ⟨patched, ?_, ?_⟩
  · rw [same]
    decide
  · rw [same]
    decide

end Liuqin.Boot
