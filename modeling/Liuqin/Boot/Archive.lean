/-
Writing an archive and reading it back.

The name length of a header counts characters, the name itself is written as
UTF-8.  The two agree for ASCII names only, and a reader that is given too
short a name stops: it does not end in NUL.
-/

import Liuqin.Boot.Cpio
import Mathlib.Data.List.Perm.Basic
import Mathlib.Data.List.Nodup

namespace Liuqin.Boot

open Library Library.Bytes

/-- A field of a header holds 32 bits. -/
def Word (field : Int) : Prop := 0 ≤ field ∧ field < 4294967296

/-- A name an archive may hold. -/
structure Proper (name : Name) : Prop where
  nonempty : name ≠ []
  nulFree : ∀ char ∈ name, char.val.toNat ≠ 0
  notDot : name ≠ ['.']
  notDots : name ≠ ['.', '.']
  notTrailer : name ≠ trailer

structure Fitting (entry : CpioEntry) : Prop where
  mode : Word entry.mode
  uid : Word entry.uid
  gid : Word entry.gid
  rdevMajor : Word entry.rdevMajor
  rdevMinor : Word entry.rdevMinor
  data : entry.data.length < 4294967296

/-- A map from proper names to entries whose fields fit a header. -/
structure Archive where
  entries : Entries
  distinct : (entries.map Prod.fst).Nodup
  proper : ∀ item ∈ entries, Proper item.1
  fitting : ∀ item ∈ entries, Fitting item.2

/-- The header's name length is the length of the bytes, and fits its field. -/
def Plain (name : Name) : Prop := Ascii name ∧ name.length + 1 < 4294967296

/-- Every inode, the trailer's included, fits its field. -/
def Few (entries : Entries) : Prop := firstInode + entries.length < 4294967296

/-! ### What one member is written as -/

def member (inode : Nat) (entry : CpioEntry) (name : Name) : Bytes :=
  dumpData (dumpHead [] inode entry name) entry

def members : Nat → Entries → Bytes
  | _, [] => []
  | inode, (name, entry) :: rest => member inode entry name ++ members (inode + 1) rest

theorem dumpHead_aligned (out : Bytes) (inode : Nat) (entry : CpioEntry) (name : Name) :
    4 ∣ (dumpHead out inode entry name).length :=
  padTo_dvd (by decide) _

theorem dumpData_aligned {out : Bytes} (aligned : 4 ∣ out.length) (entry : CpioEntry) :
    4 ∣ (dumpData out entry).length := by
  rw [dumpData]
  split
  · exact padTo_dvd (by decide) _
  · exact aligned

theorem dumpHead_append {front : Bytes} (aligned : 4 ∣ front.length) (inode : Nat)
    (entry : CpioEntry) (name : Name) :
    dumpHead front inode entry name = front ++ dumpHead [] inode entry name := by
  rw [dumpHead, dumpHead, List.append_assoc, padTo_append (by decide) aligned, List.nil_append]

theorem dumpData_append {front : Bytes} (aligned : 4 ∣ front.length) (out : Bytes)
    (entry : CpioEntry) : dumpData (front ++ out) entry = front ++ dumpData out entry := by
  rw [dumpData, dumpData]
  split
  · rw [List.append_assoc, padTo_append (by decide) aligned]
  · rfl

theorem dumpData_eq {out : Bytes} (aligned : 4 ∣ out.length) (entry : CpioEntry) :
    dumpData out entry = out ++ padTo 4 entry.data := by
  rw [dumpData]
  by_cases empty : entry.data = []
  · rw [if_neg (not_not.mpr empty), empty, padTo_self (by decide) (by exact Nat.dvd_zero 4), List.append_nil]
  · rw [if_pos empty, padTo_append (by decide) aligned]

theorem member_eq (inode : Nat) (entry : CpioEntry) (name : Name) :
    member inode entry name = dumpHead [] inode entry name ++ padTo 4 entry.data :=
  dumpData_eq (dumpHead_aligned _ _ _ _) entry

theorem member_aligned (inode : Nat) (entry : CpioEntry) (name : Name) :
    4 ∣ (member inode entry name).length :=
  dumpData_aligned (dumpHead_aligned _ _ _ _) entry

theorem members_aligned (inode : Nat) (items : Entries) : 4 ∣ (members inode items).length := by
  induction items generalizing inode with
  | nil => exact Nat.dvd_zero 4
  | cons item rest ih =>
      rw [members, List.length_append]
      exact Nat.dvd_add (member_aligned _ _ _) (ih (inode + 1))

theorem members_append (inode : Nat) (front back : Entries) :
    members inode (front ++ back) = members inode front ++ members (inode + front.length) back := by
  induction front generalizing inode with
  | nil => rfl
  | cons item rest ih =>
      have shifted : inode + (item :: rest).length = inode + 1 + rest.length := by
        rw [List.length_cons]
        omega
      rw [List.cons_append, members, members, ih, List.append_assoc, shifted]

/-! ### The dictionary -/

theorem get_mem {entries : Entries} {name : Name} {entry : CpioEntry}
    (found : get entries name = some entry) : (name, entry) ∈ entries := by
  induction entries with
  | nil => cases found
  | cons item rest ih =>
      obtain ⟨other, old⟩ := item
      rw [get] at found
      by_cases here : other = name
      · rw [if_pos here] at found
        rw [here, Option.some.inj found]
        exact List.mem_cons_self
      · rw [if_neg here] at found
        exact List.mem_cons_of_mem _ (ih found)

theorem get_of_mem {entries : Entries} (distinct : (entries.map Prod.fst).Nodup) {name : Name}
    {entry : CpioEntry} (present : (name, entry) ∈ entries) : get entries name = some entry := by
  induction entries with
  | nil => cases present
  | cons item rest ih =>
      obtain ⟨other, old⟩ := item
      rw [List.map_cons, List.nodup_cons] at distinct
      rw [get]
      rcases List.mem_cons.mp present with here | later
      · cases here
        rw [if_pos rfl]
      · have elsewhere : other ≠ name := by
          intro same
          apply distinct.1
          rw [same]
          exact List.mem_map.mpr ⟨(name, entry), later, rfl⟩
        rw [if_neg elsewhere]
        exact ih distinct.2 later

theorem get_absent {entries : Entries} {name : Name} (absent : get entries name = none) :
    name ∉ entries.map Prod.fst := by
  induction entries with
  | nil => exact List.not_mem_nil
  | cons item rest ih =>
      obtain ⟨other, old⟩ := item
      rw [get] at absent
      by_cases here : other = name
      · rw [if_pos here] at absent
        cases absent
      · rw [if_neg here] at absent
        rw [List.map_cons, List.mem_cons, not_or]
        exact ⟨fun same => here same.symm, ih absent⟩

/-- The order of the entries does not matter. -/
theorem get_perm {one other : Entries} (same : one.Perm other)
    (distinct : (one.map Prod.fst).Nodup) (name : Name) : get one name = get other name := by
  have distinctOther : (other.map Prod.fst).Nodup := (same.map Prod.fst).nodup_iff.mp distinct
  cases found : get one name with
  | some entry =>
      have present := same.mem_iff.mp (get_mem found)
      rw [get_of_mem distinctOther present]
  | none =>
      cases foundOther : get other name with
      | none => rfl
      | some entry =>
          have present := same.mem_iff.mpr (get_mem foundOther)
          rw [get_of_mem distinct present] at found
          cases found

theorem put_fresh {entries : Entries} {name : Name} (absent : name ∉ entries.map Prod.fst)
    (entry : CpioEntry) : put entries name entry = entries ++ [(name, entry)] := by
  induction entries with
  | nil => rfl
  | cons item rest ih =>
      obtain ⟨other, old⟩ := item
      rw [List.map_cons, List.mem_cons, not_or] at absent
      rw [put, if_neg (fun same => absent.1 same.symm), ih absent.2, List.cons_append]

theorem get_put (entries : Entries) (name other : Name) (entry : CpioEntry) :
    get (put entries name entry) other = if name = other then some entry else get entries other := by
  induction entries with
  | nil => rfl
  | cons item rest ih =>
      obtain ⟨key, old⟩ := item
      rw [put, get]
      by_cases here : key = name
      · rw [if_pos here, get, here]
        by_cases found : name = other
        · rw [if_pos found, if_pos found]
        · rw [if_neg found, if_neg found, if_neg found]
      · rw [if_neg here, get, ih]
        by_cases found : key = other
        · rw [if_pos found, if_neg (fun same => here (found.trans same.symm)), if_pos found]
        · rw [if_neg found, if_neg found]

theorem mem_put {entries : Entries} {name : Name} {entry : CpioEntry} {item : Name × CpioEntry}
    (member : item ∈ put entries name entry) : item = (name, entry) ∨ item ∈ entries := by
  induction entries with
  | nil => exact Or.inl (List.mem_singleton.mp member)
  | cons first rest ih =>
      obtain ⟨key, old⟩ := first
      rw [put] at member
      split at member
      · rcases List.mem_cons.mp member with here | later
        · exact Or.inl here
        · exact Or.inr (List.mem_cons_of_mem _ later)
      · rcases List.mem_cons.mp member with here | later
        · right
          rw [here]
          exact List.mem_cons_self
        · rcases ih later with here | older
          · exact Or.inl here
          · exact Or.inr (List.mem_cons_of_mem _ older)

theorem put_distinct {entries : Entries} (distinct : (entries.map Prod.fst).Nodup) (name : Name)
    (entry : CpioEntry) : ((put entries name entry).map Prod.fst).Nodup := by
  induction entries with
  | nil => exact List.nodup_singleton name
  | cons item rest ih =>
      obtain ⟨key, old⟩ := item
      rw [List.map_cons, List.nodup_cons] at distinct
      rw [put]
      by_cases here : key = name
      · rw [if_pos here, List.map_cons, List.nodup_cons, ← here]
        exact distinct
      · rw [if_neg here, List.map_cons, List.nodup_cons]
        constructor
        · intro present
          obtain ⟨item, member, same⟩ := List.mem_map.mp present
          rcases mem_put member with new | old
          · rw [new] at same
            exact here same.symm
          · apply distinct.1
            exact List.mem_map.mpr ⟨item, old, same⟩
        · exact ih distinct.2

theorem put_length (entries : Entries) (name : Name) (entry : CpioEntry) :
    (put entries name entry).length ≤ entries.length + 1 := by
  induction entries with
  | nil => exact Nat.le_refl 1
  | cons item rest ih =>
      obtain ⟨key, old⟩ := item
      rw [put]
      split
      · rw [List.length_cons, List.length_cons]
        omega
      · rw [List.length_cons, List.length_cons]
        omega

def putAll (entries items : Entries) : Entries :=
  items.foldl (fun held item => put held item.1 item.2) entries

theorem putAll_fresh {entries items : Entries}
    (distinct : ((entries ++ items).map Prod.fst).Nodup) :
    putAll entries items = entries ++ items := by
  induction items generalizing entries with
  | nil => rw [putAll, List.foldl_nil, List.append_nil]
  | cons item rest ih =>
      have absent : item.1 ∉ entries.map Prod.fst := by
        intro present
        rw [List.map_append, List.map_cons] at distinct
        exact (List.nodup_append.mp distinct).2.2 item.1 present item.1 List.mem_cons_self rfl
      have next : putAll entries (item :: rest) = putAll (entries ++ [item]) rest := by
        rw [putAll, List.foldl_cons, put_fresh absent]
        rfl
      have regrouped : entries ++ item :: rest = entries ++ [item] ++ rest := by
        rw [List.append_assoc, List.singleton_append]
      rw [regrouped] at distinct ⊢
      rw [next, ih distinct]

/-! ### The order of the names -/

theorem sortedNames_perm (entries : Entries) :
    (sortedNames entries).Perm (entries.map Prod.fst) :=
  List.mergeSort_perm _ _

theorem sortedNames_sorted (entries : Entries) :
    (sortedNames entries).Pairwise (fun one other => encode one ≤ encode other) := by
  have chain : ∀ one middle other, nameBefore one middle = true →
      nameBefore middle other = true → nameBefore one other = true := by
    intro one middle other first second
    exact decide_eq_true (List.le_trans (of_decide_eq_true first) (of_decide_eq_true second))
  have either : ∀ one other, (nameBefore one other || nameBefore other one) = true := by
    intro one other
    rw [Bool.or_eq_true]
    rcases List.le_total (encode one) (encode other) with before | after
    · exact Or.inl (decide_eq_true before)
    · exact Or.inr (decide_eq_true after)
  have sorted := List.pairwise_mergeSort chain either (entries.map Prod.fst)
  apply sorted.imp
  intro one other before
  exact of_decide_eq_true before

theorem sortedNames_increasing {entries : Entries} (distinct : (entries.map Prod.fst).Nodup) :
    (sortedNames entries).Pairwise (fun one other => encode one < encode other) := by
  have apart : (sortedNames entries).Nodup := (sortedNames_perm entries).nodup_iff.mpr distinct
  apply (sortedNames_sorted entries).imp₂ _ apart
  intro one other before different
  apply Classical.byContradiction
  intro notBefore
  exact different (encode_injective (List.le_antisymm before notBefore))

/-- The entries in the order in which they are written. -/
def written (entries : Entries) : List Name → Entries
  | [] => []
  | name :: names =>
      match get entries name with
      | none => written entries names
      | some entry => (name, entry) :: written entries names

def items (entries : Entries) : Entries := written entries (sortedNames entries)

theorem written_filterMap (entries : Entries) (names : List Name) :
    written entries names =
      names.filterMap (fun name => (get entries name).map (fun entry => (name, entry))) := by
  induction names with
  | nil => rfl
  | cons name names ih =>
      rw [written, List.filterMap_cons]
      cases get entries name with
      | none => exact ih
      | some entry => exact congrArg _ ih

theorem written_own {entries : Entries} (distinct : (entries.map Prod.fst).Nodup)
    {some : Entries} (within : ∀ item ∈ some, item ∈ entries) :
    written entries (some.map Prod.fst) = some := by
  induction some with
  | nil => rfl
  | cons item rest ih =>
      have found := get_of_mem distinct (within item List.mem_cons_self)
      rw [List.map_cons, written, found]
      exact congrArg _ (ih (fun item later => within item (List.mem_cons_of_mem _ later)))

theorem items_perm {entries : Entries} (distinct : (entries.map Prod.fst).Nodup) :
    (items entries).Perm entries := by
  have sorted := sortedNames_perm entries
  have all : written entries (entries.map Prod.fst) = entries :=
    written_own distinct (fun _ member => member)
  rw [written_filterMap] at all
  rw [items, written_filterMap]
  have whole := sorted.filterMap
    (fun name => (get entries name).map (fun entry => (name, entry)))
  rw [all] at whole
  exact whole

theorem dumpNames_step (entries : Entries) (names : List Name) (out : Bytes) (inode : Nat)
    (aligned : 4 ∣ out.length) :
    names.foldl (dumpName entries) (out, inode) =
      (out ++ members inode (written entries names),
        inode + (written entries names).length) := by
  induction names generalizing out inode with
  | nil => rw [List.foldl_nil, written, members, List.append_nil, List.length_nil, Nat.add_zero]
  | cons name names ih =>
      rw [List.foldl_cons, dumpName, written]
      cases get entries name with
      | none => exact ih out inode aligned
      | some entry =>
          have wrote : dumpData (dumpHead out inode entry name) entry =
              out ++ member inode entry name := by
            rw [dumpHead_append aligned, dumpData_append aligned, member]
          have still : 4 ∣ (out ++ member inode entry name).length := by
            rw [List.length_append]
            exact Nat.dvd_add aligned (member_aligned _ _ _)
          simp only [wrote]
          rw [ih _ _ still, members, List.append_assoc, List.length_cons]
          congr 1
          omega

theorem dumpNames_eq (entries : Entries) (names : List Name) :
    dumpNames entries names =
      (members firstInode (written entries names),
        firstInode + (written entries names).length) :=
  dumpNames_step entries names [] firstInode (Nat.dvd_zero 4)

def last (inode : Nat) : Bytes := dumpHead [] inode { mode := 0o755 } trailer

/-- An archive is its members in name order and a trailer. -/
theorem dump_eq (entries : Entries) :
    dump entries =
      members firstInode (items entries) ++ last (firstInode + (items entries).length) := by
  rw [dump, dumpNames_eq]
  exact dumpHead_append (members_aligned _ _) _ _ _

end Liuqin.Boot
