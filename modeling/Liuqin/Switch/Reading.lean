/-
Reading boot_a.

A read may stop early, so what compute_live finds out is a digest of a prefix
of the partition and the true kind of the image or none.  When no read stopped
early both are exact.
-/

import Mathlib.Data.Set.Function
import Liuqin.Switch.Rules

namespace Liuqin.Switch

open Liuqin.Library.Program

section Reading

variable {device : Device} {during : Op → Tablet device.size → Prop}
  {exited : Nat → Tablet device.size → Prop} {tablet : Tablet device.size}

/-- The part of boot_a that sha_of_part asks for. -/
def Tablet.whole {size : Nat} (tablet : Tablet size) : Bytes :=
  range tablet.boot.toList 0 (wholeBlocks size)

theorem Tablet.whole_prefix {size : Nat} (tablet : Tablet size) :
    tablet.whole <+: tablet.boot.toList := by
  rw [Tablet.whole, range, List.drop_zero]
  exact List.take_prefix _ _

theorem range_length_le (image : Bytes) (skip count : Nat) :
    (range image skip count).length ≤ count := by
  rw [range]
  exact List.length_take_le _ _

/-- The record after sha_of_part read `got`. -/
def Tablet.hashedPart {size : Nat} (tablet : Tablet size) (got : Bytes) : Tablet size :=
  (tablet.note (History.readBack tablet.whole got 0 (wholeBlocks size))).note
    fun history => { history with hashed := got :: history.hashed }

theorem looked_hashedPart {size : Nat} (tablet : Tablet size) (got : Bytes) :
    Looked tablet (tablet.hashedPart got) :=
  (looked_readBack tablet _ got 0 _).trans (looked_hashing _ got).looked

theorem wp_shaOfPart {returned : Line → Tablet device.size → Prop}
    (watches : Watches during exited tablet)
    (next : ∀ got, got <+: tablet.whole →
      returned (device.sha256.digest got) (tablet.hashedPart got)) :
    wp (machine device) during exited (shaOfPart device) returned tablet := by
  simp only [shaOfPart, Prog.bind_eq, wp_bind]
  refine wp_readBoot watches 0 _ fun delivered => ?_
  refine wp_sha256sum (watches.later (looked_readBack tablet _ _ _ _)) _ ?_
  exact next _ (List.take_prefix _ _)

/-- An answer that is exact unless a read stopped early. -/
def Answered {α : Type} (before after : Tablet device.size) (truth answer : Option α) : Prop :=
  Glimpse truth answer ∧
    (before.history.writes = 0 → after.history.readShort = false → answer = truth)

theorem readShort_of_looked {before after : Tablet device.size} (looked : Looked before after)
    (complete : after.history.readShort = false) : before.history.readShort = false := by
  cases short : before.history.readShort with
  | false => rfl
  | true =>
      rw [looked.readShort short] at complete
      cases complete

theorem wp_u32At {returned : Option Int → Tablet device.size → Prop}
    (watches : Watches during exited tablet) (offset : Nat)
    (next : ∀ value after, Looked tablet after →
      Answered tablet after (u32Value device.shellBits (range tablet.boot.toList offset 4)) value →
      returned value after) :
    wp (machine device) during exited (u32At device.shellBits readBoot offset) returned tablet := by
  simp only [u32At, Prog.bind_eq, wp_bind]
  refine wp_readBoot watches offset 4 fun delivered => ?_
  apply next _ _ (looked_readBack tablet _ _ _ _)
  by_cases whole : (range tablet.boot.toList offset 4).length ≤ delivered
  · rw [List.take_of_length_le whole]
    exact ⟨Or.inr rfl, fun _ _ => rfl⟩
  · have bound := range_length_le tablet.boot.toList offset 4
    have fewer : ((range tablet.boot.toList offset 4).take delivered).length < 4 := by
      rw [List.length_take]
      omega
    refine ⟨Or.inl (u32Value_short _ fewer), fun unwritten complete => ?_⟩
    -- the read was cut, so the record says so
    have cut : (range tablet.boot.toList offset 4).take delivered ≠
        range tablet.boot.toList offset 4 := by
      intro same
      have lengths := congrArg List.length same
      rw [List.length_take] at lengths
      omega
    simp [Tablet.note, History.readBack, unwritten, cut] at complete

/-- The true kind of the image in boot_a. -/
def Tablet.kind {device : Device} (tablet : Tablet device.size) : Option System :=
  classifyImage device.shellBits tablet.boot.toList

theorem magic_of_front {seen front : Bytes} (short : front.length ≤ 8) (part : seen <+: front)
    (found : seen.filter (fun byte => byte ≠ 0) = magic) :
    front.filter (fun byte => byte ≠ 0) = magic := by
  have enough : 8 ≤ seen.length := by
    have kept := List.length_filter_le (fun byte : UInt8 => decide (byte ≠ 0)) seen
    rw [found] at kept
    exact kept
  have same : seen = front := part.eq_of_length_le (by omega)
  rw [← same]
  exact found

theorem wp_classifyBoot {returned : Option System → Tablet device.size → Prop}
    (watches : Watches during exited tablet)
    (next : ∀ identified after, Looked tablet after →
      Answered tablet after tablet.kind identified → returned identified after) :
    wp (machine device) during exited (classifyBoot device) returned tablet := by
  -- every field the classification may read, as it is in boot_a
  let field (offset : Nat) : Option Int :=
    u32Value device.shellBits (range tablet.boot.toList offset 4)
  have truth : tablet.kind = identify (range tablet.boot.toList 0 8) (field 40) (field 8) (field 36)
      (field 1644) (field 1648) (field 20) :=
    classifyImage_eq device.shellBits tablet.boot.toList
  -- a read of a field in a later state is a read of boot_a as it is now
  have fieldAfter : ∀ after : Tablet device.size, Looked tablet after → ∀ offset,
      u32Value device.shellBits (range after.boot.toList offset 4) = field offset := by
    intro after looked offset
    rw [looked.boot]
  have step : ∀ (offset : Nat) (after : Tablet device.size) {α : Type}
      (rest : Option Int → Script α) (post : α → Tablet device.size → Prop),
      Looked tablet after →
      (∀ value last, Looked tablet last → Looked after last →
        Answered tablet last (field offset) value →
        wp (machine device) during exited (rest value) post last) →
      wp (machine device) during exited
        ((u32At device.shellBits readBoot offset : Script (Option Int)).bind rest) post after := by
    intro offset after α rest post looked continues
    rw [wp_bind]
    refine wp_u32At (watches.later looked) offset fun value last further answered => ?_
    rw [fieldAfter after looked offset] at answered
    exact continues value last (looked.trans further) further
      ⟨answered.1, fun unwritten => answered.2 (looked.writes.trans unwritten)⟩
  have finish : ∀ (seen : Bytes) (version kernel page header dtb gki : Option Int)
      (after : Tablet device.size), Looked tablet after → seen <+: range tablet.boot.toList 0 8 →
      (tablet.history.writes = 0 → after.history.readShort = false →
        seen = range tablet.boot.toList 0 8) →
      Answered tablet after (field 40) version → Answered tablet after (field 8) kernel →
      Answered tablet after (field 36) page → Answered tablet after (field 1644) header →
      Answered tablet after (field 1648) dtb → Answered tablet after (field 20) gki →
      returned (identify seen version kernel page header dtb gki) after := by
    intro seen version kernel page header dtb gki after looked part exact versions kernels pages
      headers dtbs gkis
    apply next _ _ looked
    rw [truth]
    constructor
    · exact identify_glimpse (magic_of_front (range_length_le _ 0 8) part) versions.1 kernels.1
        pages.1 headers.1 dtbs.1 gkis.1
    · intro unwritten complete
      rw [exact unwritten complete, versions.2 unwritten complete, kernels.2 unwritten complete,
        pages.2 unwritten complete, headers.2 unwritten complete, dtbs.2 unwritten complete,
        gkis.2 unwritten complete]
  have exactly : ∀ (after : Tablet device.size) (offset : Nat),
      Answered tablet after (field offset) (field offset) :=
    fun _ _ => ⟨Or.inr rfl, fun _ _ => rfl⟩
  have keeps : ∀ {after last : Tablet device.size} {truth answer : Option Int},
      Answered tablet after truth answer → Looked after last →
      Answered tablet last truth answer :=
    fun answered looked =>
      ⟨answered.1, fun unwritten complete =>
        answered.2 unwritten (readShort_of_looked looked complete)⟩
  simp only [classifyBoot, classify, Prog.bind_eq, wp_bind]
  refine wp_readBoot watches 0 8 fun delivered => ?_
  have first := looked_readBack tablet (range tablet.boot.toList 0 8)
    ((range tablet.boot.toList 0 8).take delivered) 0 8
  generalize readFront : (range tablet.boot.toList 0 8).take delivered = seen at first ⊢
  generalize afterFront : tablet.note (History.readBack (range tablet.boot.toList 0 8) seen 0 8) =
    front at first ⊢
  have part : seen <+: range tablet.boot.toList 0 8 := by
    rw [← readFront]
    exact List.take_prefix _ _
  have cut : ∀ last, Looked front last → tablet.history.writes = 0 →
      last.history.readShort = false → seen = range tablet.boot.toList 0 8 := by
    intro last looked unwritten complete
    have whole := readShort_of_looked looked complete
    rw [← afterFront] at whole
    simp only [Tablet.note, History.readBack, unwritten, Bool.or_eq_false_iff] at whole
    simpa using whole.2
  split
  · rename_i different
    have answer := finish seen _ _ _ _ _ _ front first part (cut front (Looked.refl front))
      (exactly front 40) (exactly front 8) (exactly front 36) (exactly front 1644)
      (exactly front 1648) (exactly front 20)
    rw [identify_otherMagic _ _ _ _ _ _ different] at answer
    exact answer
  rename_i isMagic
  refine step 40 front _ _ first fun version one looked oneLooked versions => ?_
  cases version with
  | none =>
      have answer := finish seen none _ _ _ _ _ one looked part (cut one oneLooked) versions
        (exactly one 8) (exactly one 36) (exactly one 1644) (exactly one 1648) (exactly one 20)
      rw [identify_noVersion] at answer
      exact answer
  | some version =>
      refine step 8 one _ _ looked fun kernel two looked twoLooked kernels => ?_
      have versions := keeps versions twoLooked
      cases kernel with
      | none =>
          have answer := finish seen (some version) none _ _ _ _ two looked part
            (cut two (oneLooked.trans twoLooked)) versions kernels (exactly two 36)
            (exactly two 1644) (exactly two 1648) (exactly two 20)
          rw [identify_noKernel] at answer
          exact answer
      | some kernel =>
          have answer := fun page header dtb gki last (further : Looked two last)
              (pages : Answered tablet last (field 36) page)
              (headers : Answered tablet last (field 1644) header)
              (dtbs : Answered tablet last (field 1648) dtb)
              (gkis : Answered tablet last (field 20) gki) =>
            finish seen (some version) (some kernel) page header dtb gki last
              (looked.trans further) part (cut last ((oneLooked.trans twoLooked).trans further))
              (keeps versions further) (keeps kernels further) pages headers dtbs gkis
          simp only [identify, if_neg isMagic] at answer
          dsimp only
          split
          · rename_i empty
            have result := answer _ _ _ _ two (Looked.refl two) (exactly two 36)
              (exactly two 1644) (exactly two 1648) (exactly two 20)
            rw [if_pos empty] at result
            exact result
          rename_i kernelThere
          simp only [if_neg kernelThere] at answer
          split
          · rename_i isTwo
            simp only [if_pos isTwo] at answer
            refine step 36 two _ _ looked fun page three looked threeLooked pages => ?_
            refine step 1644 three _ _ looked fun header four looked fourLooked headers => ?_
            refine step 1648 four _ _ looked fun dtb five looked fiveLooked dtbs => ?_
            exact answer page header dtb _ five
              ((threeLooked.trans fourLooked).trans fiveLooked)
              (keeps (keeps pages fourLooked) fiveLooked) (keeps headers fiveLooked) dtbs
              (exactly five 20)
          rename_i notTwo
          simp only [if_neg notTwo] at answer
          split
          · rename_i isGeneric
            simp only [if_pos isGeneric] at answer
            refine step 20 two _ _ looked fun gki three looked threeLooked gkis => ?_
            exact answer _ _ _ gki three threeLooked (exactly three 36) (exactly three 1644)
              (exactly three 1648) gkis
          · rename_i notGeneric
            have result := answer _ _ _ _ two (Looked.refl two) (exactly two 36)
              (exactly two 1644) (exactly two 1648) (exactly two 20)
            rw [if_neg notGeneric] at result
            exact result

theorem whole_of_complete {got : Bytes} (unwritten : tablet.history.writes = 0)
    (complete : (tablet.hashedPart got).history.readShort = false) : got = tablet.whole := by
  simp only [Tablet.hashedPart, Tablet.note, History.readBack, unwritten,
    Bool.or_eq_false_iff] at complete
  simpa using complete.2

/-- What compute_live knows: `got` is what it read of the partition. -/
structure Known (before after : Tablet device.size) (live : Live) (got : Bytes) : Prop where
  part : got <+: before.whole
  full : live.full = device.sha256.digest got
  hashed : got ∈ after.history.hashed
  identified : Answered before after before.kind live.identified
  complete : before.history.writes = 0 → after.history.readShort = false → got = before.whole

theorem wp_computeLive {returned : Live → Tablet device.size → Prop}
    (bears : Bears during exited tablet)
    (next : ∀ live after got, Looked tablet after → Known tablet after live got →
      returned live after) :
    wp (machine device) during exited (computeLive device) returned tablet := by
  simp only [computeLive, Prog.bind_eq, wp_bind]
  refine wp_shaOfPart bears fun got part => ?_
  have hashing := looked_hashedPart tablet got
  refine wp_classifyBoot (bears.later hashing) fun identified after looked answered => ?_
  have both := hashing.trans looked
  split
  · exact wp_die (bears.later both) _
  · apply next _ after got both
    constructor
    · exact part
    · rfl
    · exact looked.hashed List.mem_cons_self
    · exact answered
    · intro unwritten complete
      exact whole_of_complete unwritten (readShort_of_looked looked complete)

/-- Two equal digests make boot_a the zero-filled image. -/
theorem boot_eq_padded {now before : Tablet device.size} {image got : Bytes}
    (fits : image.length ≤ device.size) (part : got <+: before.whole)
    (boot : now.boot = before.boot)
    (digests : device.sha256.digest (padded device.size image) = device.sha256.digest got)
    (wanted : padded device.size image ∈ now.history.hashed)
    (read : got ∈ now.history.hashed)
    (injective : Set.InjOn device.sha256.digest {data | data ∈ now.history.hashed}) :
    now.boot.toList = padded device.size image := by
  have same : padded device.size image = got := injective wanted read digests
  have inside : padded device.size image <+: before.boot.toList := by
    rw [same]
    exact part.trans before.whole_prefix
  have lengths : (padded device.size image).length = before.boot.toList.length := by
    rw [padded_length fits, List.Vector.toList_length]
  rw [boot]
  exact (inside.eq_of_length lengths).symm

/-! ### Commands that only look -/

theorem wp_requireSlotA {returned : Unit → Tablet device.size → Prop}
    (bears : Bears during exited tablet)
    (next : device.runningSlot ≠ some .b → returned () tablet) :
    wp (machine device) during exited (requireSlotA device) returned tablet := by
  unfold requireSlotA
  cases slot : device.runningSlot with
  | none => exact wp_warn bears _ (next (by simp [slot]))
  | some slot' =>
      cases slot' with
      | a => exact next (by simp [slot])
      | b => exact wp_die bears _

theorem wp_describeLive {returned : String × Bool → Tablet device.size → Prop}
    (watches : Watches during exited tablet) (live : Live)
    (next : ∀ answer after, Looked tablet after → returned answer after) :
    wp (machine device) during exited (describeLive device live) returned tablet := by
  simp only [describeLive, Prog.bind_eq, wp_bind]
  refine wp_liveIsSet watches live .ubuntu fun ubuntu one seen _ _ => ?_
  cases ubuntu with
  | true => exact next _ one seen.looked
  | false =>
      simp only [Bool.false_eq_true, if_false, wp_bind]
      refine wp_liveIsSet (watches.seen seen) live .android fun android two further _ _ => ?_
      have looked := seen.looked.trans further.looked
      cases android with
      | true => exact next _ two looked
      | false =>
          simp only [Bool.false_eq_true, if_false]
          cases live.identified with
          | none => exact next _ two looked
          | some system =>
              cases system with
              | ubuntu => exact next _ two looked
              | android => exact next _ two looked

theorem wp_statusLine {returned : Unit → Tablet device.size → Prop}
    (watches : Watches during exited tablet) (set : System)
    (next : ∀ after, Looked tablet after → returned () after) :
    wp (machine device) during exited (statusLine device set) returned tablet := by
  simp only [statusLine, Prog.bind_eq, wp_bind]
  refine wp_checkSet watches set true fun passed after seen _ => ?_
  have later := watches.seen seen
  cases passed with
  | true =>
      simp only [if_true, wp_bind]
      exact wp_catSums later _ (wp_say later _ (next after seen.looked))
  | false =>
      simp only [Bool.false_eq_true, if_false, wp_bind]
      refine wp_testDirectory later _ ?_
      split
      · exact wp_say later _ (next after seen.looked)
      · exact wp_say later _ (next after seen.looked)

theorem wp_verifySet {returned : Bool → Tablet device.size → Prop}
    (watches : Watches during exited tablet) (set : System)
    (next : ∀ passed after, Looked tablet after → returned passed after) :
    wp (machine device) during exited (verifySet device set) returned tablet := by
  simp only [verifySet, Prog.bind_eq, wp_bind]
  refine wp_checkSet watches set false fun passed after seen _ => ?_
  cases passed with
  | true =>
      simp only [if_true, wp_bind]
      exact wp_say (watches.seen seen) _ (next true after seen.looked)
  | false =>
      simp only [Bool.false_eq_true, if_false, wp_bind]
      exact wp_say (watches.seen seen) _ (next false after seen.looked)

theorem wp_cmdStatus {session : Session} (same : session.device = device)
    {returned : Bool → Tablet device.size → Prop} (bears : Bears during exited tablet)
    (next : ∀ answer after, Looked tablet after → returned answer after) :
    wp (machine device) during exited (cmdStatus session) returned tablet := by
  subst same
  simp only [cmdStatus, Prog.bind_eq, wp_bind]
  refine wp_computeLive bears fun live one _ looked _ => ?_
  refine wp_describeLive (bears.later looked) live fun answer two further => ?_
  have looked := looked.trans further
  refine wp_say (bears.later looked) _ ?_
  refine wp_statusLine (bears.later looked) .ubuntu fun three further => ?_
  have looked := looked.trans further
  refine wp_statusLine (bears.later looked) .android fun four further => ?_
  exact next _ four (looked.trans further)

theorem wp_cmdVerify {session : Session} (same : session.device = device)
    {returned : Bool → Tablet device.size → Prop} (bears : Bears during exited tablet)
    (next : ∀ answer after, Looked tablet after → returned answer after) :
    wp (machine device) during exited (cmdVerify session) returned tablet := by
  subst same
  simp only [cmdVerify, Prog.bind_eq, wp_bind]
  refine wp_verifySet bears .ubuntu fun ubuntu one looked => ?_
  refine wp_verifySet (bears.later looked) .android fun android two further => ?_
  have looked := looked.trans further
  refine wp_computeLive (bears.later looked) fun live three _ further _ => ?_
  have looked := looked.trans further
  refine wp_describeLive (bears.later looked) live fun answer four further => ?_
  have looked := looked.trans further
  exact wp_say (bears.later looked) _ (next _ four looked)

theorem wp_writeState {session : Session} {returned : Unit → Tablet device.size → Prop}
    (watches : Watches during exited tablet) (next : returned () tablet) :
    wp (machine device) during exited (writeState session) returned tablet := by
  unfold writeState
  split
  · exact next
  · simp only [Prog.bind_eq, wp_bind]
    exact wp_observe trivial watches fun _ => wp_observe trivial watches fun _ => next

end Reading

end Liuqin.Switch
