/-
The critical section: open_rw, write_image, close_rw.

Signals are ignored throughout.  As long as no flag request fails, open_rw
comes back with both flags clear, write_image of a set that fits writes, and
close_rw puts the flags back; otherwise the record says that one failed.
-/

import Liuqin.Switch.Frame

namespace Liuqin.Switch

open Liuqin.Library.Program

section Opened

variable {device : Device} {during : Op → Tablet device.size → Prop}
  {exited : Nat → Tablet device.size → Prop} {tablet : Tablet device.size}

/-- Handling the flags is harmless here. -/
def Calm (during : Op → Tablet device.size → Prop) (tablet : Tablet device.size) : Prop :=
  ∀ after, Held tablet after → ∀ operation : Op, operation.Flags → during operation after

theorem Calm.later {after : Tablet device.size} (calm : Calm during tablet)
    (held : Held tablet after) : Calm during after :=
  fun last further => calm last (held.trans further)

theorem Calm.now (calm : Calm during tablet) {operation : Op} (flags : operation.Flags) :
    during operation tablet :=
  calm tablet (Held.refl tablet) operation flags

/-- A flag request before the second write did not fail unrecorded. -/
def Worked (ok : Bool) (before after : Tablet device.size) : Prop :=
  before.history.writes ≤ 1 → ok = true ∨ after.history.flagFailed = true

theorem worked_flagRequest (tablet : Tablet device.size) (ok : Bool) :
    Worked ok tablet (tablet.note (History.flagRequest ok)) := by
  intro few
  cases ok with
  | true => exact Or.inl rfl
  | false =>
      apply Or.inr
      simp [Tablet.note, History.flagRequest, few]

theorem worked_requested (flag : Flag) (value ok effect : Bool) (tablet : Tablet device.size) :
    Worked ok tablet (tablet.requested flag value ok effect) := by
  intro few
  cases ok with
  | true => exact Or.inl rfl
  | false =>
      apply Or.inr
      unfold Tablet.requested
      cases effect <;> cases flag <;> simp [Tablet.note, Tablet.setFlag, History.flagRequest, few]

/-! ### Closing -/

/-- A restore that fails is recorded as a failed request. -/
theorem wp_restoring (flag : Flag) {returned : Bool → Tablet device.size → Prop}
    (ignoring : tablet.shell.ignoring = true) (calm : Calm during tablet)
    (next : ∀ ok after, Held tablet after → Worked ok tablet after → returned ok after) :
    wp (machine device) during exited (restoreFlag device flag) returned tablet := by
  simp only [restoreFlag, Prog.bind_eq, Prog.pure_eq, wp_bind]
  refine wp_roSet ignoring (calm.now trivial) fun ok effect => ?_
  have held := held_requested tablet flag true ok effect
  have asked := worked_requested flag true ok effect tablet
  generalize requested : tablet.requested flag true ok effect = one at held asked ⊢
  have warning : ∀ (after : Tablet device.size), Held tablet after → Worked false tablet after →
      wp (machine device) during exited
        (warn ("CRITICAL: could not restore the read-only flag of " ++ flagNode device flag))
        (fun _ => returned false) after := by
    intro after held failed
    exact wp_ignoring (held.ignoring ignoring) (calm.later held |>.now trivial) fun _ =>
      next false after held failed
  cases ok with
  | false =>
      simp only [Bool.false_eq_true, if_false, wp_done, reduceCtorEq, wp_bind]
      exact warning one held asked
  | true =>
      simp only [if_true]
      refine wp_roGet (held.ignoring ignoring) (calm.later held |>.now trivial) fun works => ?_
      have later := held.trans (held_flagRequest one works)
      have read := worked_flagRequest one works
      have set : one.own flag = true := by
        rw [← requested]
        cases flag <;> simp [Tablet.requested, Tablet.own, Tablet.setFlag, Tablet.note]
      cases works with
      | false =>
          simp only [cond_false, reduceCtorEq, if_false, wp_bind]
          exact warning _ later fun few => Or.inr ((read (held.writes.trans_le few)).resolve_left
            (by simp))
      | true =>
          have reported : one.reported device.coupled flag = true := by
            cases flag with
            | part => simp [Tablet.reported, show one.partRo = true from set]
            | disk => exact set
          simp only [cond_true, reported, if_true, wp_done]
          exact next true _ later fun _ => Or.inl rfl

theorem wp_closing {returned : Bool → Tablet device.size → Prop}
    (ignoring : tablet.shell.ignoring = true) (calm : Calm during tablet)
    (next : ∀ ok after, Held tablet after → Worked ok tablet after → returned ok after) :
    wp (machine device) during exited (closeRw device) returned tablet := by
  simp only [closeRw, Prog.bind_eq, Prog.pure_eq, wp_bind]
  refine wp_shellIgnoring ignoring (calm.now trivial) ?_
  split
  swap
  · exact next true tablet (Held.refl tablet) fun _ => Or.inl rfl
  simp only [wp_bind]
  refine wp_assign ignoring (calm.now fun _ => rfl) ?_
  have disarmed : Held tablet
      { tablet with shell := { tablet.shell with rwArmed := false } } :=
    ⟨id, rfl, rfl, fun _ => id, rfl, rfl, rfl, rfl, rfl, rfl, rfl, id⟩
  generalize { tablet with shell := { tablet.shell with rwArmed := false } } = one at disarmed ⊢
  have restoring : ∀ (condition : Prop) [Decidable condition] (flag : Flag)
      (before : Tablet device.size) (post : Bool → Tablet device.size → Prop),
      Held tablet before →
      (∀ ok after, Held before after → Worked ok before after → post ok after) →
      wp (machine device) during exited
        (if condition then restoreFlag device flag else Prog.done true) post before := by
    intro condition _ flag before post held continues
    split
    · exact wp_restoring flag (held.ignoring ignoring) (calm.later held) continues
    · exact continues true before (Held.refl before) fun _ => Or.inl rfl
  refine restoring _ .part one _ disarmed fun part two heldTwo partWorked => ?_
  refine restoring _ .disk two _ (disarmed.trans heldTwo) fun disk three heldThree diskWorked => ?_
  have held := (disarmed.trans heldTwo).trans heldThree
  split
  · exact next true three held fun _ => Or.inl rfl
  · rename_i failed
    simp only [wp_bind]
    have recorded : Worked false tablet three := by
      intro few
      apply Or.inr
      have fewOne : one.history.writes ≤ 1 := disarmed.writes.trans_le few
      have fewTwo : two.history.writes ≤ 1 := heldTwo.writes.trans_le fewOne
      rcases partWorked fewOne with partOk | partFailed
      · rcases diskWorked fewTwo with diskOk | diskFailed
        · exact absurd (by simp [partOk, diskOk]) failed
        · exact diskFailed
      · exact heldThree.flagFailed partFailed
    refine wp_assign (held.ignoring ignoring) (calm.later held |>.now fun _ => rfl) ?_
    refine next false _ (held.trans ?_) recorded
    exact ⟨id, rfl, rfl, fun _ => id, rfl, rfl, rfl, rfl, rfl, rfl, rfl, id⟩

/-! ### Opening -/

/-- Dying is harmless once a flag request failed. -/
def Excused (exited : Nat → Tablet device.size → Prop) (tablet : Tablet device.size) : Prop :=
  ∀ after, Held tablet after → after.history.flagFailed = true →
    ∀ status, status ≠ 0 → exited status after

theorem Excused.later {after : Tablet device.size} (excused : Excused exited tablet)
    (held : Held tablet after) : Excused exited after :=
  fun last further => excused last (held.trans further)

theorem wp_excusing {returned : Unit → Tablet device.size → Prop}
    (ignoring : tablet.shell.ignoring = true) (calm : Calm during tablet)
    (excused : Excused exited tablet) (ok : Prop) [Decidable ok] (text : String)
    (failed : ¬ok → tablet.history.flagFailed = true) (next : ok → returned () tablet) :
    wp (machine device) during exited (orDie ok text) returned tablet := by
  rw [orDie]
  split
  · rename_i holds
    exact next holds
  · rename_i fails
    rw [die, Prog.bind_eq, wp_bind]
    refine wp_ignoring ignoring (calm.now trivial) fun _ => ?_
    exact excused tablet (Held.refl tablet) (failed fails) 1 (by decide)

/-- Both flags are clear, or a request failed. -/
def Clear (tablet : Tablet device.size) : Prop :=
  tablet.history.flagFailed = true ∨
    (tablet.reported device.coupled .part = false ∧ tablet.diskRo = false)

/-- What open_rw read is what the nodes report, or a request failed. -/
def Noted (found : Bool) (part disk : Option Bool) (tablet : Tablet device.size) : Prop :=
  tablet.history.flagFailed = true ∨
    (found = true ∧ part = some (tablet.reported device.coupled .part) ∧
      disk = some tablet.diskRo)

theorem requested_diskRo (tablet : Tablet device.size) (flag : Flag) (value effect : Bool) :
    (tablet.requested flag value true effect).diskRo =
      if flag = .disk then value else tablet.diskRo := by
  cases flag <;> simp [Tablet.requested, Tablet.setFlag, Tablet.note]

theorem requested_partRo (tablet : Tablet device.size) (flag : Flag) (value effect : Bool) :
    (tablet.requested flag value true effect).partRo =
      if flag = .part then value else tablet.partRo := by
  cases flag <;> simp [Tablet.requested, Tablet.setFlag, Tablet.note]

/-- The armed half of open_rw. -/
theorem wp_clearing {found : Bool} {part disk : Option Bool}
    {returned : Unit → Tablet device.size → Prop} (ignoring : tablet.shell.ignoring = true)
    (calm : Calm during tablet) (excused : Excused exited tablet)
    (few : tablet.history.writes ≤ 1) (noted : Noted found part disk tablet)
    (next : ∀ after, Held tablet after → Clear after → returned () after) :
    wp (machine device) during exited (clearFlags device found part disk) returned tablet := by
  -- one flag: the request is made when the flag was read as set
  have clearing : ∀ (was : Option Bool) (flag : Flag) (before : Tablet device.size)
      (post : Bool → Tablet device.size → Prop), Held tablet before →
      (∀ ok after, Held before after → (ok = true ∨ after.history.flagFailed = true) →
        (after = before ∧ was ≠ some true ∨ after.history.flagFailed = true ∨
          was = some true ∧ ∃ effect, after = before.requested flag false true effect) →
        post ok after) →
      wp (machine device) during exited
        (if was = some true then roSet flag false else Prog.done true) post before := by
    intro was flag before post held continues
    split
    · rename_i set
      refine wp_roSet (held.ignoring ignoring) (calm.later held |>.now trivial) fun ok effect => ?_
      have worked := worked_requested flag false ok effect before (held.writes.trans_le few)
      refine continues ok _ (held_requested before flag false ok effect) worked ?_
      cases ok with
      | true => exact Or.inr (Or.inr ⟨set, effect, rfl⟩)
      | false => exact Or.inr (Or.inl (worked.resolve_left (by simp)))
    · rename_i clear
      exact continues true before (Held.refl before) (Or.inl rfl) (Or.inl ⟨rfl, clear⟩)
  simp only [clearFlags, Prog.bind_eq, Prog.pure_eq, wp_bind]
  refine clearing disk .disk tablet _ (Held.refl tablet) fun diskOpen one heldOne openedDisk oneIs => ?_
  refine wp_excusing (heldOne.ignoring ignoring) (calm.later heldOne) (excused.later heldOne) _ _
    (fun fails => openedDisk.resolve_left fails) fun _ => ?_
  have afterDisk : one.history.flagFailed = true ∨ (found = true ∧ one.diskRo = false ∧
      (part ≠ some true → one.reported device.coupled .part = false)) := by
    rcases noted with failed | ⟨isFound, partRead, diskRead⟩
    · exact Or.inl (heldOne.flagFailed failed)
    have partClear : part ≠ some true → tablet.partRo = false ∧
        (device.coupled && tablet.diskRo) = false := by
      intro unset
      rw [partRead] at unset
      simpa [Tablet.reported] using unset
    rcases oneIs with ⟨rfl, unset⟩ | failed | ⟨set, effect, rfl⟩
    · refine Or.inr ⟨isFound, ?_, fun notSet => ?_⟩
      · rw [diskRead] at unset
        simpa using unset
      · rw [partRead] at notSet
        simpa using notSet
    · exact Or.inl failed
    · refine Or.inr ⟨isFound, requested_diskRo tablet .disk false effect, fun notSet => ?_⟩
      simp [Tablet.reported, requested_diskRo, requested_partRo, (partClear notSet).1]
  refine clearing part .part one _ heldOne fun partOpen two heldTwo openedPart twoIs => ?_
  have held := heldOne.trans heldTwo
  refine wp_excusing (held.ignoring ignoring) (calm.later held) (excused.later held) _ _
    (fun fails => openedPart.resolve_left fails) fun _ => ?_
  have afterPart : two.history.flagFailed = true ∨ (found = true ∧ two.diskRo = false ∧
      two.reported device.coupled .part = false) := by
    rcases afterDisk with failed | ⟨isFound, diskClear, partClear⟩
    · exact Or.inl (heldTwo.flagFailed failed)
    rcases twoIs with ⟨rfl, unset⟩ | failed | ⟨set, effect, rfl⟩
    · exact Or.inr ⟨isFound, diskClear, partClear unset⟩
    · exact Or.inl failed
    · have diskStays : (one.requested .part false true effect).diskRo = false :=
        (requested_diskRo one .part false effect).trans diskClear
      refine Or.inr ⟨isFound, diskStays, ?_⟩
      simp [Tablet.reported, diskStays, requested_partRo]
  refine wp_roGet (held.ignoring ignoring) (calm.later held |>.now trivial) fun works => ?_
  have heldThree := held.trans (held_flagRequest two works)
  have readPart := worked_flagRequest two works (held.writes.trans_le few)
  refine wp_excusing (heldThree.ignoring ignoring) (calm.later heldThree)
    (excused.later heldThree) _ _ ?_ fun _ => ?_
  · intro fails
    rcases afterPart with failed | ⟨_, _, partClear⟩
    · exact (held_flagRequest two works).flagFailed failed
    · refine readPart.resolve_left fun worked => fails ?_
      simp [worked, partClear]
  have afterRead : (two.note (History.flagRequest works)).history.flagFailed = true ∨
      (found = true ∧ two.diskRo = false ∧ two.reported device.coupled .part = false) :=
    afterPart.imp_left (held_flagRequest two works).flagFailed
  cases found with
  | false =>
      simp only [Bool.false_eq_true, if_false, wp_done]
      refine wp_excusing (heldThree.ignoring ignoring) (calm.later heldThree)
        (excused.later heldThree) _ _ (fun fails => absurd trivial fails) fun _ => ?_
      refine next _ heldThree (Or.inl (afterRead.resolve_right ?_))
      rintro ⟨impossible, _⟩
      cases impossible
  | true =>
      simp only [if_true]
      refine wp_roGet (heldThree.ignoring ignoring) (calm.later heldThree |>.now trivial)
        fun works' => ?_
      have heldFour := heldThree.trans (held_flagRequest _ works')
      have readDisk := worked_flagRequest (two.note (History.flagRequest works)) works'
        (heldThree.writes.trans_le few)
      have afterLast := afterRead.imp_left
        (held_flagRequest (two.note (History.flagRequest works)) works').flagFailed
      refine wp_excusing (heldFour.ignoring ignoring) (calm.later heldFour)
        (excused.later heldFour) _ _ ?_ fun _ => ?_
      · intro fails
        rcases afterLast with failed | ⟨_, diskClear, _⟩
        · exact failed
        · refine readDisk.resolve_left fun worked => fails ?_
          simp [worked, Tablet.reported, Tablet.note, diskClear]
      · exact next _ heldFour (afterLast.imp_right fun clear => ⟨clear.2.2, clear.2.1⟩)

/-- A variable of open_rw. -/
theorem wp_assigning {edit : Shell → Shell} {returned : Unit → Tablet device.size → Prop}
    (ignoring : tablet.shell.ignoring = true) (calm : Calm during tablet)
    (keeps : ∀ shell, (edit shell).ignoring = shell.ignoring)
    (next : ∀ after, Held tablet after → after.history = tablet.history →
      after.reported device.coupled = tablet.reported device.coupled → after.diskRo = tablet.diskRo →
      returned () after) :
    wp (machine device) during exited (assign edit) returned tablet := by
  refine wp_assign ignoring (calm.now keeps) (next _ ?_ rfl rfl rfl)
  exact ⟨(keeps tablet.shell).trans, rfl, rfl, fun _ => id, rfl, rfl, rfl, rfl, rfl, rfl, rfl, id⟩

/-- open_rw comes back with both flags clear unless a request failed. -/
theorem wp_opening {returned : Unit → Tablet device.size → Prop}
    (ignoring : tablet.shell.ignoring = true) (calm : Calm during tablet)
    (excused : Excused exited tablet) (few : tablet.history.writes ≤ 1)
    (next : ∀ after, Held tablet after → Clear after → returned () after) :
    wp (machine device) during exited (openRw device) returned tablet := by
  simp only [openRw, Prog.bind_eq, Prog.pure_eq, wp_bind]
  refine wp_parentDisk ignoring (calm.now trivial) fun found => ?_
  have held := held_flagRequest tablet found
  have searched := worked_flagRequest tablet found few
  refine wp_assigning (held.ignoring ignoring) (calm.later held) (fun _ => rfl)
    fun two heldTwo historyTwo _ _ => ?_
  have held := held.trans heldTwo
  rw [← historyTwo] at searched
  refine wp_excusing (held.ignoring ignoring) (calm.later held) (excused.later held) _ _
    (fun fails => searched.resolve_left fun isFound => fails (Or.inl isFound)) fun _ => ?_
  refine wp_roGet (held.ignoring ignoring) (calm.later held |>.now trivial) fun works => ?_
  have readPart := worked_flagRequest two works (held.writes.trans_le few)
  have searched := searched.imp_right (held_flagRequest two works).flagFailed
  have held := held.trans (held_flagRequest two works)
  refine wp_assigning (held.ignoring ignoring) (calm.later held) (fun _ => rfl)
    fun four heldFour historyFour reportedFour _ => ?_
  have heldNow := held.trans heldFour
  rw [← historyFour] at searched readPart
  refine wp_excusing (heldNow.ignoring ignoring) (calm.later heldNow) (excused.later heldNow) _ _
    (fun fails => readPart.resolve_left fun worked => fails (by simp [worked])) fun _ => ?_
  -- the part flag as it was read
  have part : four.history.flagFailed = true ∨
      (bif works then some (two.reported device.coupled .part) else none) =
        some (four.reported device.coupled .part) := by
    rcases readPart with worked | failed
    · rw [worked, reportedFour]
      exact Or.inr rfl
    · exact Or.inl failed
  have clearing : ∀ (found : Bool) (diskRead : Option Bool) (five : Tablet device.size),
      Held tablet five → five.reported device.coupled = four.reported device.coupled →
      (diskRead = none → five.history.flagFailed = true) →
      (five.history.flagFailed = true ∨ found = true ∧ diskRead = some five.diskRo) →
      (four.history.flagFailed = true → five.history.flagFailed = true) →
      wp (machine device) during exited (assign fun shell => { shell with rwDiskWas := diskRead })
        (fun _ => wp (machine device) during exited (orDie (diskRead ≠ none)
          ("cannot read the read-only flag of " ++ flagNode device .disk))
          fun _ => wp (machine device) during exited
            (assign fun shell => { shell with rwArmed := true })
            fun _ => wp (machine device) during exited
              (clearFlags device found
                (bif works then some (two.reported device.coupled .part) else none) diskRead)
              returned) five := by
    intro found diskRead five held reportedFive unread disk onward
    refine wp_assigning (held.ignoring ignoring) (calm.later held) (fun _ => rfl)
      fun six heldSix historySix reportedSix diskSix => ?_
    have held := held.trans heldSix
    rw [← historySix] at unread disk onward
    refine wp_excusing (held.ignoring ignoring) (calm.later held) (excused.later held) _ _
      (fun fails => unread (not_not.mp fails)) fun _ => ?_
    refine wp_assigning (held.ignoring ignoring) (calm.later held) (fun _ => rfl)
      fun seven heldSeven historySeven reportedSeven diskSeven => ?_
    have held := held.trans heldSeven
    refine wp_clearing (held.ignoring ignoring) (calm.later held) (excused.later held)
      (held.writes.trans_le few) ?_ fun after further => next after (held.trans further)
    rw [Noted, historySeven, reportedSeven, reportedSix, reportedFive, diskSeven, diskSix]
    rcases part with failed | partRead
    · exact Or.inl (onward failed)
    · exact disk.imp_right fun ⟨isFound, diskIs⟩ => ⟨isFound, partRead, diskIs⟩
  cases found with
  | false =>
      have failed := searched.resolve_left (by simp)
      simp only [Bool.false_eq_true, if_false, wp_done]
      exact clearing false (some false) four heldNow rfl (fun _ => failed) (Or.inl failed) id
  | true =>
      simp only [if_true]
      refine wp_roGet (heldNow.ignoring ignoring) (calm.later heldNow |>.now trivial) fun works' => ?_
      have readDisk := worked_flagRequest four works' (heldNow.writes.trans_le few)
      refine clearing true _ _ (heldNow.trans (held_flagRequest four works')) rfl ?_ ?_
        (held_flagRequest four works').flagFailed
      · intro unread
        refine readDisk.resolve_left fun worked => ?_
        simp [worked] at unread
      · rcases readDisk with worked | failed
        · rw [worked]
          exact Or.inr ⟨rfl, rfl⟩
        · exact Or.inl failed

/-! ### Writing -/

/-- The tablet after a write that stored these bytes. -/
def Tablet.wrote {size : Nat} (tablet : Tablet size) (data : Bytes) (stored : List.Vector UInt8 size)
    (ok : Bool) : Tablet size :=
  { tablet with boot := stored }.note (History.wroteBoot tablet.store data stored.toList ok)

/-- With clear flags the script's own look at them lets the write through. -/
theorem wp_writable {returned : Bool → Tablet device.size → Prop}
    (ignoring : tablet.shell.ignoring = true) (calm : Calm during tablet)
    (few : tablet.history.writes ≤ 1) (clear : Clear tablet)
    (next : ∀ may after, Held tablet after → (may = true ∨ after.history.flagFailed = true) →
      returned may after) :
    wp (machine device) during exited (writable device) returned tablet := by
  unfold writable
  split
  swap
  · exact next true tablet (Held.refl tablet) (Or.inl rfl)
  simp only [Prog.bind_eq, Prog.pure_eq, wp_bind]
  refine wp_roGet ignoring (calm.now trivial) fun works => ?_
  have held := held_flagRequest tablet works
  have readPart := worked_flagRequest tablet works few
  have clearOne := clear.imp_left held.flagFailed
  split
  · rename_i refused
    refine next false _ held (Or.inr ?_)
    rcases clearOne with failed | ⟨partClear, _⟩
    · exact failed
    · refine readPart.resolve_left fun worked => refused ?_
      simp [worked, partClear]
  simp only [wp_bind]
  refine wp_parentDisk (held.ignoring ignoring) (calm.later held |>.now trivial) fun found => ?_
  have heldTwo := held.trans (held_flagRequest _ found)
  have clearTwo := clearOne.imp_left
    (held_flagRequest (tablet.note (History.flagRequest works)) found).flagFailed
  cases found with
  | false => exact next true _ heldTwo (Or.inl rfl)
  | true =>
      simp only [if_true, wp_bind]
      refine wp_roGet (heldTwo.ignoring ignoring) (calm.later heldTwo |>.now trivial) fun works' => ?_
      have heldThree := heldTwo.trans (held_flagRequest _ works')
      have readDisk := worked_flagRequest _ works' (heldTwo.writes.trans_le few)
      refine next _ _ heldThree ?_
      rcases clearTwo with failed | ⟨_, diskClear⟩
      · exact Or.inr ((held_flagRequest _ works').flagFailed failed)
      · refine readDisk.imp_left fun worked => ?_
        simp [worked, Tablet.reported, Tablet.note, diskClear]

theorem wp_catUsable {set : System} {image : Bytes} {returned : Bytes → Tablet device.size → Prop}
    (ignoring : tablet.shell.ignoring = true) (calm : Calm during tablet)
    (usable : Usable device tablet.store set image) (next : returned image tablet) :
    wp (machine device) during exited (catImage (.live set)) returned tablet := by
  refine wp_ignoring ignoring (calm.now trivial) fun _ => ?_
  change returned ((tablet.store.files (.live set)).image.getD []) tablet
  rw [usable.files]
  exact next

/-- write_image of a set that fits: it writes, or a flag request failed. -/
theorem wp_writing {set : System} {image : Bytes} {returned : Bool → Tablet device.size → Prop}
    (ignoring : tablet.shell.ignoring = true) (calm : Calm during tablet)
    (few : tablet.history.writes ≤ 1) (clear : Clear tablet)
    (usable : Usable device tablet.store set image)
    (writes : ∀ mid, Held tablet mid → during (.writeBoot (padded device.size image)) mid)
    (settles : ∀ mid stored ok, Held tablet mid →
      Calm during (mid.wrote (padded device.size image) stored ok))
    (refused : ∀ after, Held tablet after → after.history.flagFailed = true → returned false after)
    (next : ∀ mid stored ok, Held tablet mid →
      returned ok (mid.wrote (padded device.size image) stored ok)) :
    wp (machine device) during exited (writeImage device (.live set)) returned tablet := by
  have fits : ¬image.length > device.size := not_lt.mpr usable.fits
  simp only [writeImage, Prog.bind_eq, Prog.pure_eq, wp_bind]
  refine wp_catUsable ignoring calm usable ?_
  rw [if_neg fits, wp_bind]
  refine wp_writable ignoring calm few clear fun may mid held allowed => ?_
  split
  · rename_i forbidden
    exact refused mid held (allowed.resolve_left forbidden)
  simp only [wp_bind]
  refine wp_ignoring (held.ignoring ignoring) (writes mid held) fun choice => ?_
  obtain ⟨stored, ok⟩ := choice
  change wp (machine device) during exited (if ¬ok = true then _ else _) returned
    (mid.wrote (padded device.size image) stored ok)
  cases ok with
  | false => exact next mid stored false held
  | true =>
      have stays : (mid.wrote (padded device.size image) stored true).shell.ignoring = true :=
        held.ignoring ignoring
      simp only [not_true_eq_false, if_false, wp_bind]
      refine wp_ignoring stays ((settles mid stored true held).now trivial) fun _ => ?_
      split
      · exact next mid stored true held
      · exact wp_ignoring stays ((settles mid stored true held).now trivial) fun _ =>
          next mid stored true held

end Opened

end Liuqin.Switch
