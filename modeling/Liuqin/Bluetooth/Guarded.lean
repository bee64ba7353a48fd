/-
What liuqin-bt-public-addr asks of a controller, for every reply.

Up to the decision only the two readings are sent.  What follows is judged by
the last readings in the log, and an exit with status 0 by what came after the
last power off.
-/

import Mathlib.Data.List.TakeWhile
import Liuqin.Bluetooth.Address

namespace Liuqin.Bluetooth

open Liuqin.Library.Lines Liuqin.Library.Program

/-! ### What a reply shows -/

def Reply.text (reply : Reply) : Text := captured reply.output

/-- One unconfigured controller with this index, of manufacturer 29, whose
public address is missing. -/
structure NamesUnconfigured (target : String) (reply : Reply) : Prop where
  status : reply.status = 0
  single : unconfiguredCount reply.text = some ['1']
  target : (unconfiguredIndex reply.text).map String.ofList = some target
  expected : expectedController reply.text = true

/-- A primary controller with the placeholder for its address. -/
structure ShowsPlaceholder (index : String) (reply : Reply) : Prop where
  status : reply.status = 0
  primary : primaryLine index reply.text = true
  address : currentAddress reply.text = some placeholder

/-- The controller was seen powered, or confirmed the power on. -/
def PoweredAgain (index : String) (entry : Command × Reply) : Prop :=
  entry.2.status = 0 ∧
    (entry.1 = .info index ∧ showsPowered entry.2.text = true ∨
      entry.1 = .powerOn index ∧ completes index "Set Powered" entry.2.text = true)

/-! ### What may be sent, and how the script may end -/

def Command.isPublicAddr : Command → Bool
  | .publicAddr _ _ => true
  | _ => false

def Command.isPowerOff : Command → Bool
  | .powerOff _ => true
  | _ => false

/-- The readings leave the controller alone. -/
def Command.reads : Command → Bool
  | .config | .info _ => true
  | _ => false

/-- The last reading names the one unconfigured controller, or the one before
the power off showed the placeholder. -/
def Sanctioned (index target : String) (log : Log) : Prop :=
  (∃ reply rest, log = (.config, reply) :: rest ∧ NamesUnconfigured target reply) ∨
    (target = index ∧ ∃ off reply rest,
      log = (.powerOff index, off) :: (.info index, reply) :: rest ∧ ShowsPlaceholder index reply)

/-- What holds of the log when a request is sent. -/
def Sends (index address : String) (log : Log) : Command → Prop
  | .publicAddr target value =>
      value = address ∧ (∀ entry ∈ log, entry.1.isPublicAddr = false) ∧ Sanctioned index target log
  | .powerOff target => target = index ∧
      ∃ reply rest, log = (.info index, reply) :: rest ∧ ShowsPlaceholder index reply
  | .powerOn target => target = index ∧
      ∃ reply, (.info index, reply) ∈ log ∧ ShowsPlaceholder index reply ∧
        showsPowered reply.text = true
  | _ => True

def During (index address : String) : Op → Log → Prop
  | .mgmt command, log => Sends index address log command
  | _, _ => True

/-- The part of the log behind the last power off. -/
def sinceOff (log : Log) : Log := log.takeWhile (fun entry => !entry.1.isPowerOff)

/-- The controller was powered when the last power off was sent. -/
def FoundPowered (index : String) (log : Log) : Prop :=
  ∃ off reply rest, log.dropWhile (fun entry => !entry.1.isPowerOff) =
    (.powerOff index, off) :: (.info index, reply) :: rest ∧ showsPowered reply.text = true

/-- A controller that was powered is powered again. -/
def Restored (index : String) (log : Log) : Prop :=
  FoundPowered index log → ∃ entry ∈ sinceOff log, PoweredAgain index entry

def Exited (index : String) (status : Nat) (log : Log) : Prop :=
  status = 0 → Restored index log

/-! ### Requests -/

/-- The log has grown by requests of one kind. -/
def Grown (allowed : Command → Prop) (before after : Log) : Prop :=
  ∃ more, after = more ++ before ∧ ∀ entry ∈ more, allowed entry.1

section Grown

variable {allowed : Command → Prop} {before after : Log}

theorem Grown.refl (log : Log) : Grown allowed log log :=
  ⟨[], rfl, fun _ member => by cases member⟩

theorem Grown.cons {command : Command} (reply : Reply) (grown : Grown allowed before after)
    (fine : allowed command) : Grown allowed before ((command, reply) :: after) := by
  obtain ⟨more, same, each⟩ := grown
  refine ⟨(command, reply) :: more, by rw [same]; rfl, ?_⟩
  intro entry member
  rcases List.mem_cons.mp member with first | rest
  · rw [first]
    exact fine
  · exact each entry rest

theorem Grown.trans {last : Log} (front : Grown allowed before after)
    (back : Grown allowed after last) : Grown allowed before last := by
  obtain ⟨early, same, first⟩ := front
  obtain ⟨late, again, second⟩ := back
  refine ⟨late ++ early, by rw [again, same, List.append_assoc], ?_⟩
  intro entry member
  rcases List.mem_append.mp member with this | that
  · exact second entry this
  · exact first entry that

theorem Grown.mono {other : Command → Prop} (grown : Grown allowed before after)
    (wider : ∀ command, allowed command → other command) : Grown other before after := by
  obtain ⟨more, same, each⟩ := grown
  exact ⟨more, same, fun entry member => wider _ (each entry member)⟩

theorem Grown.mem {entry : Command × Reply} (grown : Grown allowed before after)
    (member : entry ∈ before) : entry ∈ after := by
  obtain ⟨more, same, _⟩ := grown
  rw [same]
  exact List.mem_append_right more member

end Grown

theorem signal_nonzero (signal : Signal) : signal.status ≠ 0 := by
  cases signal <;> decide

section Script

variable {index address : String} {attemptLimit : Nat}
  {exited : Nat → Log → Prop}

/-- How the parts of the script are judged. -/
abbrev Goes {α : Type} (index address : String) (exited : Nat → Log → Prop) (script : Script α)
    (returned : α → Log → Prop) (log : Log) : Prop :=
  wp machine (During index address) exited script returned log

theorem goes_mgmt {β : Type} {command : Command} {next : Reply → Script β}
    {returned : β → Log → Prop} {log : Log} (sends : Sends index address log command)
    (signalled : ∀ reply status, status ≠ 0 → exited status ((command, reply) :: log))
    (behind : ∀ reply : Reply, Goes index address exited
      (next ⟨reply.text, reply.status⟩) returned ((command, reply) :: log)) :
    Goes index address exited ((mgmt command).bind next) returned log := by
  refine ⟨sends, fun fault => ?_⟩
  rcases fault with ⟨value, arrived⟩
  cases arrived with
  | none => exact behind value
  | some signal => exact signalled value signal.status (signal_nonzero signal)

/-- The other commands leave the log alone. -/
theorem goes_aside {β : Type} {operation : Op} (aside : ∀ command, operation ≠ .mgmt command)
    {next : Value operation → Script β} {returned : β → Log → Prop} {log : Log}
    (signalled : ∀ status, status ≠ 0 → exited status log)
    (behind : ∀ value, Goes index address exited (next value) returned log) :
    Goes index address exited ((run operation).bind next) returned log := by
  cases operation with
  | mgmt command => exact absurd rfl (aside command)
  | sleep | say | point =>
      refine ⟨trivial, fun fault => ?_⟩
      rcases fault with ⟨value, arrived⟩
      cases arrived with
      | none => exact behind value
      | some signal => exact signalled signal.status (signal_nonzero signal)

theorem goes_must {operation : Op} (aside : ∀ command, operation ≠ .mgmt command)
    (same : Value operation = Bool) {returned : Unit → Log → Prop} {log : Log}
    (fails : ∀ status, status ≠ 0 → exited status log) (works : returned () log) :
    Goes index address exited (must operation same) returned log := by
  apply goes_aside aside fails
  intro value
  apply wp_ite
  · intro _
    exact works
  · intro _
    exact fails 1 (by omega)

/-! ### The readings -/

def Reads (log : Log) : Prop := ∀ entry ∈ log, entry.1.reads = true

theorem Reads.cons {command : Command} {log : Log} (reads : Reads log)
    (fine : command.reads = true) (reply : Reply) : Reads ((command, reply) :: log) := by
  intro entry member
  rcases List.mem_cons.mp member with first | rest
  · rw [first]
    exact fine
  · exact reads entry rest

/-- What the log shows of a decision. -/
def Decided (index : String) (log : Log) : Found → Prop
  | .configured => True
  | .unconfigured target =>
      ∃ reply rest, log = (.config, reply) :: rest ∧ NamesUnconfigured target reply
  | .placeholder powered =>
      ∃ reply rest, log = (.info index, reply) :: rest ∧ ShowsPlaceholder index reply ∧
        showsPowered reply.text = powered

def Probed (index : String) (found : Option Found) (log : Log) : Prop :=
  Reads log ∧ ∀ value, found = some value → Decided index log value

variable (leaves : ∀ status log, Reads log → exited status log)

include leaves

theorem goes_again {reply : Reply} {log : Log} (reads : Reads log) :
    Goes index address exited (again reply) (Probed index) log := by
  unfold again
  apply wp_ite
  · intro _
    exact ⟨reads, fun value none => by cases none⟩
  · intro _
    apply wp_ite
    · intro _
      exact ⟨reads, fun value none => by cases none⟩
    · intro _
      exact leaves 1 log reads

theorem goes_readInfo {log : Log} (reads : Reads log) :
    Goes index address exited (readInfo index address) (Probed index) log := by
  apply goes_mgmt
  · trivial
  · intro reply status _
    exact leaves status _ (reads.cons rfl reply)
  · intro reply
    have still : Reads ((.info index, reply) :: log) := reads.cons rfl reply
    apply wp_ite
    · intro fine
      simp only [Bool.and_eq_true, decide_eq_true_eq] at fine
      apply wp_ite
      · intro primary
        cases current : currentAddress reply.text with
        | none => exact leaves 1 _ still
        | some value =>
            apply wp_ite
            · intro _
              refine ⟨still, fun found same => ?_⟩
              cases same
              trivial
            · intro _
              apply wp_ite
              · intro stands
                apply wp_ite
                · intro _
                  refine ⟨still, fun found same => ?_⟩
                  cases same
                  refine ⟨reply, log, rfl, ⟨fine.1, primary, ?_⟩, rfl⟩
                  rw [current, stands]
                · intro _
                  exact leaves 1 _ still
              · intro _
                exact leaves 1 _ still
      · intro _
        exact leaves 1 _ still
    · intro _
      exact goes_again leaves still

theorem goes_probe {log : Log} (reads : Reads log) :
    Goes index address exited (probe index address) (Probed index) log := by
  apply goes_mgmt
  · trivial
  · intro reply status _
    exact leaves status _ (reads.cons rfl reply)
  · intro reply
    have still : Reads ((.config, reply) :: log) := reads.cons rfl reply
    apply wp_ite
    · intro fine
      simp only [Bool.and_eq_true, decide_eq_true_eq] at fine
      cases count : unconfiguredCount reply.text with
      | none => exact leaves 1 _ still
      | some value =>
          apply wp_ite
          · intro _
            exact goes_readInfo leaves still
          · intro _
            apply wp_ite
            · intro one
              cases target : unconfiguredIndex reply.text with
              | none => exact leaves 1 _ still
              | some found =>
                  apply wp_ite
                  · intro expected
                    refine ⟨still, fun other same => ?_⟩
                    cases same
                    refine ⟨reply, log, rfl, fine.1, ?_, ?_, expected⟩
                    · rw [count, one]
                    · rw [target]
                      rfl
                  · intro _
                    exact leaves 1 _ still
            · intro _
              exact leaves 1 _ still
    · intro _
      exact goes_again leaves still

theorem goes_discover {log : Log} (reads : Reads log) (attempts : Nat) :
    Goes index address exited (discover index address attempts)
      (fun found later => Reads later ∧ Decided index later found) log := by
  induction attempts generalizing log with
  | zero => exact leaves 1 log reads
  | succ attempts ih =>
      apply wp_seq
      apply wp_returned (goes_probe leaves reads)
      rintro found later ⟨still, decided⟩
      cases found with
      | some value => exact ⟨still, decided value rfl⟩
      | none =>
          apply wp_ite
          · intro _
            exact leaves 1 later still
          · intro _
            apply wp_seq
            apply goes_must
            · intro command same
              cases same
            · intro status _
              exact leaves status later still
            · exact ih still

end Script

/-! ### From the decision on -/

section Changes

variable {index address : String} {attemptLimit : Nat} {exited : Nat → Log → Prop}

/-- A reading in the log that showed the placeholder, powered or not. -/
def Seen (index : String) (powered : Bool) (log : Log) : Prop :=
  ∃ reply, (.info index, reply) ∈ log ∧ ShowsPlaceholder index reply ∧
    showsPowered reply.text = powered

theorem Seen.cons {powered : Bool} {log : Log} (seen : Seen index powered log)
    (entry : Command × Reply) : Seen index powered (entry :: log) := by
  obtain ⟨reply, member, shows⟩ := seen
  exact ⟨reply, List.mem_cons_of_mem entry member, shows⟩

/-- What the restore sends. -/
def Restoring (index : String) (command : Command) : Prop :=
  command.reads = true ∨ command = .powerOn index

/-- What the restore added to the log, and what that shows if it worked. -/
def Tried (index : String) (base : Log) (restored : Bool) (log : Log) : Prop :=
  ∃ more, log = more ++ base ∧ (∀ entry ∈ more, Restoring index entry.1) ∧
    (restored = true → ∃ entry ∈ more, PoweredAgain index entry)

theorem Tried.start (base : Log) : Tried index base false base := by
  refine ⟨[], rfl, ?_, ?_⟩
  · intro entry member
    cases member
  · intro impossible
    cases impossible

theorem Tried.more {base log : Log} {restored : Bool} {command : Command} (reply : Reply)
    (tried : Tried index base false log) (fine : Restoring index command)
    (shows : restored = true → PoweredAgain index (command, reply)) :
    Tried index base restored ((command, reply) :: log) := by
  obtain ⟨more, same, each, _⟩ := tried
  refine ⟨(command, reply) :: more, by rw [same]; rfl, ?_, ?_⟩
  · intro entry member
    rcases List.mem_cons.mp member with first | rest
    · rw [first]
      exact fine
    · exact each entry rest
  · intro worked
    exact ⟨_, List.mem_cons_self, shows worked⟩

theorem goes_restorePower {base log : Log} (seen : Seen index true log)
    (tried : Tried index base false log)
    (leaves : ∀ status log, status ≠ 0 → Seen index true log → exited status log)
    (attempts : Nat) :
    Goes index address exited (restorePower index attempts)
      (fun restored later => Seen index true later ∧ Tried index base restored later) log := by
  induction attempts generalizing log with
  | zero => exact ⟨seen, tried⟩
  | succ attempts ih =>
      apply goes_mgmt
      · trivial
      · intro reply status fails
        exact leaves status _ fails (seen.cons _)
      · intro reply
        have looked := seen.cons (.info index, reply)
        apply wp_ite
        · intro shows
          simp only [Bool.and_eq_true, decide_eq_true_eq] at shows
          refine ⟨looked, tried.more reply (Or.inl rfl) ?_⟩
          intro _
          exact ⟨shows.1, Or.inl ⟨rfl, shows.2⟩⟩
        · intro _
          have tried : Tried index base false ((.info index, reply) :: log) :=
            tried.more reply (Or.inl rfl) (fun impossible => by cases impossible)
          apply goes_mgmt
          · obtain ⟨earlier, member, shows, powered⟩ := looked
            exact ⟨rfl, earlier, member, shows, powered⟩
          · intro output status fails
            exact leaves status _ fails (looked.cons _)
          · intro output
            have again := looked.cons (.powerOn index, output)
            apply wp_ite
            · intro confirms
              simp only [Bool.and_eq_true, decide_eq_true_eq] at confirms
              refine ⟨again, tried.more output (Or.inr rfl) ?_⟩
              intro _
              exact ⟨confirms.1, Or.inr ⟨rfl, confirms.2⟩⟩
            · intro _
              have failed : Tried index base false
                  ((.powerOn index, output) :: (.info index, reply) :: log) :=
                tried.more output (Or.inr rfl) (fun impossible => by cases impossible)
              apply wp_ite
              · intro _
                exact ⟨again, failed⟩
              · intro _
                apply goes_aside
                · intro command same
                  cases same
                · intro status fails
                  exact leaves status _ fails again
                · intro _
                  exact ih again failed

/-- The EXIT trap ends with another status than 0 if it was entered with one. -/
theorem goes_cleanup {powered : Bool} {status : Nat} {log : Log} {returned : Unit → Log → Prop}
    (fails : status ≠ 0) (seen : powered = true → Seen index true log) :
    Goes index address (Exited index) (cleanup index powered status) returned log := by
  cases powered with
  | false =>
      intro zero
      exact absurd zero fails
  | true =>
      apply wp_seq
      apply wp_returned (goes_restorePower (seen rfl) (Tried.start log) _ 3)
      · intro restored later _ zero
        cases restored with
        | false => cases zero
        | true => exact absurd zero fails
      · intro other later bad _ zero
        exact absurd zero bad

theorem goes_await {base log : Log} (grown : Grown (fun command => command.reads = true) base log)
    (leaves : ∀ status log, status ≠ 0 → Grown (fun command => command.reads = true) base log →
      exited status log) (attempts : Nat) :
    Goes index address exited (await index address attempts)
      (fun _ later => Grown (fun command => command.reads = true) base later) log := by
  induction attempts generalizing log with
  | zero => exact leaves 1 log (by omega) grown
  | succ attempts ih =>
      apply goes_mgmt
      · trivial
      · intro reply status fails
        exact leaves status _ fails (grown.cons reply rfl)
      · intro reply
        have more : Grown (fun command => command.reads = true) base
            ((.info index, reply) :: log) := grown.cons reply rfl
        apply wp_ite
        · intro _
          exact more
        · intro _
          apply wp_ite
          · intro _
            exact leaves 1 _ (by omega) more
          · intro _
            apply wp_seq
            apply goes_must
            · intro command same
              cases same
            · intro status fails
              exact leaves status _ fails more
            · exact ih more

/-- After the public address only readings are sent. -/
def Assigned (target address : String) (base log : Log) : Prop :=
  ∃ reply, Grown (fun command => command.reads = true)
    ((.publicAddr target address, reply) :: base) log

theorem goes_assign {target : String} {base : Log}
    (unassigned : ∀ entry ∈ base, entry.1.isPublicAddr = false)
    (sanctioned : Sanctioned index target base)
    (leaves : ∀ status log, status ≠ 0 → Assigned target address base log → exited status log) :
    Goes index address exited (assign index address attemptLimit target)
      (fun _ later => Assigned target address base later) base := by
  apply goes_mgmt
  · exact ⟨rfl, unassigned, sanctioned⟩
  · intro reply status fails
    exact leaves status _ fails ⟨reply, Grown.refl _⟩
  · intro reply
    apply wp_ite
    · intro _
      apply wp_returned (goes_await (Grown.refl _) _ attemptLimit)
      · intro _ later grown
        exact ⟨reply, grown⟩
      · intro status log fails grown
        exact leaves status log fails ⟨reply, grown⟩
    · intro _
      exact leaves 1 _ (by omega) ⟨reply, Grown.refl _⟩

theorem goes_finish {log : Log} {returned : Unit → Log → Prop} (restored : Restored index log) :
    Goes index address (Exited index) finish returned log := by
  apply wp_seq
  apply goes_must
  · intro command same
    cases same
  · intro status fails zero
    exact absurd zero fails
  · intro _
    exact restored

theorem restored_of_none {log : Log} (none : ∀ entry ∈ log, entry.1.isPowerOff = false) :
    Restored index log := by
  rintro ⟨off, reply, rest, split, _⟩
  have all : log.dropWhile (fun entry => !entry.1.isPowerOff) = [] := by
    apply List.dropWhile_eq_nil_iff.mpr
    intro entry member
    rw [none entry member]
    rfl
  rw [all] at split
  cases split

/-- What follows the last power off decides. -/
theorem restored_append {more base : Log} {off : Reply}
    (each : ∀ entry ∈ more, entry.1.isPowerOff = false)
    (restored : (∃ reply rest, base = (.info index, reply) :: rest ∧
      showsPowered reply.text = true) → ∃ entry ∈ more, PoweredAgain index entry) :
    Restored index (more ++ (.powerOff index, off) :: base) := by
  have passes : ∀ entry ∈ more, (!entry.1.isPowerOff) = true := by
    intro entry member
    rw [each entry member]
    rfl
  have back : (more ++ (.powerOff index, off) :: base).dropWhile
      (fun entry => !entry.1.isPowerOff) = (.powerOff index, off) :: base := by
    rw [List.dropWhile_append_of_pos passes]
    exact List.dropWhile_cons_of_neg (by simp [Command.isPowerOff])
  have front : sinceOff (more ++ (.powerOff index, off) :: base) = more := by
    unfold sinceOff
    rw [List.takeWhile_append_of_pos passes, List.takeWhile_cons_of_neg, List.append_nil]
    simp [Command.isPowerOff]
  rintro ⟨other, reply, rest, split, powered⟩
  rw [back] at split
  cases split
  rw [front]
  exact restored ⟨reply, rest, rfl, powered⟩

theorem Reads.unassigned {log : Log} (reads : Reads log) :
    ∀ entry ∈ log, entry.1.isPublicAddr = false ∧ entry.1.isPowerOff = false := by
  rintro ⟨command, reply⟩ member
  have fine := reads _ member
  cases command with
  | config => exact ⟨rfl, rfl⟩
  | info index => exact ⟨rfl, rfl⟩
  | powerOff index => cases fine
  | powerOn index => cases fine
  | publicAddr index address => cases fine

theorem Reads.restored {log : Log} (reads : Reads log) : Restored index log :=
  restored_of_none (fun entry member => (reads.unassigned entry member).2)

/-- The log between the power off and the end. -/
def Behind (index : String) (powered : Bool) (base log : Log) : Prop :=
  ∃ off more, log = more ++ (.powerOff index, off) :: base ∧
    (∀ entry ∈ more, entry.1.isPowerOff = false) ∧
    (powered = true → ∃ entry ∈ more, PoweredAgain index entry)

theorem Grown.seen {allowed : Command → Prop} {powered : Bool} {before after : Log}
    (grown : Grown allowed before after) (seen : Seen index powered before) :
    Seen index powered after := by
  obtain ⟨reply, member, shows⟩ := seen
  exact ⟨reply, grown.mem member, shows⟩

theorem Assigned.seen {target : String} {powered : Bool} {base log : Log}
    (assigned : Assigned target address base log) (seen : Seen index powered base) :
    Seen index powered log := by
  obtain ⟨reply, grown⟩ := assigned
  exact grown.seen (seen.cons _)

theorem Restoring.stays {command : Command} (restoring : Restoring index command) :
    command.isPowerOff = false := by
  rcases restoring with reads | on
  · cases command with
    | powerOff index => cases reads
    | _ => rfl
  · rw [on]
    rfl

theorem goes_reassign {powered : Bool} {reply : Reply} {rest : Log}
    (reads : Reads ((.info index, reply) :: rest)) (shows : ShowsPlaceholder index reply)
    (seen : showsPowered reply.text = powered)
    (leaves : ∀ status log, status ≠ 0 → Seen index powered log → exited status log) :
    Goes index address exited (reassign index address attemptLimit powered)
      (fun _ later => Behind index powered ((.info index, reply) :: rest) later)
      ((.info index, reply) :: rest) := by
  have here : Seen index powered ((.info index, reply) :: rest) :=
    ⟨reply, List.mem_cons_self, shows, seen⟩
  apply goes_aside
  · intro command same
    cases same
  · intro status fails
    exact leaves status _ fails here
  · intro _
    apply wp_seq
    apply goes_mgmt
    · exact ⟨rfl, reply, rest, rfl, shows⟩
    · intro off status fails
      exact leaves status _ fails (here.cons _)
    · intro off
      have unassigned : ∀ entry ∈ (Command.powerOff index, off) :: (.info index, reply) :: rest,
          entry.1.isPublicAddr = false := by
        intro entry member
        rcases List.mem_cons.mp member with first | earlier
        · rw [first]
          rfl
        · exact (reads.unassigned entry earlier).1
      apply wp_ite
      · intro _
        apply wp_seq
        apply wp_returned (goes_assign unassigned
          (Or.inr ⟨rfl, off, reply, rest, rfl, shows⟩) _)
        · rintro _ later ⟨output, more, same, each⟩
          have stays : ∀ entry ∈ more ++ [(Command.publicAddr index address, output)],
              entry.1.isPowerOff = false := by
            intro entry member
            rcases List.mem_append.mp member with this | that
            · have fine := each entry this
              rcases entry with ⟨command, answer⟩
              cases command with
              | powerOff index => cases fine
              | _ => rfl
            · rw [List.mem_singleton.mp that]
              rfl
          have split : later = (more ++ [(Command.publicAddr index address, output)]) ++
              (.powerOff index, off) :: (.info index, reply) :: rest := by
            rw [same, List.append_assoc]
            rfl
          cases powered with
          | false =>
              refine ⟨off, _, split, stays, ?_⟩
              intro impossible
              cases impossible
          | true =>
              have looked : Seen index true later := by
                rw [split]
                obtain ⟨earlier, member, rest⟩ := here
                refine ⟨earlier, ?_, rest⟩
                exact List.mem_append_right _ (List.mem_cons_of_mem _ member)
              apply wp_seq
              apply wp_returned (goes_restorePower looked (Tried.start later) leaves 3)
              rintro restored last ⟨still, tried, same, each, worked⟩
              cases restored with
              | false => exact leaves 1 last (by omega) still
              | true =>
                  refine ⟨off, tried ++ (more ++ [(Command.publicAddr index address, output)]),
                    ?_, ?_, ?_⟩
                  · rw [same, split, List.append_assoc tried]
                  · intro entry member
                    rcases List.mem_append.mp member with this | that
                    · exact (each entry this).stays
                    · exact stays entry that
                  · intro _
                    obtain ⟨entry, member, again⟩ := worked rfl
                    exact ⟨entry, List.mem_append_left _ member, again⟩
        · intro status log fails assigned
          exact leaves status log fails (assigned.seen (here.cons _))
      · intro _
        exact leaves 1 _ (by omega) (here.cons _)

theorem goes_replace {powered : Bool} {reply : Reply} {rest : Log} {returned : Unit → Log → Prop}
    (reads : Reads ((.info index, reply) :: rest)) (shows : ShowsPlaceholder index reply)
    (seen : showsPowered reply.text = powered) :
    Goes index address (Exited index) (replace index address attemptLimit powered) returned
      ((.info index, reply) :: rest) := by
  apply wp_seq
  rw [wp_onExit]
  apply wp_returned (goes_reassign reads shows seen _)
  · rintro _ later ⟨off, more, same, stays, worked⟩
    apply goes_finish
    rw [same]
    apply restored_append stays
    rintro ⟨other, tail, base, on⟩
    cases base
    exact worked (seen.symm.trans on)
  · intro status log fails looked
    apply goes_cleanup fails
    intro on
    rw [on] at looked
    exact looked

theorem goes_main {returned : Unit → Log → Prop} :
    Goes index address (Exited index) (main index address attemptLimit) returned [] := by
  have leaves : ∀ status log, Reads log → Exited index status log :=
    fun _ _ reads _ => reads.restored
  apply wp_seq
  apply wp_returned (goes_discover leaves (fun _ member => by cases member) attemptLimit)
  rintro found log ⟨reads, decided⟩
  cases found with
  | configured => exact goes_finish reads.restored
  | unconfigured target =>
      obtain ⟨reply, rest, same, names⟩ := decided
      apply wp_seq
      have quiet : ∀ {later}, Assigned target address log later → Restored index later := by
        rintro later ⟨output, more, split, each⟩
        apply restored_of_none
        intro entry member
        rw [split] at member
        rcases List.mem_append.mp member with this | that
        · have fine := each entry this
          rcases entry with ⟨command, answer⟩
          cases command with
          | powerOff index => cases fine
          | _ => rfl
        · rcases List.mem_cons.mp that with first | earlier
          · rw [first]
            rfl
          · exact (reads.unassigned entry earlier).2
      apply wp_returned (goes_assign (fun entry member => (reads.unassigned entry member).1)
        (Or.inl ⟨reply, rest, same, names⟩) _)
      · intro _ later assigned
        exact goes_finish (quiet assigned)
      · intro status later _ assigned _
        exact quiet assigned
  | placeholder powered =>
      obtain ⟨reply, rest, same, shows, seen⟩ := decided
      rw [same] at reads ⊢
      exact goes_replace reads shows seen

end Changes

/-! ### Every run -/

/-- In every run: a request that changes the controller is sent only in a log
that sanctions it, the public address at most once and only the provisioned
one; and a run that leaves with status 0 after it powered a powered controller
off has seen it powered again, or has the power on confirmed. -/
theorem programming_guarded (index : String) (attemptLimit : Nat) (content : Text)
    {configuration : Script Unit × Log}
    (run : Reaches machine (helper index attemptLimit content, []) configuration) :
    (∀ command next, configuration.1 = .act (.mgmt command) next →
      ∃ address, provisioned content = some address ∧
        Sends index address configuration.2 command) ∧
    (∀ status, configuration.1 = .exit status → status = 0 → Restored index configuration.2) := by
  unfold helper at run
  cases known : provisioned content with
  | none =>
      rw [known] at run
      have holds : wp machine (fun _ _ => False) (fun status _ => status ≠ 0)
          (die : Script Unit) (fun _ _ => True) [] := by
        intro zero
        cases zero
      have later := wp_reaches run holds
      rcases configuration with ⟨script, log⟩
      constructor
      · intro command next due
        cases due
        exact later.1.elim
      · intro status left zero
        cases left
        exact absurd zero later
  | some address =>
      rw [known] at run
      have holds : wp machine (During index address) (Exited index)
          (main index address attemptLimit) (fun _ _ => True) [] := goes_main
      have later := wp_reaches run holds
      rcases configuration with ⟨script, log⟩
      constructor
      · intro command next due
        cases due
        exact ⟨address, rfl, later.1⟩
      · intro status left
        cases left
        exact later

def provisionedFile : Text := "F4:02:28:11:22:33\n".toList

def configReply : Text :=
  ("Unconfigured index list with 1 item\nhci1:\tUnconfigured controller\n\tmanufacturer 29\n" ++
    "\tsupported options: public-address\n\tmissing options: public-address\n").toList

/-- The config reply of the controller this is for, and silence otherwise. -/
def measured (_ : Nat) : (operation : Op) → Log → Fault operation
  | .mgmt _, _ => ⟨⟨configReply, 0⟩, none⟩
  | .sleep, _ => ⟨true, none⟩
  | .say, _ => ⟨true, none⟩
  | .point, _ => ⟨true, none⟩

theorem measured_sanctioned :
    ∃ log address, provisioned provisionedFile = some address ∧ Sanctioned "0" "1" log := by
  have due : (play machine measured 1 (helper "0" 10 provisionedFile, [])).1.pending =
      some (.mgmt (.publicAddr "1" "f4:02:28:11:22:33")) := by
    decide +kernel
  obtain ⟨next, run⟩ := acts_of_play machine measured 1 due
  obtain ⟨address, known, _, _, sanctioned⟩ :=
    (programming_guarded "0" 10 provisionedFile run).1 _ next rfl
  exact ⟨_, address, known, sanctioned⟩

end Liuqin.Bluetooth
