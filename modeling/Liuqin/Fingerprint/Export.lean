/-
The database export: what store_database leaves at the output path.

The file ends up holding the chunks the application handed out, in order, and
a result of zero means that it holds all of them.
-/

import Liuqin.Fingerprint.Rules

namespace Liuqin.Fingerprint

open Liuqin.Library.Program

/-! ### What was handed out -/

def sizeCode : Nat × Nat := (4, 6)

def chunkCode : Nat × Nat := (4, 16)

/-- The chunks of an invocation, when it is one of 4/16. -/
def Invocation.chunk (past : Invocation) : Bytes :=
  if past.request.code = chunkCode then bytesAt past.payload 16 past.request.word3 else []

/-- The chunks in the order they came, from a log newest first. -/
def exported (log : List Invocation) : Bytes := (log.reverse.map Invocation.chunk).flatten

@[simp] theorem exported_nil : exported [] = [] := rfl

@[simp] theorem exported_append (newer older : List Invocation) :
    exported (newer ++ older) = exported older ++ exported newer := by
  simp [exported]

theorem exported_cons (newest : Invocation) (older : List Invocation) :
    exported (newest :: older) = exported older ++ newest.chunk := by
  simp [exported]

theorem exported_eq_nil {log : List Invocation}
    (none : ∀ past ∈ log, past.request.code ≠ chunkCode) : exported log = [] := by
  rw [exported, List.flatten_eq_nil_iff]
  intro chunk member
  obtain ⟨past, inLog, rfl⟩ := List.mem_map.mp member
  rw [Invocation.chunk, if_neg (none past (List.mem_reverse.mp inLog))]

/-- The output file holds the whole database, on the disk. -/
structure Exported (client : Client) : Prop where
  whole : ∃ bytes, client.output = .own bytes true ∧ bytes = exported client.log ∧ bytes ≠ []
  announced : ∃ size ∈ client.log, size.request.code = sizeCode ∧ size.status = 0 ∧
    wordAt size.payload 3 = (exported client.log).length

theorem Later.exported {allowed : Nat × Nat → Prop} {before after : Client}
    (later : Later allowed before after) (apart : ¬allowed chunkCode) :
    exported after.log = exported before.log := by
  obtain ⟨added, grown, codes⟩ := later
  have none := exported_eq_nil fun past member code => apart (code ▸ codes past member)
  rw [grown.log, exported_append, none, List.append_nil]

theorem Later.own_iff {allowed : Nat × Nat → Prop} {before after : Client}
    (later : Later allowed before after) (bytes : Bytes) (synced : Bool) :
    after.output = .own bytes synced ↔ before.output = .own bytes synced := by
  obtain ⟨added, grown, _⟩ := later
  exact grown.own bytes synced

theorem Exported.later {allowed : Nat × Nat → Prop} {before after : Client}
    (complete : Exported before) (later : Later allowed before after)
    (apart : ¬allowed chunkCode) : Exported after := by
  obtain ⟨bytes, own, whole, some⟩ := complete.whole
  obtain ⟨size, member, code, status, length⟩ := complete.announced
  have same := later.exported apart
  constructor
  · exact ⟨bytes, (later.own_iff bytes true).mpr own, by rw [same]; exact whole, some⟩
  · exact ⟨size, later.appended.mem member, code, status, by rw [same]; exact length⟩

/-! ### The loops -/

section Loops

variable {during : ClientOp → Client → Prop} {exited : Nat → Client → Prop} {client : Client}

/-- A run's own file, with what was written to it. -/
def Own (bytes : Bytes) (client : Client) : Prop := ∃ synced, client.output = .own bytes synced

theorem Grown.own_iff {before after : Client} {added : List Invocation}
    (grown : Grown before after added) (bytes : Bytes) : Own bytes after ↔ Own bytes before := by
  simp only [Own, grown.own]

theorem disturbed_kept {bytes : Bytes} {synced : Bool} (holds : client.output = .own bytes synced)
    (signal : Bool) (outside : Option (Option Bytes)) :
    (client.disturbed signal outside).output = .own bytes synced :=
  ((disturbed_grown client signal outside).own bytes synced).mpr holds

/-- A write to the run's own file. -/
def Client.wrote (client : Client) (bytes : Bytes) (synced : Bool) : Client :=
  { client with output := .own bytes synced }

theorem react_write {written : Bytes} {synced : Bool} (holds : client.output = .own written synced)
    (bytes : Bytes) (offered : Nat) :
    clientReact (.writeOutput bytes) (some offered : Option Nat) client =
      (some (min offered bytes.length),
        client.wrote (written ++ bytes.take (min offered bytes.length)) false) := by
  simp only [clientReact, holds]
  rfl

theorem react_fsync {written : Bytes} {synced : Bool} (holds : client.output = .own written synced)
    (works : Bool) :
    clientReact .fsyncOutput works client = (works, client.wrote written (synced || works)) := by
  simp only [clientReact, holds]
  rfl

theorem wp_react {operation : ClientOp} {returned : ClientAnswer operation → Client → Prop}
    (ongoing : during operation client)
    (next : ∀ answer signal outside,
      returned (clientReact operation answer (client.disturbed signal outside)).1
        (clientReact operation answer (client.disturbed signal outside)).2) :
    wp clientMachine during exited (call operation) returned client :=
  ⟨ongoing, fun fault => next fault.answer fault.signal fault.outside⟩

theorem wp_writeOutput {bytes written : Bytes} {returned : Option Nat → Client → Prop}
    (own : Own written client) (ongoing : during (.writeOutput bytes) client)
    (failed : ∀ after, after.log = client.log → Own written after → returned none after)
    (next : ∀ count after, after.log = client.log → Own (written ++ bytes.take count) after →
      returned (some count) after) :
    wp clientMachine during exited (writeOutput bytes) returned client := by
  obtain ⟨synced, holds⟩ := own
  refine wp_react ongoing fun answer signal outside => ?_
  have kept := disturbed_kept holds signal outside
  rcases answer with _ | offered
  · exact failed _ rfl ⟨synced, kept⟩
  · rw [react_write kept bytes offered]
    exact next _ _ rfl ⟨false, rfl⟩

theorem wp_fsyncOutput {written : Bytes} {returned : Bool → Client → Prop}
    (own : Own written client) (ongoing : during .fsyncOutput client)
    (failed : ∀ after, after.log = client.log → Own written after → returned false after)
    (next : ∀ after, after.log = client.log → after.output = .own written true →
      returned true after) :
    wp clientMachine during exited fsyncOutput returned client := by
  obtain ⟨synced, holds⟩ := own
  refine wp_react ongoing fun answer signal outside => ?_
  have kept := disturbed_kept holds signal outside
  rw [react_fsync kept answer]
  cases answer with
  | false => exact failed _ rfl ⟨_, rfl⟩
  | true => exact next _ rfl (by rw [Bool.or_true]; rfl)

/-- O_EXCL: a created file is new. -/
theorem wp_createOutput {returned : Bool → Client → Prop} (ongoing : during .createOutput client)
    (failed : ∀ after, Grown client after [] → returned false after)
    (next : ∀ after, after.log = client.log → Own [] after → returned true after) :
    wp clientMachine during exited createOutput returned client := by
  refine wp_react ongoing fun answer signal outside => ?_
  by_cases works : answer = true ∧ (client.disturbed signal outside).output = .absent
  · have reacted : clientReact .createOutput answer (client.disturbed signal outside) =
        (true, (client.disturbed signal outside).wrote [] false) := if_pos works
    rw [reacted]
    exact next _ rfl ⟨false, rfl⟩
  · have reacted : clientReact .createOutput answer (client.disturbed signal outside) =
        (false, client.disturbed signal outside) := if_neg works
    rw [reacted]
    exact failed _ (disturbed_grown client signal outside)

theorem wp_unlinkOutput {returned : Unit → Client → Prop} (ongoing : during .unlinkOutput client)
    (next : ∀ after, after.log = client.log → returned () after) :
    wp clientMachine during exited unlinkOutput returned client :=
  ⟨ongoing, fun _ => next _ rfl⟩

section Calm

variable (calm : ∀ operation : ClientOp, operation.Silent → ∀ after, during operation after)
  (writing : ∀ bytes after, during (.writeOutput bytes) after)

include calm writing

theorem wp_writeDatabase {bytes written : Bytes} {returned : Unit → Client → Prop}
    (own : Own written client)
    (leaving : ∀ part after, after.log = client.log → Own part after → exited 1 after)
    (next : ∀ after, after.log = client.log → Own (written ++ bytes) after → returned () after) :
    wp clientMachine during exited (writeDatabase bytes) returned client := by
  induction sized : bytes.length using Nat.strong_induction_on generalizing bytes written client with
  | _ size ih =>
      rw [writeDatabase]
      refine wp_ite (fun empty => ?_) fun more => ?_
      · rw [empty, List.append_nil] at next
        exact next client rfl own
      · have failure : ∀ after part, after.log = client.log → Own part after →
            wp clientMachine during exited
              (do fprintf "write_database\n"; gotoOut : ClientScript Unit) returned after :=
          fun after part log own => wp_seq (wp_fprintf calm (fun last printed =>
            leaving part last (printed.log.trans log) ((printed.own_iff part).mpr own)) _)
        refine wp_seq (wp_writeOutput own (writing _ _) (fun after log own => ?_)
          fun count after log own => ?_)
        · exact failure after written log own
        · cases count with
          | zero => exact failure after _ log own
          | succ count =>
              have shorter : (bytes.drop (count + 1)).length < size := by
                have positive := List.length_pos_iff.mpr more
                rw [List.length_drop]
                omega
              refine ih _ shorter own (fun part last kept => ?_) (fun last kept whole => ?_) rfl
              · exact leaving part last (kept.trans log)
              · rw [List.append_assoc, List.take_append_drop] at whole
                exact next last (kept.trans log) whole

section Session

variable {session : Nat} (sending : ∀ request : Request, request.module = 4 → ∀ after,
  during (.invoke session request) after)

include sending

theorem wp_exportLoop {remaining : Nat} {returned : Unit → Client → Prop}
    (own : Own (exported client.log) client)
    (leaving : ∀ part after, Appended (fun code => code = chunkCode) client after →
      Own part after → exited 1 after)
    (next : ∀ after, Appended (fun code => code = chunkCode) client after →
      Own (exported after.log) after →
      (exported after.log).length = (exported client.log).length + remaining → returned () after) :
    wp clientMachine during exited (exportLoop session remaining) returned client := by
  induction remaining using Nat.strong_induction_on generalizing client with
  | _ remaining ih =>
      rw [exportLoop]
      refine wp_ite (fun finished => ?_) fun more => ?_
      · exact next client (.of_eq rfl) own (by rw [finished, Nat.add_zero])
      · refine wp_seq (wp_dbCommand calm _ _ _ (fun request after code _ => ?_)
          (fun payload first unsent => ?_) fun status payload first grown => ?_)
        · exact sending request (congrArg Prod.fst code) after
        · refine wp_ite (fun _ => wp_seq (wp_fprintf calm (fun last printed => ?_) _))
            fun agreed => absurd (Or.inl (by decide)) agreed
          have silent := unsent.trans printed
          exact leaving _ last (.of_eq silent.log) ((silent.own_iff _).mpr own)
        · have came : Appended (fun code => code = chunkCode) client first := grown.appended rfl
          have mine := (grown.own_iff _).mpr own
          have handed : exported first.log =
              exported client.log ++ bytesAt payload 16 (min remaining chunkSize) := by
            rw [grown.log, List.singleton_append, exported_cons]
            rfl
          refine wp_ite (fun _ => wp_seq (wp_fprintf calm (fun last printed => ?_) _)) fun _ => ?_
          · exact leaving _ last (came.trans (.of_eq printed.log)) ((printed.own_iff _).mpr mine)
          · refine wp_seq (wp_writeDatabase calm writing mine (fun part last log left => ?_)
              fun second log whole => ?_)
            · exact leaving part last (came.trans (.of_eq log)) left
            · have positive : 0 < min remaining chunkSize := by
                simp only [chunkSize, payloadSize]
                omega
              have total : (exported second.log).length =
                  (exported client.log).length + min remaining chunkSize := by
                rw [log, handed, List.length_append, bytesAt_length]
              have so_far := came.trans (.of_eq log)
              rw [← handed, ← log] at whole
              refine ih (remaining - min remaining chunkSize) (by omega) whole
                (fun part last later left => leaving part last (so_far.trans later) left)
                fun last later done counted => next last (so_far.trans later) done ?_
              rw [counted, total]
              omega

/-- The state of the file after the export and before the finish command. -/
def Taken (before : Client) (total : Nat) (created : Bool) (complete : Int) (after : Client) :
    Prop :=
  Appended (fun code => code = chunkCode) before after ∧
  (created = true → ∃ bytes, Own bytes after) ∧
  (complete = 0 → created = true ∧ after.output = .own (exported after.log) true ∧
    (exported after.log).length = total)

theorem wp_exportFile {total : Nat} {returned : Bool × Int → Client → Prop}
    (fresh : exported client.log = []) (creating : during .createOutput client)
    (syncing : ∀ after, during .fsyncOutput after)
    (next : ∀ created complete after, Taken client total created complete after →
      returned (created, complete) after) :
    wp clientMachine during exited (exportFile session total) returned client := by
  refine wp_seq (wp_createOutput creating (fun first absent => ?_) fun first log own => ?_)
  · refine wp_ite (fun impossible => absurd impossible (by decide)) fun _ => ?_
    refine wp_seq (wp_fprintf calm (fun last printed => ?_) _)
    refine next false (-1) last ⟨.of_eq (absent.trans printed).log, ?_, ?_⟩
    · intro impossible
      cases impossible
    · intro impossible
      cases impossible
  · refine wp_ite (fun _ => ?_) fun impossible => absurd rfl impossible
    have empty : exported first.log = [] := by
      rw [log]
      exact fresh
    have failing : ∀ part after, Appended (fun code => code = chunkCode) client after →
        Own part after → returned (true, -1) after := by
      intro part after later left
      refine next true (-1) after ⟨later, fun _ => ⟨part, left⟩, fun impossible => ?_⟩
      cases impossible
    refine wp_seq ?_
    rw [returning, wp_onExit]
    rw [← empty] at own
    refine wp_seq (wp_exportLoop calm writing sending own (fun part after later left => ?_)
      fun second later done counted => ?_)
    · exact failing part after ((Appended.of_eq log).trans later) left
    · refine wp_seq (wp_fsyncOutput done (syncing _) (fun third same left => ?_)
        fun third same durable => ?_)
      · refine wp_ite (fun impossible => absurd impossible (by decide)) fun _ => ?_
        refine wp_seq (wp_fprintf calm (fun last printed => ?_) _)
        refine failing _ last ?_ ((printed.own_iff _).mpr left)
        exact (Appended.of_eq log).trans (later.trans (.of_eq (printed.log.trans same)))
      · refine wp_ite (fun _ => ?_) fun impossible => absurd rfl impossible
        rw [← same] at durable counted
        refine next true 0 third ⟨?_, fun _ => ⟨_, true, durable⟩, fun _ => ⟨rfl, durable, ?_⟩⟩
        · exact (Appended.of_eq log).trans (later.trans (.of_eq same))
        · rw [counted, empty, List.length_nil, Nat.zero_add]

omit writing sending in
theorem wp_closeExport {ended complete : Int} {returned : Int → Client → Prop}
    (mine : ∃ bytes, Own bytes client)
    (removing : ∀ bytes after, Own bytes after → during .unlinkOutput after)
    (next : ∀ result after, after.log = client.log →
      (result = 0 → ended = 0 ∧ (complete = 0 → Grown client after [])) → returned result after) :
    wp clientMachine during exited (closeExport ended complete) returned client := by
  obtain ⟨bytes, own⟩ := mine
  refine wp_seq (wp_call calm trivial fun closed first grown => ?_)
  refine wp_seq (wp_runIf (fun incomplete => ?_) fun _ => ?_)
  · refine wp_unlinkOutput (removing bytes first ((grown.own_iff bytes).mpr own)) fun last log => ?_
    refine next _ last (log.trans grown.log) fun good => ?_
    exact absurd good incomplete.1
  · refine next _ first grown.log fun good => ⟨?_, fun _ => grown⟩
    cases closed with
    | true => exact good
    | false => cases good

omit writing in
theorem wp_finish {returned : Int × Memory → Client → Prop}
    (next : ∀ finished payload after, Later (fun code => code = (4, 15)) client after →
      returned (finished, payload) after) :
    wp clientMachine during exited (dbCommand session 15 0 0 []) returned client := by
  refine wp_dbCommand calm _ _ _ (fun request after code _ => ?_) (fun payload after unsent => ?_)
    fun status payload after grown => ?_
  · exact sending request (congrArg Prod.fst code) after
  · exact next _ _ after unsent.later
  · exact next _ _ after (grown.later_one rfl)

theorem wp_storeDatabase {returned : Int → Client → Prop} (fresh : exported client.log = [])
    (creating : ∀ after, Appended (fun code => code.1 = 4) client after →
      during .createOutput after)
    (syncing : ∀ after, during .fsyncOutput after)
    (removing : ∀ bytes after, Own bytes after → during .unlinkOutput after)
    (next : ∀ result after, Appended (fun code => code.1 = 4) client after →
      (result = 0 → Exported after) → returned result after) :
    wp clientMachine during exited (storeDatabase session) returned client := by
  have failing : ∀ {after : Client}, Appended (fun code => code.1 = 4) client after →
      returned (-1) after := fun later => next (-1) _ later fun impossible => by cases impossible
  refine wp_seq (wp_dbCommand calm _ _ _ (fun request after code _ => ?_)
    (fun payload first unsent => ?_) fun status payload first grown => ?_)
  · exact sending request (congrArg Prod.fst code) after
  · exact wp_ite (fun _ => failing (.of_eq unsent.log)) fun good => absurd (by decide) good
  · have sized : Appended (fun code => code.1 = 4) client first := grown.appended rfl
    refine wp_ite (fun _ => failing sized) fun good => wp_ite (fun _ => ?_) fun bounded => ?_
    · exact wp_seq (wp_fprintf calm (fun last printed => failing (sized.trans (.of_eq printed.log))) _)
    · have empty : exported first.log = [] := by
        rw [grown.log, List.singleton_append, exported_cons, fresh]
        rfl
      refine wp_seq (wp_dbCommand calm _ _ _ (fun request after code _ => ?_)
        (fun other second unsent => ?_) fun begun other second started => ?_)
      · exact sending request (congrArg Prod.fst code) after
      · exact wp_ite (fun _ => failing (sized.trans (.of_eq unsent.log)))
          fun good => absurd (by decide) good
      · have ready : Appended (fun code => code.1 = 4) client second :=
          sized.trans (started.appended rfl)
        refine wp_ite (fun _ => failing ready) fun _ => ?_
        have stillEmpty : exported second.log = [] := by
          rw [started.log, List.singleton_append, exported_cons, empty]
          rfl
        refine wp_seq (wp_exportFile calm writing sending stillEmpty (creating second ready) syncing
          fun created complete third taken => ?_)
        obtain ⟨chunks, mine, whole⟩ := taken
        have came : Appended (fun code => code.1 = 4) client third :=
          ready.trans (chunks.mono fun code is => by rw [is]; rfl)
        have announced : ∃ size ∈ third.log, size.request.code = sizeCode ∧ size.status = 0 ∧
            wordAt size.payload 3 = wordAt payload 3 := by
          have logged : _ ∈ first.log := grown.log ▸ List.mem_append_left _ List.mem_cons_self
          have begun : Appended (fun _ => True) first second := started.appended trivial
          have carried := begun.trans (chunks.mono fun _ _ => trivial)
          exact ⟨_, carried.mem logged, rfl, not_not.mp good, rfl⟩
        refine wp_seq (wp_finish calm sending fun finished other fourth later => ?_)
        have ending : Appended (fun code => code.1 = 4) client fourth :=
          came.trans (later.appended.mono fun code is => by rw [is])
        have exportedNow : ∀ last : Client, Grown fourth last [] → complete = 0 →
            Exported last := by
          intro last grown good
          obtain ⟨_, durable, counted⟩ := whole good
          have done : Exported third := by
            refine ⟨⟨_, durable, rfl, fun empty => ?_⟩, ?_⟩
            · rw [empty, List.length_nil] at counted
              exact bounded (Or.inl counted.symm)
            · rw [counted]
              exact announced
          have apart : ¬(4, 15) = chunkCode := by decide
          exact (done.later later fun is => apart is.symm).later
            (grown.later : Later (fun _ => False) _ _) id
        have closing : ∀ result last, last.log = fourth.log →
            (result = 0 → complete = 0 ∧ Grown fourth last []) →
            wp clientMachine during exited
              (do
                runIf (result ≠ 0 ∧ complete = 0)
                  (fprintf "db_file_preserved cleanup_or_close_failed=1\n")
                runIf (result = 0) (printf ("db_export=OK bytes=" ++
                  toString (wordAt payload 3) ++ " biometric_validation=unverified\n"))
                return result) returned last := by
          intro result last log good
          refine wp_seq (wp_fprintIf calm (fun fifth complained => ?_) _ _)
          refine wp_seq (wp_printIf calm (fun sixth printed => ?_) _ _)
          have said := complained.trans printed
          refine next result sixth (ending.trans (.of_eq (said.log.trans log))) fun zero => ?_
          obtain ⟨complete, grown⟩ := good zero
          exact exportedNow sixth (grown.trans said) complete
        refine wp_seq (wp_ite (fun made => ?_) fun _ => ?_)
        · obtain ⟨bytes, own⟩ := mine made
          have still : Own bytes fourth := by
            obtain ⟨synced, holds⟩ := own
            exact ⟨synced, (later.own_iff bytes synced).mpr holds⟩
          refine wp_closeExport calm ⟨bytes, still⟩ removing fun result last log good => ?_
          exact closing result last log fun zero => by
            have ended := (good zero).1
            split at ended
            · cases ended
            · exact ⟨ended, (good zero).2 ended⟩
        · refine closing _ fourth rfl fun zero => ?_
          split at zero
          · cases zero
          · exact ⟨zero, Grown.refl fourth⟩

end Session

end Calm

end Loops

end Liuqin.Fingerprint
