/-
Which TEE commands a function of the client sends.

A command is known by its two code words.  The functions here neither create,
write nor remove the output file.
-/

import Liuqin.Fingerprint.Pipeline

namespace Liuqin.Fingerprint

open Liuqin.Library.Program

/-- A TEE command of an allowed code, or a system call that leaves the output
file alone.  The pipes to the provider go with the command that takes a token. -/
def ClientOp.Sends (allowed : Nat × Nat → Prop) : ClientOp → Prop
  | .invoke _ request => allowed request.code
  | .writeChallenge _ => allowed (3, 3)
  | .pollHat _ => allowed (3, 3)
  | .readHat _ => allowed (3, 3)
  | .createOutput => False
  | .writeOutput _ => False
  | .fsyncOutput => False
  | .unlinkOutput => False
  | _ => True

/-- All of a script's commands are of that kind; any exit will do. -/
abbrev Sends {α : Type} (allowed : Nat × Nat → Prop) (script : ClientScript α) : Prop :=
  script.Only (ClientOp.Sends allowed) fun _ => True

section Sends

variable {allowed : Nat × Nat → Prop} {α β : Type}

theorem sends_bind {first : ClientScript α} {next : α → ClientScript β}
    (front : Sends allowed first) (back : ∀ value, Sends allowed (next value)) :
    Sends allowed (first.bind next) := Prog.only_bind front back

theorem sends_done (value : α) : Sends allowed (.done value : ClientScript α) := trivial

theorem sends_exit (status : Nat) : Sends allowed (.exit status : ClientScript α) := trivial

theorem sends_ite {condition : Prop} [Decidable condition] {yes no : ClientScript α}
    (positive : Sends allowed yes) (negative : Sends allowed no) :
    Sends allowed (if condition then yes else no) := Prog.only_ite positive negative

theorem sends_cases {condition : Prop} [Decidable condition] {yes no : ClientScript α}
    (positive : condition → Sends allowed yes) (negative : ¬condition → Sends allowed no) :
    Sends allowed (if condition then yes else no) := by
  split
  · exact positive ‹_›
  · exact negative ‹_›

theorem sends_runIf {condition : Prop} [Decidable condition] {script : ClientScript Unit}
    (sends : Sends allowed script) : Sends allowed (runIf condition script) :=
  sends_ite sends trivial

theorem sends_mono {other : Nat × Nat → Prop} {script : ClientScript α}
    (sends : Sends allowed script) (wider : ∀ code, allowed code → other code) :
    Sends other script := by
  refine Prog.only_mono sends (fun operation => ?_) fun _ => id
  cases operation with
  | invoke session request => exact wider request.code
  | writeChallenge bytes => exact wider _
  | pollHat timeout => exact wider _
  | readHat length => exact wider _
  | _ => exact id

theorem sends_onExit {script : ClientScript α} {handler : Nat → ClientScript α}
    (front : Sends allowed script) (back : ∀ status, Sends allowed (handler status)) :
    Sends allowed (script.onExit handler) := by
  induction script with
  | done value => trivial
  | exit status => exact back status
  | act operation next ih => exact ⟨front.1, fun answer => ih answer (front.2 answer)⟩

theorem sends_returning {failed : Int} {body : ClientScript Int} (sends : Sends allowed body) :
    Sends allowed (returning failed body) := sends_onExit sends fun _ => trivial

theorem sends_call {operation : ClientOp} (holds : operation.Sends allowed) :
    Sends allowed (call operation) := ⟨holds, fun _ => trivial⟩

theorem sends_printf (text : String) : Sends allowed (printf text) := sends_call trivial

theorem sends_fprintf (text : String) : Sends allowed (fprintf text) := sends_call trivial

theorem sends_outUnless (works : Bool) : Sends allowed (outUnless works) := sends_ite trivial trivial

theorem sends_outIf (status : Int) : Sends allowed (outIf status) := sends_ite trivial trivial

/-! ### Commands -/

theorem sends_invokePayload (session : Nat) {request : Request} (holds : allowed request.code) :
    Sends allowed (invokePayload session request) := by
  refine sends_bind (sends_call holds) fun reply => ?_
  refine sends_bind (sends_runIf (sends_printf _)) fun _ => ?_
  exact sends_bind (sends_runIf (sends_fprintf _)) fun _ => trivial

theorem sends_reportQuery (kind : QueryKind) (status : Int) (payload : Memory) :
    Sends allowed (reportQuery kind status payload) := by
  cases kind with
  | captureEnrol =>
      refine sends_bind (sends_printf _) fun _ => ?_
      refine sends_bind (sends_printf _) fun _ => ?_
      exact sends_bind (sends_runIf (sends_printf _)) fun _ => sends_runIf (sends_printf _)
  | bioEnrol => exact sends_runIf (sends_printf _)
  | bioEndEnrol => exact sends_runIf (sends_printf _)
  | _ => trivial

theorem sends_queryOutput (session : Nat) {kind : QueryKind} (holds : allowed kind.request.code) :
    Sends allowed (queryOutput session kind) := by
  refine sends_bind (sends_call trivial) fun allocated => sends_ite ?_ ?_
  · refine sends_bind (sends_printf _) fun _ => ?_
    refine sends_bind (sends_invokePayload session holds) fun answer => ?_
    exact sends_bind (sends_reportQuery kind _ _) fun _ => trivial
  · exact sends_bind (sends_fprintf _) fun _ => trivial

theorem sends_query (session : Nat) {kind : QueryKind} (holds : allowed kind.request.code) :
    Sends allowed (query session kind) :=
  sends_bind (sends_queryOutput session holds) fun _ => trivial

theorem sends_initHwAuth (session : Nat) (holds : allowed (3, 5)) :
    Sends allowed (initHwAuth session) := by
  refine sends_returning (sends_bind (sends_call trivial) fun answer => ?_)
  cases (answer : Option Memory) with
  | none => trivial
  | some response =>
      refine sends_ite (sends_bind (sends_fprintf _) fun _ => trivial) ?_
      refine sends_bind (sends_call trivial) fun allocated => ?_
      refine sends_bind (sends_outUnless _) fun _ => ?_
      refine sends_bind (sends_invokePayload session holds) fun answer => ?_
      exact sends_ite (sends_bind (sends_fprintf _) fun _ => trivial)
        (sends_bind (sends_printf _) fun _ => trivial)

theorem sends_getEnrolChallenge (session : Nat) (holds : allowed (3, 2)) :
    Sends allowed (getEnrolChallenge session) := by
  refine sends_bind (sends_call trivial) fun allocated => sends_ite ?_ ?_
  · refine sends_bind (sends_invokePayload session holds) fun answer => sends_ite trivial ?_
    exact sends_ite (sends_bind (sends_fprintf _) fun _ => trivial)
      (sends_bind (sends_printf _) fun _ => trivial)
  · exact sends_bind (sends_fprintf _) fun _ => trivial

theorem sends_writeChallenge (bytes : Bytes) (holds : allowed (3, 3)) :
    Sends allowed (writeChallenge bytes) := by
  fun_induction writeChallenge bytes with
  | case1 => trivial
  | case2 bytes more ih =>
      refine sends_bind (sends_call trivial) fun stopped => ?_
      refine sends_bind (sends_outUnless _) fun _ => ?_
      refine sends_bind (sends_call holds) fun answer => ?_
      rcases (answer : Option Nat) with _ | count | count
      · exact sends_bind (sends_fprintf _) fun _ => trivial
      · exact sends_bind (sends_fprintf _) fun _ => trivial
      · exact ih count

theorem sends_readHat (hat : Bytes) (holds : allowed (3, 3)) : Sends allowed (readHat hat) := by
  fun_induction readHat hat with
  | case1 hat more ih =>
      refine sends_bind (sends_call trivial) fun stopped => ?_
      refine sends_bind (sends_outUnless _) fun _ => ?_
      refine sends_bind (sends_call holds) fun polled => ?_
      cases (polled : HatPoll) with
      | cancelled => trivial
      | unavailable => exact sends_bind (sends_fprintf _) fun _ => trivial
      | ready =>
          refine sends_bind (sends_call holds) fun answer => ?_
          rcases (answer : Option Bytes) with _ | _ | ⟨byte, rest⟩
          · exact sends_bind (sends_fprintf _) fun _ => trivial
          · exact sends_bind (sends_fprintf _) fun _ => trivial
          · exact ih byte rest
  | case2 => trivial

theorem sends_authorizeEnrol (session : Nat) (connected : Bool) (challenge : Bytes)
    (holds : allowed (3, 3)) : Sends allowed (authorizeEnrol session connected challenge) := by
  refine sends_returning (sends_bind (sends_runIf (sends_writeChallenge _ holds)) fun _ => ?_)
  refine sends_bind (sends_printf _) fun _ => ?_
  refine sends_bind (sends_readHat _ holds) fun hat => ?_
  refine sends_ite (sends_bind (sends_fprintf _) fun _ => trivial) ?_
  refine sends_bind (sends_call trivial) fun allocated => ?_
  refine sends_bind (sends_outUnless _) fun _ => ?_
  refine sends_bind (sends_invokePayload session holds) fun answer => ?_
  exact sends_ite (sends_bind (sends_fprintf _) fun _ => trivial)
    (sends_bind (sends_printf _) fun _ => trivial)

theorem sends_authorize (session : Nat) (connected : Bool) (asks : allowed (3, 2))
    (submits : allowed (3, 3)) : Sends allowed (authorize session connected) := by
  refine sends_bind (sends_getEnrolChallenge session asks) fun challenge => ?_
  cases challenge with
  | none => trivial
  | some challenge => exact sends_authorizeEnrol session connected challenge submits

theorem sends_templateInventory (session : Nat) (enumerates : allowed (11, 8))
    (identifies : allowed (11, 11)) : Sends allowed (templateInventory session) := by
  refine sends_bind (sends_call trivial) fun allocated => sends_ite ?_ ?_
  · refine sends_bind (sends_invokePayload session enumerates) fun answer => ?_
    refine sends_bind (sends_printf _) fun _ => ?_
    refine sends_ite (sends_bind (sends_fprintf _) fun _ => trivial) ?_
    refine sends_bind (sends_printf _) fun _ => ?_
    refine sends_bind (sends_invokePayload session identifies) fun other => ?_
    refine sends_bind (sends_printf _) fun _ => ?_
    refine sends_bind (sends_runIf (sends_printf _)) fun _ => ?_
    exact sends_bind (sends_printf _) fun _ => trivial
  · exact sends_bind (sends_fprintf _) fun _ => trivial

/-! ### Finger waits -/

theorem sends_waitSensorIrq (phase : String) (timeout : Nat) :
    Sends allowed (waitSensorIrq phase timeout) := by
  refine sends_bind (sends_call trivial) fun event => ?_
  refine sends_bind (sends_call trivial) fun stopped => ?_
  refine sends_ite (sends_bind (sends_fprintf _) fun _ => trivial) ?_
  exact sends_ite (sends_bind (sends_printf _) fun _ => trivial)
    (sends_bind (sends_fprintf _) fun _ => trivial)

theorem sends_clearPendingIrq (phase : String) : Sends allowed (clearPendingIrq phase) := by
  refine sends_bind (sends_call trivial) fun event => ?_
  refine sends_ite (sends_bind (sends_fprintf _) fun _ => trivial) ?_
  refine sends_ite (sends_bind (sends_fprintf _) fun _ => trivial) ?_
  exact sends_bind (sends_runIf (sends_printf _)) fun _ => trivial

theorem sends_waitFingerDown (session : Nat) (arms : allowed (10, 3)) :
    Sends allowed (waitFingerDown session) := by
  refine sends_returning (sends_bind (sends_clearPendingIrq _) fun before => ?_)
  refine sends_bind (sends_outIf _) fun _ => ?_
  refine sends_bind (sends_query session arms) fun armed => ?_
  refine sends_bind (sends_outIf _) fun _ => ?_
  refine sends_bind (sends_clearPendingIrq _) fun after => ?_
  refine sends_bind (sends_outIf _) fun _ => ?_
  exact sends_bind (sends_printf _) fun _ => sends_waitSensorIrq _ _

section FingerLost

variable (session : Nat) (checks : allowed (10, 1)) (waits : allowed (10, 2))
  (looks : allowed (10, 11))

include checks waits looks

theorem sends_fingerLostLoop (attempts : Nat) : Sends allowed (fingerLostLoop session attempts) := by
  induction attempts with
  | zero => exact sends_bind (sends_fprintf _) fun _ => trivial
  | succ attempts ih =>
      refine sends_bind (sends_query session waits) fun status => ?_
      refine sends_ite trivial (sends_ite trivial ?_)
      refine sends_bind (sends_waitSensorIrq _ _) fun irq => ?_
      refine sends_ite trivial ?_
      refine sends_bind (sends_query session looks) fun state => ?_
      refine sends_ite trivial (sends_ite ih ?_)
      refine sends_bind (sends_query session checks) fun lost => ?_
      exact sends_ite trivial (sends_ite trivial ih)

theorem sends_waitFingerLost : Sends allowed (waitFingerLost session) := by
  refine sends_bind (sends_query session checks) fun status => ?_
  refine sends_ite trivial (sends_ite trivial ?_)
  refine sends_bind (sends_clearPendingIrq _) fun pending => ?_
  exact sends_ite trivial (sends_fingerLostLoop session checks waits looks 600)

theorem sends_liftFinger : Sends allowed (liftFinger session) := by
  refine sends_bind (sends_printf _) fun _ => ?_
  refine sends_bind (sends_waitFingerLost session checks waits looks) fun status => ?_
  refine sends_ite (sends_bind (sends_fprintf _) fun _ => trivial) ?_
  exact sends_runIf (sends_printf _)

end FingerLost

/-! ### Databases -/

theorem sends_dbCommand (session : Nat) {command : Nat} (word3 word4 : Nat) (chunk : Bytes)
    (holds : allowed (4, command)) :
    Sends allowed (dbCommand session command word3 word4 chunk) := by
  refine sends_bind (sends_call trivial) fun allocated => sends_ite ?_ ?_
  · exact sends_bind (sends_printf _) fun _ => sends_invokePayload session holds
  · exact sends_bind (sends_fprintf _) fun _ => trivial

theorem sends_readChunk (count : Nat) (chunk : Bytes) : Sends allowed (readChunk count chunk) := by
  fun_induction readChunk count chunk with
  | case1 chunk more ih =>
      refine sends_bind (sends_call trivial) fun answer => ?_
      rcases (answer : Option Bytes) with _ | _ | ⟨byte, rest⟩
      · exact sends_bind (sends_fprintf _) fun _ => trivial
      · exact sends_bind (sends_fprintf _) fun _ => trivial
      · exact ih byte rest
  | case2 => trivial

section Import

variable (session : Nat) (begins : allowed (4, 14)) (writes : allowed (4, 17))
  (finishes : allowed (4, 15))

theorem sends_importLoop (writes : allowed (4, 17)) (remaining : Nat) :
    Sends allowed (importLoop session remaining) := by
  fun_induction importLoop session remaining with
  | case1 => trivial
  | case2 remaining more count ih =>
      refine sends_bind (sends_readChunk _ _) fun chunk => ?_
      refine sends_bind (sends_dbCommand session _ _ _ writes) fun answer => ?_
      exact sends_cases (fun _ => sends_bind (sends_fprintf _) fun _ => trivial)
        fun agreed => ih answer.1 agreed

include begins writes finishes

theorem sends_importBody : Sends allowed (importBody session) := by
  refine sends_bind (sends_call trivial) fun found => ?_
  cases (found : Option Nat) with
  | none => exact sends_bind (sends_fprintf _) fun _ => trivial
  | some size =>
      refine sends_ite (sends_bind (sends_fprintf _) fun _ => trivial) ?_
      refine sends_bind (sends_dbCommand session _ _ _ begins) fun begun => ?_
      refine sends_ite trivial ?_
      refine sends_bind (sends_returning ?_) fun loaded => ?_
      · exact sends_bind (sends_importLoop session writes _) fun _ => trivial
      · exact sends_bind (sends_dbCommand session _ _ _ finishes) fun _ => trivial

theorem sends_loadDatabase : Sends allowed (loadDatabase session) := by
  refine sends_bind (sends_call trivial) fun opened => sends_ite ?_ ?_
  · refine sends_bind (sends_importBody session begins writes finishes) fun loaded => ?_
    refine sends_bind (sends_call trivial) fun closed => ?_
    exact sends_bind (sends_runIf (sends_printf _)) fun _ => trivial
  · exact sends_bind (sends_fprintf _) fun _ => trivial

end Import

end Sends

/-! ### Outside the session -/

/-- The statuses of an early return. -/
def Early (status : Nat) : Prop := status = 1 ∨ status = 2

theorem Early.nonzero {status : Nat} (early : Early status) : status ≠ 0 := by
  rcases early with rfl | rfl
  · exact Nat.succ_ne_zero 0
  · exact Nat.succ_ne_zero 1

theorem only_leave {condition : Prop} [Decidable condition] {status : Nat} (text : String)
    (early : Early status) : (runIf condition (leave status text)).Only
      (ClientOp.Sends fun _ => False) Early :=
  Prog.only_ite ⟨trivial, fun _ => early⟩ trivial

theorem only_prologue (mode : Mode) :
    (prologue mode).Only (ClientOp.Sends fun _ => False) Early := by
  have two : Early 2 := Or.inr rfl
  have one : Early 1 := Or.inl rfl
  have asks : ∀ {operation : ClientOp}, operation.Sends (fun _ => False) →
      (call operation).Only (ClientOp.Sends fun _ => False) Early := fun holds =>
    ⟨holds, fun _ => trivial⟩
  refine Prog.only_bind (Prog.only_ite (Prog.only_bind (asks trivial) fun found => ?_) trivial)
    fun _ => ?_
  · exact only_leave _ two
  · refine Prog.only_bind (asks trivial) fun installed => ?_
    refine Prog.only_bind (only_leave _ one) fun _ => ?_
    refine Prog.only_bind (Prog.only_ite (asks trivial) trivial) fun readable => ?_
    refine Prog.only_bind (only_leave _ two) fun _ => ?_
    refine Prog.only_bind (Prog.only_ite (asks trivial) trivial) fun writable => ?_
    exact only_leave _ two

theorem only_attach : attach.Only (ClientOp.Sends fun _ => False) Early := by
  have asks : ∀ {operation : ClientOp}, operation.Sends (fun _ => False) →
      (call operation).Only (ClientOp.Sends fun _ => False) Early := fun holds =>
    ⟨holds, fun _ => trivial⟩
  have gives : ∀ (text : String) (answer : Option Nat),
      (do fprintf text; return answer : ClientScript (Option Nat)).Only
        (ClientOp.Sends fun _ => False) Early := fun _ _ =>
    Prog.only_bind (asks trivial) fun _ => trivial
  refine Prog.only_bind (asks trivial) fun powered => Prog.only_ite (gives _ _) ?_
  refine Prog.only_bind (asks trivial) fun _ => Prog.only_bind (asks trivial) fun loader => ?_
  cases (loader : Option Nat) with
  | none => exact gives _ _
  | some loader =>
      refine Prog.only_bind (asks trivial) fun _ => Prog.only_bind (asks trivial) fun session => ?_
      cases (session : Option Nat) with
      | none => exact gives _ _
      | some session => exact Prog.only_bind (asks trivial) fun _ => trivial

end Liuqin.Fingerprint
