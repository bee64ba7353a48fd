/-
Accelerometer polling (device/sensors/patches/0004, ssc_accelerometer_set_polling).

The sync calls of libssc iterate the main context, so that a call of set_polling
may be dispatched from inside one.  A world is the driver's data, the calls that
are active, innermost first, and what happened so far, newest first.
-/

import Mathlib.Data.List.Basic
import Mathlib.Logic.Relation

namespace Liuqin.Sensors.Polling

/-! ### The driver -/

inductive SyncCall where
  | openSync
  | closeSync
  deriving DecidableEq, Repr

inductive Event where
  | request (state : Bool)
  | started (call : SyncCall)
  | ended (call : SyncCall) (success : Bool)
  deriving DecidableEq, Repr

structure DrvData where
  measurementId : Nat
  pollingRequested : Bool
  pollingChanging : Bool
  /-- The measurement handlers connected to the sensor. -/
  handlers : List Nat
  deriving DecidableEq, Repr

def DrvData.start : DrvData where
  measurementId := 0
  pollingRequested := false
  pollingChanging := false
  handlers := []

def signalConnect (drvData : DrvData) (id : Nat) : DrvData :=
  { drvData with measurementId := id, handlers := id :: drvData.handlers }

/-- `g_clear_signal_handler` -/
def clearSignalHandler (drvData : DrvData) : DrvData :=
  if drvData.measurementId = 0 then drvData
  else
    { drvData with
      measurementId := 0
      handlers := drvData.handlers.erase drvData.measurementId }

/-- Where a call of set_polling is. -/
inductive Point where
  | entered (state : Bool)
  | requested
  | looping
  | inside (call : SyncCall)
  | leaving
  deriving DecidableEq, Repr

structure World where
  drvData : DrvData
  stack : List Point
  log : List Event
  deriving DecidableEq, Repr

def World.start : World where
  drvData := .start
  stack := []
  log := []

/-- Calls come from the main context: when none is active, or from inside a sync call. -/
def Dispatches : List Point → Prop
  | [] => True
  | .inside _ :: _ => True
  | _ => False

/-- One step of the innermost call, or a call that is dispatched. -/
inductive Step : World → World → Prop where
  | call {drvData : DrvData} {stack : List Point} {log : List Event} (state : Bool)
      (dispatches : Dispatches stack) :
      Step ⟨drvData, stack, log⟩ ⟨drvData, .entered state :: stack, log⟩
  | request {drvData : DrvData} {stack : List Point} {log : List Event} {state : Bool} :
      Step ⟨drvData, .entered state :: stack, log⟩
        ⟨{ drvData with pollingRequested := state }, .requested :: stack, .request state :: log⟩
  | coalesced {drvData : DrvData} {stack : List Point} {log : List Event}
      (changing : drvData.pollingChanging = true) :
      Step ⟨drvData, .requested :: stack, log⟩ ⟨drvData, stack, log⟩
  | change {drvData : DrvData} {stack : List Point} {log : List Event}
      (settled : drvData.pollingChanging = false) :
      Step ⟨drvData, .requested :: stack, log⟩
        ⟨{ drvData with pollingChanging := true }, .looping :: stack, log⟩
  | settle {drvData : DrvData} {stack : List Point} {log : List Event}
      (same : decide (drvData.measurementId ≠ 0) = drvData.pollingRequested) :
      Step ⟨drvData, .looping :: stack, log⟩ ⟨drvData, .leaving :: stack, log⟩
  | opening {drvData : DrvData} {stack : List Point} {log : List Event} {id : Nat}
      (differs : decide (drvData.measurementId ≠ 0) ≠ drvData.pollingRequested)
      (wanted : drvData.pollingRequested = true) (nonzero : id ≠ 0) :
      Step ⟨drvData, .looping :: stack, log⟩
        ⟨signalConnect drvData id, .inside .openSync :: stack, .started .openSync :: log⟩
  | opened {drvData : DrvData} {stack : List Point} {log : List Event} :
      Step ⟨drvData, .inside .openSync :: stack, log⟩
        ⟨drvData, .looping :: stack, .ended .openSync true :: log⟩
  | openFailed {drvData : DrvData} {stack : List Point} {log : List Event} :
      Step ⟨drvData, .inside .openSync :: stack, log⟩
        ⟨clearSignalHandler drvData, .leaving :: stack, .ended .openSync false :: log⟩
  | closing {drvData : DrvData} {stack : List Point} {log : List Event}
      (differs : decide (drvData.measurementId ≠ 0) ≠ drvData.pollingRequested)
      (unwanted : drvData.pollingRequested = false) :
      Step ⟨drvData, .looping :: stack, log⟩
        ⟨clearSignalHandler drvData, .inside .closeSync :: stack, .started .closeSync :: log⟩
  | closed {drvData : DrvData} {stack : List Point} {log : List Event} :
      Step ⟨drvData, .inside .closeSync :: stack, log⟩
        ⟨drvData, .looping :: stack, .ended .closeSync true :: log⟩
  | closeFailed {drvData : DrvData} {stack : List Point} {log : List Event} :
      Step ⟨drvData, .inside .closeSync :: stack, log⟩
        ⟨drvData, .leaving :: stack, .ended .closeSync false :: log⟩
  | leave {drvData : DrvData} {stack : List Point} {log : List Event} :
      Step ⟨drvData, .leaving :: stack, log⟩
        ⟨{ drvData with pollingChanging := false }, stack, log⟩

/-! ### What a log says -/

def lastRequest : List Event → Option Bool
  | [] => none
  | .request state :: _ => some state
  | _ :: log => lastRequest log

/-- The sync call that is in progress. -/
def inProgress : List Event → Option SyncCall
  | [] => none
  | .started call :: _ => some call
  | .ended _ _ :: _ => none
  | .request _ :: log => inProgress log

def lastStarted : List Event → Option SyncCall
  | [] => none
  | .started call :: _ => some call
  | _ :: log => lastStarted log

def failed : List Event → Bool
  | [] => false
  | .ended _ false :: _ => true
  | _ :: log => failed log

/-- An open failed that was attempted after the last request or in progress when it was made. -/
def openFailedSince : List Event → Bool
  | [] => false
  | .request _ :: _ => false
  | .ended .openSync false :: _ => true
  | _ :: log => openFailedSince log

/-- No sync call starts while another is in progress. -/
def Serial : List Event → Prop
  | [] => True
  | .started _ :: log => inProgress log = none ∧ Serial log
  | _ :: log => Serial log

/-- Opens and closes take turns, an open first, until one of them fails. -/
def Alternate : List Event → Prop
  | [] => True
  | .started .openSync :: log =>
      (failed log = false → lastStarted log ≠ some .openSync) ∧ Alternate log
  | .started .closeSync :: log =>
      (failed log = false → lastStarted log = some .openSync) ∧ Alternate log
  | _ :: log => Alternate log

/-- A close failed, and last requested was that polling goes on. -/
def Dropped : List Event → Prop
  | .ended .closeSync false :: log => lastRequest log = some true
  | _ => False

/-- What holds however the calls nest. -/
structure Orderly (world : World) : Prop where
  serial : Serial world.log
  alternate : Alternate world.log
  oneHandler : world.drvData.handlers.length ≤ 1
  idle : world.stack = [] → world.drvData.pollingChanging = false

/-- The handler is connected when that was requested last, unless an open failed. -/
def Converged (world : World) : Prop :=
  ∀ state, lastRequest world.log = some state → openFailedSince world.log = false →
    (world.drvData.handlers ≠ [] ↔ state = true)

end Liuqin.Sensors.Polling
