import QuickAssist.Lib.Agents

/-!
# Resetting a device

A reset is asked for with `adf_dev_reset`, from the control device, from the error handlers and from the work queue
for fatal errors. The request allocates a record, puts it in a work queue, and in synchronous mode waits for the
worker, for ten seconds at most. The worker stops the device, shuts it down, and starts it again unless it is in use.
What can fail in the functions that it calls is an answer from outside. `resetStep` interleaves the actions of any
number of requests. How often a record was released, whether it was touched afterwards, and whether the worker has
started the device again is not in the driver.
-/

namespace QuickAssist.Reset

open Lib

/-! ## The device -/

/-- The bits of `status` of the device. -/
structure Status where
  restarting : Bool
  starting : Bool
  configured : Bool
  started : Bool
  aeInitialised : Bool
  aeUcodeLoaded : Bool
  aeStarted : Bool
  irqAllocated : Bool

def adfDevStarted (st : Status) : Bool := st.started

/-- Source: `adf_dev_stop`. The answer says whether `adf_ae_stop` fails. -/
def adfDevStop (st : Status) (aeStopFails : Bool) : Status :=
  if !adfDevStarted st && !st.starting then st
  else
    { st with starting := false, started := false, aeStarted := st.aeStarted && aeStopFails }

/-- Source: `adf_dev_shutdown`. The answer says whether `adf_ae_shutdown` fails. The configuration is
deleted unless the device is restarting. -/
def adfDevShutdown (st : Status) (aeShutdownFails : Bool) : Status :=
  { st with
    aeUcodeLoaded := false
    aeInitialised := st.aeInitialised && aeShutdownFails
    irqAllocated := false
    configured := st.configured && st.restarting }

/-- Where `adf_dev_init` fails, if it does. -/
inductive InitAnswer
  | aeInit
  | fwLoad
  | allocIrq
  | late
  | ok
  deriving DecidableEq

/-- Source: `adf_dev_init`. The result says whether zero is returned. -/
def adfDevInit (st : Status) : InitAnswer → Status × Bool
  | answer =>
    if !st.configured then (st, false)
    else
      match answer with
      | .aeInit => (st, false)
      | .fwLoad => ({ st with aeInitialised := true }, false)
      | .allocIrq => ({ st with aeInitialised := true, aeUcodeLoaded := true }, false)
      | .late => ({ st with aeInitialised := true, aeUcodeLoaded := true, irqAllocated := true }, false)
      | .ok => ({ st with aeInitialised := true, aeUcodeLoaded := true, irqAllocated := true }, true)

/-- Where `adf_dev_start` fails, if it does. -/
inductive StartAnswer
  | aeStart
  /-- In the first message to the firmware, when a service is started, or when parameters are added to the
  configuration. -/
  | service
  | uio
  | algs
  | ok
  deriving DecidableEq

/-- Source: `adf_dev_start`. The result says whether zero is returned. -/
def adfDevStart (st : Status) : StartAnswer → Status × Bool
  | .aeStart => ({ st with starting := true }, false)
  | .service => ({ st with starting := true, aeStarted := true }, false)
  | .uio => ({ st with starting := true, aeStarted := true, started := false }, false)
  | .algs => ({ st with starting := true, aeStarted := true, started := false }, false)
  | .ok => ({ st with starting := false, aeStarted := true, started := true }, true)

/-! ## Requests -/

inductive ResetMode
  | async
  | sync
  deriving DecidableEq

inductive Ret
  | zero
  | enomem
  | efault
  deriving DecidableEq

/-- What the caller does next in `adf_dev_aer_schedule_reset`. -/
inductive CallerPc
  | idle
  | checkStarted
  | checkRestarting
  | setRestarting
  | kzalloc
  | queueWork
  | waiting
  | kfree (ret : Ret)
  | returned (ret : Ret)
  deriving DecidableEq

/-- What the worker does next in `adf_device_reset_worker`. -/
inductive WorkerPc
  | none
  | queued
  | stop
  | shutdown
  | checkInUse
  | init
  | start
  | clearRestarting
  | finish
  | finished
  deriving DecidableEq

/-- A request, with its `adf_reset_dev_data`. -/
structure Request where
  mode : ResetMode
  caller : CallerPc
  worker : WorkerPc
  compl : Bool
  released : ℕ
  stale : Bool
  restarted : Bool

def Request.idle : Request := ⟨.async, .idle, .none, false, 0, false, false⟩

def Request.touch (q : Request) : Request := { q with stale := q.stale || decide (0 < q.released) }

def Request.release (q : Request) : Request := { q.touch with released := q.released + 1 }

/-! ## Actions -/

inductive Action
  | call (mode : ResetMode)
  | checkStarted
  | checkRestarting
  | setRestarting
  | kzalloc (ok : Bool)
  | queueWork
  /-- `wait_for_completion_timeout` returns because the worker has told so. -/
  | wake
  | timeout
  | kfree
  | begin
  | stop (aeStopFails : Bool)
  | shutdown (aeShutdownFails : Bool)
  | checkInUse (inUse : Bool)
  | init (answer : InitAnswer)
  | start (answer : StartAnswer)
  | clearRestarting
  | finish

def provided {α : Type*} (c : Prop) [Decidable c] (x : α) : Option α := if c then some x else none

/-- One action. The worker gives up when the device cannot be started again, and releases the record whatever
the mode is. -/
def resetAct (st : Status) (q : Request) : Action → Option (Status × Request)
  | .call mode => provided (q.caller = .idle) (st, { q with mode, caller := .checkStarted })
  | .checkStarted => provided (q.caller = .checkStarted)
      (st, { q with caller := if adfDevStarted st then .checkRestarting else .returned .zero })
  | .checkRestarting => provided (q.caller = .checkRestarting)
      (st, { q with caller := if st.restarting then .returned .zero else .setRestarting })
  | .setRestarting => provided (q.caller = .setRestarting)
      ({ st with restarting := true }, { q with caller := .kzalloc })
  | .kzalloc ok => provided (q.caller = .kzalloc)
      (st, { q with caller := if ok then .queueWork else .returned .enomem })
  | .queueWork => provided (q.caller = .queueWork)
      (st, { q.touch with worker := .queued, caller := if q.mode = .sync then .waiting else .returned .zero })
  | .wake => provided (q.caller = .waiting ∧ q.compl = true) (st, { q.touch with caller := .kfree .zero })
  | .timeout => provided (q.caller = .waiting ∧ q.compl = false)
      (st, { q.touch with caller := .kfree .efault })
  | .kfree =>
    match q.caller with
    | .kfree ret => some (st, { q.release with caller := .returned ret })
    | _ => none
  | .begin => provided (q.worker = .queued) (st, { q.touch with worker := .stop })
  | .stop aeStopFails => provided (q.worker = .stop)
      (adfDevStop st aeStopFails, { q with worker := .shutdown })
  | .shutdown aeShutdownFails => provided (q.worker = .shutdown)
      (adfDevShutdown st aeShutdownFails, { q with worker := .checkInUse })
  | .checkInUse inUse => provided (q.worker = .checkInUse)
      (st, { q with worker := if inUse then .finish else .init })
  | .init answer => provided (q.worker = .init)
      (if (adfDevInit st answer).2 then ((adfDevInit st answer).1, { q with worker := .start })
        else ((adfDevInit st answer).1, { q.release with worker := .finished }))
  | .start answer => provided (q.worker = .start)
      (if (adfDevStart st answer).2 then
          ((adfDevStart st answer).1, { q with worker := .clearRestarting, restarted := true })
        else ((adfDevStart st answer).1, { q.release with worker := .finished }))
  | .clearRestarting => provided (q.worker = .clearRestarting)
      ({ st with restarting := false }, { q with worker := .finish })
  | .finish => provided (q.worker = .finish)
      (st, if q.mode = .sync then { q.touch with compl := true, worker := .finished }
        else { q.touch.release with worker := .finished })

abbrev Resets := Agents Status Request ℕ

def resetStep (s : Resets) (e : ℕ × Action) : Option Resets := Agents.step resetAct s e

def resetInit (st : Status) : Resets := ⟨st, fun _ => .idle⟩

end QuickAssist.Reset
