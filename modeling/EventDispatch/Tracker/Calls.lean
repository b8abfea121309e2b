import EventDispatch.Tracker

/-!
# Calls on trackers

Trackers are made and used by calls, one after the other.  A call names a tracker by
its number in the order in which they are made; a tracker stands for its sink too, as
a handle of it.  A buffer is used by one call at a time, so every call is one step.
-/

namespace EventDispatch

/-- A call that makes a tracker, hands an event to one or to its sink, or asks its sink
for the events. -/
inductive TrackerCall where
  | newMemory
  | newLog
  | share (tracker : Nat)
  | logEvent (tracker : Nat) (event : Event)
  | record (tracker : Nat) (event : Event)
  | events (tracker : Nat)
  | take (tracker : Nat)
  deriving DecidableEq

namespace TrackerCall

/-- The tracker through which a call reaches a sink. -/
def tracker? : TrackerCall → Option Nat
  | newMemory | newLog | share _ => none
  | logEvent tracker _ | record tracker _ | events tracker | take tracker => some tracker

/-- The trackers after a call, and the events that it returns, if it returns events. -/
def run (tracking : Tracking) : TrackerCall → Tracking × Option (List Event)
  | newMemory => (tracking.addMemory, none)
  | newLog => (tracking.addSink .log, none)
  | share tracker => (tracking.share tracker, none)
  | logEvent tracker event | record tracker event => (tracking.track tracker event, none)
  | events tracker => (tracking, tracking.events? tracker)
  | take tracker => (tracking.clear tracker, tracking.events? tracker)

end TrackerCall

/-- The sink that a call reaches. -/
def Tracking.sinkOf (tracking : Tracking) (call : TrackerCall) : Option Sink :=
  call.tracker?.bind fun tracker => tracking.sinks[tracker]?

/-- A call that was made: the sink that it reached, and what it returned. -/
structure TrackerStep where
  call : TrackerCall
  sink? : Option Sink
  answer? : Option (List Event)
  deriving DecidableEq

/-- The step that a call is on trackers. -/
def Tracking.step (tracking : Tracking) (call : TrackerCall) : TrackerStep where
  call
  sink? := tracking.sinkOf call
  answer? := (call.run tracking).2

/-- The trackers after some calls, and the steps that led to them. -/
structure TrackerRun where
  tracking : Tracking
  steps : List TrackerStep
  deriving DecidableEq

namespace TrackerRun

/-- No call was made. -/
def start : TrackerRun where
  tracking := .start
  steps := []

/-- The run with one more call. -/
def next (run : TrackerRun) (call : TrackerCall) : TrackerRun where
  tracking := (call.run run.tracking).1
  steps := run.steps ++ [run.tracking.step call]

/-- The run of calls one behind the other. -/
def ofCalls (calls : List TrackerCall) : TrackerRun :=
  calls.foldl next start

end TrackerRun

end EventDispatch
