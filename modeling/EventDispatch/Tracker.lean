import EventDispatch.Log
import EventDispatch.Params

/-!
# Trackers

A tracker hands every event to its sink.  A log sink makes a log record of it; a
memory sink keeps it in a buffer, which several trackers may share.
-/

namespace EventDispatch

/-- An event that was tracked. -/
structure Event where
  name : String
  params : Params
  deriving DecidableEq

/-- Where a tracker hands its events: to the log, or to a buffer. -/
inductive Sink where
  | log
  | memory (buffer : Nat)
  deriving DecidableEq

/-- The trackers made so far, by their sinks, and the buffers in memory. -/
structure Tracking where
  sinks : List Sink
  buffers : List (List Event)
  deriving DecidableEq

/-- The name of the channel that trackers log to. -/
def trackerChannel : String := "EventTracker"

/-- A tracker as text. -/
def trackerText : String := "EventTracker \x7b .. \x7d"

/-- The record that a sink makes of an event. -/
def Sink.record (sink : Sink) (event : Event) : Log.Record :=
  match sink with
  | .log =>
      { level := .debug, channel := some trackerChannel
        message := "Logging event name: " ++ event.name ++ "; params: " ++ event.params.describe }
  | .memory _ =>
      { level := .trace, channel := some trackerChannel
        message := "Recording event in memory: " ++ event.name }

namespace Tracking

/-- No trackers. -/
def start : Tracking where
  sinks := []
  buffers := []

/-- One more tracker, over a buffer of its own. -/
def addMemory (tracking : Tracking) : Tracking where
  sinks := tracking.sinks ++ [.memory tracking.buffers.length]
  buffers := tracking.buffers ++ [[]]

/-- One more tracker, over a sink. -/
def addSink (tracking : Tracking) (sink : Sink) : Tracking :=
  { tracking with sinks := tracking.sinks ++ [sink] }

/-- One more tracker, over the sink of another one. -/
def share (tracking : Tracking) (tracker : Nat) : Tracking :=
  match tracking.sinks[tracker]? with
  | some sink => tracking.addSink sink
  | none => tracking

/-- Hands an event to the sink of a tracker. -/
def track (tracking : Tracking) (tracker : Nat) (event : Event) : Tracking :=
  match tracking.sinks[tracker]? with
  | some (.memory buffer) =>
      { tracking with buffers := tracking.buffers.modify buffer (· ++ [event]) }
  | _ => tracking

/-- The records made when a tracker gets an event. -/
def trackRecords (tracking : Tracking) (tracker : Nat) (event : Event) : List Log.Record :=
  (tracking.sinks[tracker]?.map fun sink => sink.record event).toList

/-- The events in the buffer of a tracker, if it has one. -/
def events? (tracking : Tracking) (tracker : Nat) : Option (List Event) :=
  match tracking.sinks[tracker]? with
  | some (.memory buffer) => tracking.buffers[buffer]?
  | _ => none

/-- The trackers with the buffer of one of them emptied. -/
def clear (tracking : Tracking) (tracker : Nat) : Tracking :=
  match tracking.sinks[tracker]? with
  | some (.memory buffer) =>
      { tracking with buffers := tracking.buffers.modify buffer fun _ => [] }
  | _ => tracking

end Tracking

end EventDispatch
