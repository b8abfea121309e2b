import Mathlib.Data.List.DropRight
import Mathlib.Data.List.Induction
import EventDispatch.Tracker.Calls

/-!
# No tracked event is lost

Trackers reach buffers through their sinks, several of them the same one, and calls on
all of them come in any order.  What a call does to a buffer is told by its step alone
(`contents_run`): a `take` that reaches the buffer empties it, an event that is handed to
it goes behind the others, and nothing else changes it.

Along a run this gives a law of conservation for each buffer
(`TrackerRun.takenFrom_append_contents`): what was taken from it, followed by what is in
it, is what was handed to it.  What is in it is what was handed to it since the last
`take` (`TrackerRun.contents_ofCalls`), and this is what every handle of it returns
(`TrackerRun.ofCalls_conserves`).
-/

namespace EventDispatch

open TrackerCall (newMemory newLog share logEvent record events take)

/-! ## Who shares a buffer -/

/-- The sinks of the trackers made so far, and the number of buffers, after one more call:
a new memory has a new buffer, and a tracker that shares has the sink of the other one. -/
def wire (made : List Sink × Nat) : TrackerCall → List Sink × Nat
  | newMemory => (made.1 ++ [.memory made.2], made.2 + 1)
  | newLog => (made.1 ++ [.log], made.2)
  | share tracker => (made.1 ++ made.1[tracker]?.toList, made.2)
  | logEvent _ _ | record _ _ | events _ | take _ => made

/-- The sinks of the trackers that calls make, told by the calls alone. -/
def wiredSinks (calls : List TrackerCall) : List Sink :=
  (calls.foldl wire ([], 0)).1

/-! ## What a step does to a buffer -/

namespace TrackerStep

/-- The events that a step hands to a buffer. -/
def handed (buffer : Nat) (step : TrackerStep) : List Event :=
  match step.call with
  | logEvent _ event | record _ event =>
      if step.sink? = some (.memory buffer) then [event] else []
  | _ => []

/-- The step takes the events of a buffer. -/
def takes (buffer : Nat) (step : TrackerStep) : Bool :=
  match step.call with
  | take _ => step.sink? == some (.memory buffer)
  | _ => false

/-- The step asks a buffer for its events, and takes them or not. -/
def asks (buffer : Nat) (step : TrackerStep) : Bool :=
  match step.call with
  | events _ | take _ => step.sink? == some (.memory buffer)
  | _ => false

/-- The events that a step returns when it takes them from a buffer. -/
def taken (buffer : Nat) (step : TrackerStep) : List Event :=
  if step.takes buffer then step.answer?.getD [] else []

end TrackerStep

namespace Tracking

/-- The events in a buffer; a buffer that was not made has none. -/
def contents (tracking : Tracking) (buffer : Nat) : List Event :=
  tracking.buffers[buffer]?.getD []

/-- The sinks of the trackers, and the number of buffers. -/
def wiring (tracking : Tracking) : List Sink × Nat :=
  (tracking.sinks, tracking.buffers.length)

/-- Every memory sink has a buffer. -/
def Grounded (tracking : Tracking) : Prop :=
  ∀ buffer, Sink.memory buffer ∈ tracking.sinks → buffer < tracking.buffers.length

variable {tracking : Tracking} {tracker buffer : Nat}

theorem events?_of_grounded (hgrounded : tracking.Grounded)
    (hsink : tracking.sinks[tracker]? = some (.memory buffer)) :
    tracking.events? tracker = some (tracking.contents buffer) := by
  have hlt := hgrounded buffer (List.mem_of_getElem? hsink)
  simp [events?, hsink, contents, List.getElem?_eq_getElem hlt]

theorem contents_addMemory (tracking : Tracking) (buffer : Nat) :
    tracking.addMemory.contents buffer = tracking.contents buffer := by
  simp only [contents, addMemory]
  rcases Nat.lt_trichotomy buffer tracking.buffers.length with hlt | heq | hgt
  · rw [List.getElem?_append_left hlt]
  · simp [heq]
  · rw [List.getElem?_eq_none (by simp; omega), List.getElem?_eq_none (by omega)]

theorem contents_share (tracking : Tracking) (tracker buffer : Nat) :
    (tracking.share tracker).contents buffer = tracking.contents buffer := by
  unfold share
  split <;> rfl

/-- An event goes behind those in the buffer that its tracker reaches, and nowhere else. -/
theorem contents_track (hgrounded : tracking.Grounded) (tracker buffer : Nat) (event : Event) :
    (tracking.track tracker event).contents buffer =
      tracking.contents buffer ++
        if tracking.sinks[tracker]? = some (.memory buffer) then [event] else [] := by
  unfold track
  cases hsink : tracking.sinks[tracker]? with
  | none => simp
  | some sink =>
      cases sink with
      | log => simp
      | memory reached =>
          have hlt := hgrounded reached (List.mem_of_getElem? hsink)
          simp only [contents, List.getElem?_modify]
          by_cases hsame : reached = buffer
          · subst hsame
            simp [List.getElem?_eq_getElem hlt]
          · simp [hsame]

/-- The buffer that a tracker reaches is emptied, and no other one. -/
theorem contents_clear (tracking : Tracking) (tracker buffer : Nat) :
    (tracking.clear tracker).contents buffer =
      if tracking.sinks[tracker]? = some (.memory buffer) then [] else tracking.contents buffer := by
  unfold clear
  cases hsink : tracking.sinks[tracker]? with
  | none => simp
  | some sink =>
      cases sink with
      | log => simp
      | memory reached =>
          simp only [contents, List.getElem?_modify]
          by_cases hsame : reached = buffer
          · subst hsame
            cases tracking.buffers[reached]? <;> simp
          · simp [hsame]

end Tracking

/-! ## One call -/

section Call

variable {tracking : Tracking} {buffer : Nat}

theorem takes_step (call : TrackerCall) :
    (tracking.step call).takes buffer =
      match call with
      | take tracker => tracking.sinks[tracker]? == some (.memory buffer)
      | _ => false := by
  cases call <;> rfl

theorem handed_step (call : TrackerCall) :
    (tracking.step call).handed buffer =
      match call with
      | logEvent tracker event | record tracker event =>
          if tracking.sinks[tracker]? = some (.memory buffer) then [event] else []
      | _ => [] := by
  cases call <;> rfl

/-- What a call does to a buffer is told by its step. -/
theorem contents_run (hgrounded : tracking.Grounded) (call : TrackerCall) (buffer : Nat) :
    (call.run tracking).1.contents buffer =
      if (tracking.step call).takes buffer then []
      else tracking.contents buffer ++ (tracking.step call).handed buffer := by
  rw [takes_step, handed_step]
  cases call with
  | newMemory => simpa [TrackerCall.run] using tracking.contents_addMemory buffer
  | newLog => simp [TrackerCall.run, Tracking.addSink, Tracking.contents]
  | share tracker => simpa [TrackerCall.run] using tracking.contents_share tracker buffer
  | logEvent tracker event | record tracker event =>
      simpa [TrackerCall.run] using Tracking.contents_track hgrounded tracker buffer event
  | events tracker => simp [TrackerCall.run]
  | take tracker => simpa [TrackerCall.run] using tracking.contents_clear tracker buffer

/-- A call that only asks for events, or that does not reach a buffer, leaves it as it is. -/
theorem contents_run_of_idle (hgrounded : tracking.Grounded) {call : TrackerCall}
    (hidle : (∃ reader, call = .events reader) ∨ tracking.sinkOf call ≠ some (.memory buffer)) :
    (call.run tracking).1.contents buffer = tracking.contents buffer := by
  rcases hidle with ⟨reader, rfl⟩ | hne
  · rfl
  · have hnone : (tracking.step call).takes buffer = false ∧
        (tracking.step call).handed buffer = [] := by
      cases call <;> simp [TrackerStep.takes, TrackerStep.handed, Tracking.step, hne]
    rw [contents_run hgrounded, hnone.1, hnone.2, List.append_nil]
    rfl

/-- A call that asks a buffer returns what is in it. -/
theorem answer?_of_asks (hgrounded : tracking.Grounded) {call : TrackerCall}
    (hasks : (tracking.step call).asks buffer = true) :
    (tracking.step call).answer? = some (tracking.contents buffer) := by
  cases call with
  | events tracker | take tracker =>
      have hsink : tracking.sinks[tracker]? = some (.memory buffer) := by
        simpa [TrackerStep.asks, Tracking.step, Tracking.sinkOf, TrackerCall.tracker?] using hasks
      exact Tracking.events?_of_grounded hgrounded hsink
  | newMemory | newLog | share | logEvent | record => cases hasks

theorem asks_of_takes {step : TrackerStep} (htakes : step.takes buffer = true) :
    step.asks buffer = true := by
  unfold TrackerStep.takes at htakes
  unfold TrackerStep.asks
  split at htakes
  · rename_i hcall
    rw [hcall]
    exact htakes
  · cases htakes

theorem handed_of_takes {step : TrackerStep} (htakes : step.takes buffer = true) :
    step.handed buffer = [] := by
  unfold TrackerStep.takes at htakes
  unfold TrackerStep.handed
  split at htakes
  · rename_i hcall
    rw [hcall]
  · cases htakes

/-- Who shares a buffer after a call is told by the call and by who did before. -/
theorem wiring_run (tracking : Tracking) (call : TrackerCall) :
    (call.run tracking).1.wiring = wire tracking.wiring call := by
  cases call with
  | newMemory => simp [TrackerCall.run, Tracking.addMemory, wire, Tracking.wiring]
  | newLog => simp [TrackerCall.run, Tracking.addSink, wire, Tracking.wiring]
  | share tracker =>
      cases hsink : tracking.sinks[tracker]? <;>
        simp [TrackerCall.run, Tracking.share, Tracking.addSink, wire, Tracking.wiring, hsink]
  | logEvent tracker event | record tracker event =>
      simp only [TrackerCall.run, Tracking.track, wire, Tracking.wiring]
      split <;> simp
  | events tracker => rfl
  | take tracker =>
      simp only [TrackerCall.run, Tracking.clear, wire, Tracking.wiring]
      split <;> simp

/-- The numbers of the buffers that are reached stay below the number of buffers. -/
theorem lt_of_mem_wire (made : List Sink × Nat)
    (hmade : ∀ buffer, Sink.memory buffer ∈ made.1 → buffer < made.2) (call : TrackerCall)
    (hmem : Sink.memory buffer ∈ (wire made call).1) : buffer < (wire made call).2 := by
  cases call with
  | newMemory =>
      rcases List.mem_append.mp hmem with hold | hnew
      · exact Nat.lt_succ_of_lt (hmade buffer hold)
      · cases List.mem_singleton.mp hnew
        exact Nat.lt_succ_self made.2
  | newLog =>
      rcases List.mem_append.mp hmem with hold | hnew
      · exact hmade buffer hold
      · cases List.mem_singleton.mp hnew
  | share tracker =>
      rcases List.mem_append.mp hmem with hold | hshared
      · exact hmade buffer hold
      · exact hmade buffer (List.mem_of_getElem? (Option.mem_toList.mp hshared))
  | logEvent | record | events | take => exact hmade buffer hmem

/-- A tracker keeps its sink. -/
theorem getElem?_wire (made : List Sink × Nat) (call : TrackerCall) {tracker : Nat} {sink : Sink}
    (hsink : made.1[tracker]? = some sink) : (wire made call).1[tracker]? = some sink := by
  obtain ⟨hlt, _⟩ := List.getElem?_eq_some_iff.mp hsink
  cases call with
  | newMemory | newLog | share => rw [wire, List.getElem?_append_left hlt, hsink]
  | logEvent | record | events | take => exact hsink

theorem grounded_run (hgrounded : tracking.Grounded) (call : TrackerCall) :
    (call.run tracking).1.Grounded := by
  intro buffer hmem
  have hwired : Sink.memory buffer ∈ (call.run tracking).1.wiring.1 := hmem
  rw [wiring_run] at hwired
  change buffer < (call.run tracking).1.wiring.2
  rw [wiring_run]
  exact lt_of_mem_wire tracking.wiring hgrounded call hwired

end Call

/-! ## Runs -/

/-- The events that steps hand to a buffer, in their order. -/
def handedTo (buffer : Nat) (steps : List TrackerStep) : List Event :=
  steps.flatMap (TrackerStep.handed buffer)

/-- The events that steps return when they take them from a buffer, in their order. -/
def takenFrom (buffer : Nat) (steps : List TrackerStep) : List Event :=
  steps.flatMap (TrackerStep.taken buffer)

/-- The steps behind the last one that takes from a buffer, or all of them. -/
def sinceTake (buffer : Nat) (steps : List TrackerStep) : List TrackerStep :=
  steps.rtakeWhile fun step => !step.takes buffer

namespace TrackerRun

theorem ofCalls_concat (calls : List TrackerCall) (call : TrackerCall) :
    ofCalls (calls ++ [call]) = (ofCalls calls).next call := by
  simp [ofCalls]

theorem grounded_ofCalls (calls : List TrackerCall) : (ofCalls calls).tracking.Grounded := by
  induction calls using List.reverseRecOn with
  | nil => exact fun _ hmem => absurd hmem List.not_mem_nil
  | append_singleton calls call ih =>
      rw [ofCalls_concat]
      exact grounded_run ih call

/-- What was taken from a buffer and what is in it are together what was handed to it. -/
theorem takenFrom_append_contents (calls : List TrackerCall) (buffer : Nat) :
    takenFrom buffer (ofCalls calls).steps ++ (ofCalls calls).tracking.contents buffer =
      handedTo buffer (ofCalls calls).steps := by
  induction calls using List.reverseRecOn with
  | nil => rfl
  | append_singleton calls call ih =>
      have hgrounded := grounded_ofCalls calls
      have hcontents := contents_run hgrounded call buffer
      rw [ofCalls_concat, next]
      simp only [takenFrom, handedTo, List.flatMap_append, List.flatMap_singleton] at ih ⊢
      rw [hcontents, ← ih, List.append_assoc, List.append_assoc]
      cases htakes : ((ofCalls calls).tracking.step call).takes buffer with
      | false => simp [TrackerStep.taken, htakes]
      | true =>
          -- The events of the buffer move from what is in it to what was taken.
          have hanswer := answer?_of_asks hgrounded (asks_of_takes htakes)
          simp [TrackerStep.taken, htakes, hanswer, handed_of_takes htakes]

/-- What is in a buffer was handed to it since the last step that takes from it. -/
theorem contents_ofCalls (calls : List TrackerCall) (buffer : Nat) :
    (ofCalls calls).tracking.contents buffer =
      handedTo buffer (sinceTake buffer (ofCalls calls).steps) := by
  induction calls using List.reverseRecOn with
  | nil => rfl
  | append_singleton calls call ih =>
      rw [ofCalls_concat, next]
      simp only [sinceTake, List.rtakeWhile_concat] at ih ⊢
      rw [contents_run (grounded_ofCalls calls) call buffer, ih]
      cases htakes : ((ofCalls calls).tracking.step call).takes buffer with
      | false => simp [handedTo]
      | true => simp [handedTo]

theorem wiring_ofCalls (calls : List TrackerCall) :
    (ofCalls calls).tracking.wiring = calls.foldl wire ([], 0) := by
  induction calls using List.reverseRecOn with
  | nil => rfl
  | append_singleton calls call ih =>
      rw [ofCalls_concat, List.foldl_append, ← ih]
      exact wiring_run (ofCalls calls).tracking call

theorem sinks_ofCalls (calls : List TrackerCall) :
    (ofCalls calls).tracking.sinks = wiredSinks calls :=
  congrArg Prod.fst (wiring_ofCalls calls)

theorem length_steps (calls : List TrackerCall) : (ofCalls calls).steps.length = calls.length := by
  induction calls using List.reverseRecOn with
  | nil => rfl
  | append_singleton calls call ih =>
      rw [ofCalls_concat, next, List.length_append, List.length_append, ih]
      rfl

/-- Each step of a run is that of its call on the trackers to which the calls before led. -/
theorem getElem?_steps (calls : List TrackerCall) (index : Nat) :
    (ofCalls calls).steps[index]? =
      calls[index]?.map (ofCalls (calls.take index)).tracking.step := by
  induction calls using List.reverseRecOn with
  | nil => rfl
  | append_singleton calls call ih =>
      have hlength := length_steps calls
      rw [ofCalls_concat, next]
      rcases Nat.lt_trichotomy index calls.length with hlt | rfl | hgt
      · rw [List.getElem?_append_left (by omega), ih, List.getElem?_append_left hlt,
          List.take_append_of_le_length hlt.le]
      · rw [← hlength, List.getElem?_concat_length, hlength, List.getElem?_concat_length,
          List.take_left, Option.map_some]
      · rw [List.getElem?_eq_none (by simp; omega), List.getElem?_eq_none (by simp; omega),
          Option.map_none]

theorem take_steps (calls : List TrackerCall) (index : Nat) :
    (ofCalls calls).steps.take index = (ofCalls (calls.take index)).steps := by
  refine List.ext_getElem? fun place => ?_
  rw [List.getElem?_take, getElem?_steps, getElem?_steps, List.getElem?_take, List.take_take]
  by_cases hlt : place < index
  · rw [if_pos hlt, if_pos hlt, Nat.min_eq_left hlt.le]
  · rw [if_neg hlt, if_neg hlt, Option.map_none]

theorem map_call_steps (calls : List TrackerCall) :
    (ofCalls calls).steps.map TrackerStep.call = calls := by
  refine List.ext_getElem? fun place => ?_
  rw [List.getElem?_map, getElem?_steps, Option.map_map]
  exact Option.map_id'

end TrackerRun

/-! ## Main result -/

namespace TrackerRun

/-- The steps of a run are its calls in their order, and each of them reaches the sink of
its tracker, as the calls before it have wired them. -/
structure IsWired (run : TrackerRun) (calls : List TrackerCall) : Prop where
  calls_eq : run.steps.map TrackerStep.call = calls
  sinks_eq : run.tracking.sinks = wiredSinks calls
  sink?_eq : ∀ (index : Nat) (step : TrackerStep), run.steps[index]? = some step →
    step.sink? = step.call.tracker?.bind fun tracker =>
      (wiredSinks (calls.take index))[tracker]?

/-- What happened to a buffer in a run.

* `balance`: at the end each handle of the buffer sees some events, and these, behind all
  that were taken, are those that were handed to the buffer.
* `answers`: each step that asked the buffer was given what had been handed to it since the
  last step that took from it.
* `stays`: a further call that asks without taking, or that reaches no sink, the log or
  another buffer, changes nothing for the handles of this one. -/
structure Conserves (run : TrackerRun) (buffer : Nat) : Prop where
  balance : ∀ tracker, run.tracking.sinks[tracker]? = some (.memory buffer) →
    ∃ kept, run.tracking.events? tracker = some kept ∧
      takenFrom buffer run.steps ++ kept = handedTo buffer run.steps
  answers : ∀ (index : Nat) (step : TrackerStep), run.steps[index]? = some step →
    step.asks buffer = true →
    step.answer? = some (handedTo buffer (sinceTake buffer (run.steps.take index)))
  stays : ∀ tracker call, run.tracking.sinks[tracker]? = some (.memory buffer) →
    (∃ reader, call = .events reader) ∨ run.tracking.sinkOf call ≠ some (.memory buffer) →
      (call.run run.tracking).1.events? tracker = run.tracking.events? tracker

/-- No event is lost, duplicated or delivered elsewhere, whatever calls are made in whatever
order: trackers share buffers as the calls wire them, and every buffer is conserved. -/
theorem ofCalls_conserves (calls : List TrackerCall) :
    (ofCalls calls).IsWired calls ∧ ∀ buffer, (ofCalls calls).Conserves buffer := by
  have hgrounded := grounded_ofCalls calls
  refine ⟨⟨map_call_steps calls, sinks_ofCalls calls, ?_⟩, fun buffer => ⟨?_, ?_, ?_⟩⟩
  · intro index step hstep
    rw [getElem?_steps] at hstep
    obtain ⟨call, _, rfl⟩ := Option.map_eq_some_iff.mp hstep
    rw [← sinks_ofCalls]
    rfl
  · intro tracker hsink
    exact ⟨_, Tracking.events?_of_grounded hgrounded hsink, takenFrom_append_contents calls buffer⟩
  · intro index step hstep hasks
    rw [getElem?_steps] at hstep
    obtain ⟨call, _, rfl⟩ := Option.map_eq_some_iff.mp hstep
    rw [answer?_of_asks (grounded_ofCalls (calls.take index)) hasks, contents_ofCalls, take_steps]
  · intro tracker call hsink hidle
    have hkept : (call.run (ofCalls calls).tracking).1.wiring.1[tracker]? =
        some (.memory buffer) := by
      rw [wiring_run]
      exact getElem?_wire _ call hsink
    rw [Tracking.events?_of_grounded hgrounded hsink,
      Tracking.events?_of_grounded (grounded_run hgrounded call) hkept,
      contents_run_of_idle hgrounded hidle]

/-- Two trackers over one buffer and one over another, read and emptied through both. -/
example :
    let tap : Event := ⟨"tap", .empty⟩
    let swipe : Event := ⟨"swipe", .empty⟩
    (ofCalls [newMemory, newLog, share 0, newMemory, logEvent 2 tap, logEvent 1 swipe,
        record 0 swipe, events 2, take 0, logEvent 3 tap, events 2, record 2 tap,
        events 0]).steps.filterMap TrackerStep.answer? =
      [[tap, swipe], [tap, swipe], [], [tap]] := by
  decide

end TrackerRun

end EventDispatch
