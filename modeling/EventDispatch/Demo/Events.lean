import EventDispatch.Artifact
import EventDispatch.Dispatch.Meaning

/-!
# Events of the demonstration

A small application with three event types.  Each is declared to the generator,
and its values are tracked as the file generated for it says.
-/

namespace EventDispatch.Demo

/-! ## Declarations -/

/-- A member with named fields. -/
def named (name : String) (fields : List String) : Member where
  name
  parent := none
  fields := .named fields
  origin := { file := "event.rs", line := none }

/-- A member without fields. -/
def bare (name : String) : Member where
  name
  parent := none
  fields := .unit
  origin := { file := "event.rs", line := none }

/-- A marked enumeration of the application. -/
def enumeration (name path : String) (members : List Member) : Declaration where
  name
  path
  kind := .enum
  modality := .closed
  markers := [Settings.standard.marker]
  generic := false
  members
  origin := { file := "event.rs", line := none }

/-- The event type of the application itself. -/
def myEvent : Declaration :=
  enumeration "MyEvent" "crate::event::MyEvent"
    [named "ShareImage" ["image_name", "full_string"], bare "ButtonTapped"]

/-- What happens to a screen.  Scrolling carries a number without a name. -/
def screenEvent : Declaration :=
  enumeration "ScreenEvent" "crate::event::ScreenEvent"
    [named "Opened" ["screen_name", "depth"],
      { bare "Scrolled" with fields := .positional 1 },
      bare "Closed"]

/-- Events of an older schema, whose fields have capitals in their names. -/
def legacyEvent : Declaration :=
  enumeration "LegacyEvent" "crate::legacy::LegacyEvent"
    [named "ShareImage" ["imageName", "fullString"], bare "ButtonTapped"]

/-- The event that the file generated for a declaration tracks for a value. -/
def tracked? (declaration : Declaration) (value : EventValue) : Option Event := do
  let set ← declaration.eventSet?
  let dispatch ← (set.dispatch .standard).toOption
  let arms ← Code.ofText? (dispatch.render .standard)
  (← Code.calls? dispatch.scope value arms).head?

/-! ## Values -/

/-- A value of one of the event types. -/
inductive Signal where
  | shareImage (imageName fullString : String)
  | buttonTapped
  | screenOpened (screenName : String) (depth : Nat)
  | screenScrolled (depth : Nat)
  | screenClosed
  | legacyShareImage (imageName fullString : String)
  | legacyButtonTapped
  deriving DecidableEq

/-- The declaration that a value belongs to. -/
def Signal.declaration : Signal → Declaration
  | shareImage _ _ => myEvent
  | buttonTapped => myEvent
  | screenOpened _ _ => screenEvent
  | screenScrolled _ => screenEvent
  | screenClosed => screenEvent
  | legacyShareImage _ _ => legacyEvent
  | legacyButtonTapped => legacyEvent

/-- The value as its variant and fields. -/
def Signal.value : Signal → EventValue
  | shareImage imageName fullString =>
      { variant := "ShareImage"
        fields := [("image_name", .text imageName), ("full_string", .text fullString)] }
  | buttonTapped => { variant := "ButtonTapped", fields := [] }
  | screenOpened screenName depth =>
      { variant := "Opened"
        fields := [("screen_name", .text screenName), ("depth", .unsigned depth)] }
  | screenScrolled _ => { variant := "Scrolled", fields := [] }
  | screenClosed => { variant := "Closed", fields := [] }
  | legacyShareImage imageName fullString =>
      { variant := "ShareImage"
        fields := [("imageName", .text imageName), ("fullString", .text fullString)] }
  | legacyButtonTapped => { variant := "ButtonTapped", fields := [] }

/-- The event that is tracked for a value, if any. -/
def Signal.event? (signal : Signal) : Option Event :=
  tracked? signal.declaration signal.value

/-- The trackers after one of them has tracked a value. -/
def Signal.track (tracking : Tracking) (tracker : Nat) (signal : Signal) : Tracking :=
  match signal.event? with
  | some event => tracking.track tracker event
  | none => tracking

/-- The records made meanwhile. -/
def Signal.records (tracking : Tracking) (tracker : Nat) (signal : Signal) : List Log.Record :=
  match signal.event? with
  | some event => tracking.trackRecords tracker event
  | none => []

end EventDispatch.Demo
