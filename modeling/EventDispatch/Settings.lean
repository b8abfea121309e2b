/-!
# Settings of a generator

Which marker selects declarations, which tracker the generated code calls, and
whether generated files open with a header.
-/

namespace EventDispatch

/-- The settings of a generator. -/
structure Settings where
  marker : String := "analytics_event"
  trackerCrate : String := "::event_tracker"
  trackerType : String := "EventTracker"
  header : Bool := true
  deriving DecidableEq

namespace Settings

/-- The settings in force where nothing else is asked for. -/
def standard : Settings := {}

/-- Removes double colons from the front of a reversed path. -/
def dropColons : List Char → List Char
  | ':' :: ':' :: rest => dropColons rest
  | path => path

/-- The path of the tracker crate without double colons at its end. -/
def cratePath (settings : Settings) : String :=
  String.ofList (dropColons settings.trackerCrate.toList.reverse).reverse

/-- The path of an item of the tracker crate. -/
def trackerItem (settings : Settings) (item : String) : String :=
  settings.cratePath ++ "::" ++ item

/-- The path of the tracker type. -/
def trackerTypePath (settings : Settings) : String :=
  settings.trackerItem settings.trackerType

end Settings

end EventDispatch
