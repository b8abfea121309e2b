import EventDispatch.EventSet
import EventDispatch.Settings
import EventDispatch.Source.Reference

/-!
# Dispatch code

What is generated for an event set: an implementation of the tracking trait
whose one function matches on the event and hands the event's name and its
parameters to the tracker.  `EventSet.dispatch` builds it and refuses names
that are not valid in code.
-/

namespace EventDispatch

open Source (Reference NameFault)

/-- A field that an arm binds and the key it passes it under. -/
structure Binding where
  field : String
  key : String
  deriving DecidableEq

/-- An arm of the match: the variant it selects, the fields it binds, and the
name it tracks the event under. -/
structure Arm where
  variant : String
  eventName : String
  bindings : List Binding
  deriving DecidableEq

/-- The generated implementation.  `fallback` adds an arm that tracks nothing. -/
structure Dispatch where
  summary : String
  set : Reference
  tracker : Reference
  trackEvent : Reference
  params : Reference
  paramValue : Reference
  allowsCapitals : Bool
  arms : List Arm
  fallback : Bool

/-- The paths in the code of an implementation. -/
def Dispatch.references (dispatch : Dispatch) : List Reference :=
  [dispatch.set, dispatch.tracker, dispatch.trackEvent, dispatch.params, dispatch.paramValue]

/-- Why no code can be generated. -/
inductive DispatchFault where
  | path (text : String) (fault : NameFault)
  | ident (text : String) (fault : NameFault)
  | code (fault : NameFault)
  deriving DecidableEq

/-- The fault in the words of a message. -/
def DispatchFault.describe : DispatchFault → String
  | path text fault => s!"`{text}` is not a valid path: {fault.describe}"
  | ident text fault => s!"`{text}` is not a valid identifier: {fault.describe}"
  | code fault => fault.describe

/-- A declaration for which no code can be generated, and why. -/
structure DispatchError where
  declaration : String
  fault : DispatchFault
  deriving DecidableEq

/-- The error in the words of a message. -/
def DispatchError.describe (error : DispatchError) : String :=
  s!"Generated code for {error.declaration} is invalid: {error.fault.describe}"

namespace EventSet

/-- A path in the generated code. -/
def readPath (text : String) : Except DispatchFault Reference :=
  (Reference.ofText text).mapError (.path text)

/-- A name in the generated code. -/
def readIdent (text : String) : Except DispatchFault String :=
  (Reference.identOfText text).mapError (.ident text)

/-- The binding of a field. -/
def readBinding (field : Field) : Except DispatchFault Binding := do
  return { field := ← readIdent field.ident, key := field.key }

/-- The arm of an event: its name is read first, then its fields. -/
def readArm (variant : Variant) : Except DispatchFault Arm := do
  let name ← readIdent variant.name
  let bindings ← variant.fields.mapM readBinding
  return { variant := name, eventName := variant.eventName, bindings }

/-- Some field has a name that is not in snake case. -/
def hasCapitals (set : EventSet) : Bool :=
  set.variants.any fun variant =>
    variant.fields.any fun field => !Name.isSnakeCase field.ident

/-- The documentation of the generated implementation. -/
def summary (set : EventSet) (settings : Settings) : String :=
  s!" Converts `{set.path}` to an event name and params and logs it using " ++
    s!"`{settings.trackerTypePath}::log_event`."

/-- Whether the paths of an implementation fit where they stand in the code: that of the
trait at its front, with the path of the set as its argument, and then the others.  The set
stands in the patterns of the arms too, and the paths of the parameters in their results. -/
def checkPlaces (dispatch : Dispatch) : Except DispatchFault Unit := do
  unless dispatch.trackEvent.opensType do throw (.code .misplacedTry)
  unless dispatch.trackEvent.takesArguments do throw (.code .missingBody)
  unless [dispatch.set, dispatch.tracker, dispatch.params, dispatch.paramValue].all
    Reference.opensType do throw (.code .misplacedTry)
  unless dispatch.arms.isEmpty || dispatch.set.fitsExpr do throw (.code .missingArrow)
  unless dispatch.arms.isEmpty || dispatch.params.fitsExpr do throw (.code .comparison)
  unless dispatch.arms.all (·.bindings.isEmpty) || dispatch.paramValue.fitsExpr do
    throw (.code .comparison)

/-- The generated implementation, or the first fault. -/
def dispatchOrFault (set : EventSet) (settings : Settings) : Except DispatchFault Dispatch := do
  let path ← readPath set.path
  let tracker ← readPath settings.trackerTypePath
  let trackEvent ← readPath (settings.trackerItem "TrackEvent")
  let params ← readPath (settings.trackerItem "Params")
  let paramValue ← readPath (settings.trackerItem "ParamValue")
  let arms ← set.variants.mapM readArm
  let dispatch : Dispatch := {
    summary := set.summary settings
    set := path
    tracker, trackEvent, params, paramValue
    allowsCapitals := set.hasCapitals
    arms
    fallback := set.hasUnlisted }
  checkPlaces dispatch
  return dispatch

/-- The generated implementation, or the error that names the declaration. -/
def dispatch (set : EventSet) (settings : Settings) : Except DispatchError Dispatch :=
  (set.dispatchOrFault settings).mapError fun fault => { declaration := set.path, fault }

end EventSet

end EventDispatch
