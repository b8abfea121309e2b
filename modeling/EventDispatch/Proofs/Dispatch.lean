import EventDispatch.Artifact
import EventDispatch.Proofs.Result
import EventDispatch.Proofs.Variant

/-!
# What an implementation is generated from

The names that stand in the code are not always those of the declaration: a name is read
as a token first, so that blanks and comments around it are lost (`codeName`).  Each event
of a set has an arm with the names in this form (`arms_of_dispatch`), and the paths are
those that the set and the settings are read as (`of_dispatch`).
-/

namespace EventDispatch

open Source (Reference)

/-! ## Names in the code -/

/-- A name as it stands in the code; what cannot be read as a name stays as it is. -/
def codeName (name : String) : String :=
  match Reference.identOfText name with
  | .ok ident => ident
  | .error _ => name

/-- The arm of an event: its names as they stand in the code. -/
def Variant.arm (variant : Variant) : Arm where
  variant := codeName variant.name
  eventName := variant.eventName
  bindings := variant.fields.map fun field => { field := codeName field.ident, key := field.key }

/-- The paths fit where the code has them. -/
structure Dispatch.Fits (dispatch : Dispatch) : Prop where
  opens : ∀ reference ∈ dispatch.references, reference.opensType = true
  takesArguments : dispatch.trackEvent.takesArguments = true
  set : dispatch.arms = [] ∨ dispatch.set.fitsExpr = true
  params : dispatch.arms = [] ∨ dispatch.params.fitsExpr = true
  paramValue : (∀ arm ∈ dispatch.arms, arm.bindings = []) ∨ dispatch.paramValue.fitsExpr = true

theorem checkPlaces_eq_ok_iff {dispatch : Dispatch} :
    EventSet.checkPlaces dispatch = .ok () ↔ dispatch.Fits := by
  unfold EventSet.checkPlaces
  simp only [bind, Except.bind, throw, throwThe, MonadExceptOf.throw, pure, Except.pure,
    ite_error_eq_ok_iff, Bool.or_eq_true, List.isEmpty_iff, List.all_eq_true, and_true]
  constructor
  · rintro ⟨htrackEvent, htakes, hothers, hset, hparams, hvalue⟩
    simp only [List.forall_mem_cons] at hothers
    obtain ⟨hopens, htracker, hrest⟩ := hothers
    refine ⟨?_, htakes, hset, hparams, hvalue⟩
    simpa only [Dispatch.references, List.forall_mem_cons] using
      ⟨hopens, htracker, htrackEvent, hrest⟩
  · rintro ⟨hopens, htakes, hset, hparams, hvalue⟩
    simp only [Dispatch.references, List.forall_mem_cons] at hopens
    obtain ⟨hpath, htracker, htrackEvent, hrest⟩ := hopens
    refine ⟨htrackEvent, htakes, ?_, hset, hparams, hvalue⟩
    simpa only [List.forall_mem_cons] using ⟨hpath, htracker, hrest⟩

/-- What an implementation is generated from: each path and name is read from its text. -/
structure Dispatch.Of (dispatch : Dispatch) (set : EventSet) (settings : Settings) : Prop where
  summary : dispatch.summary = set.summary settings
  path : EventSet.readPath set.path = .ok dispatch.set
  tracker : EventSet.readPath settings.trackerTypePath = .ok dispatch.tracker
  trackEvent : EventSet.readPath (settings.trackerItem "TrackEvent") = .ok dispatch.trackEvent
  params : EventSet.readPath (settings.trackerItem "Params") = .ok dispatch.params
  paramValue : EventSet.readPath (settings.trackerItem "ParamValue") = .ok dispatch.paramValue
  arms : set.variants.mapM EventSet.readArm = .ok dispatch.arms
  fits : dispatch.Fits
  allowsCapitals : dispatch.allowsCapitals = set.hasCapitals
  fallback : dispatch.fallback = set.hasUnlisted

theorem of_dispatch {set : EventSet} {settings : Settings} {dispatch : Dispatch}
    (hdispatch : set.dispatch settings = .ok dispatch) : dispatch.Of set settings := by
  rw [EventSet.dispatch, mapError_eq_ok_iff] at hdispatch
  obtain ⟨path, hpath, hdispatch⟩ := bind_eq_ok_iff.mp hdispatch
  obtain ⟨tracker, htracker, hdispatch⟩ := bind_eq_ok_iff.mp hdispatch
  obtain ⟨trackEvent, htrackEvent, hdispatch⟩ := bind_eq_ok_iff.mp hdispatch
  obtain ⟨params, hparams, hdispatch⟩ := bind_eq_ok_iff.mp hdispatch
  obtain ⟨paramValue, hparamValue, hdispatch⟩ := bind_eq_ok_iff.mp hdispatch
  obtain ⟨arms, harms, hdispatch⟩ := bind_eq_ok_iff.mp hdispatch
  obtain ⟨_, hplaces, hdispatch⟩ := bind_eq_ok_iff.mp hdispatch
  cases hdispatch
  exact ⟨rfl, hpath, htracker, htrackEvent, hparams, hparamValue, harms,
    checkPlaces_eq_ok_iff.mp hplaces, rfl, rfl⟩

theorem exists_dispatch_of_artifact {set : EventSet} {settings : Settings}
    {printer : ArgumentPrinter} {artifact : Artifact}
    (hartifact : set.artifact settings printer = .ok artifact) :
    ∃ dispatch, set.dispatch settings = .ok dispatch ∧
      artifact.source = dispatch.render settings printer := by
  obtain ⟨dispatch, hdispatch, hresult⟩ := bind_eq_ok_iff.mp hartifact
  cases hresult
  exact ⟨dispatch, hdispatch, rfl⟩

theorem exists_artifact {set : EventSet} {settings : Settings} (printer : ArgumentPrinter)
    (hdispatch : (set.dispatch settings).toOption.isSome = true) :
    ∃ artifact, set.artifact settings printer = .ok artifact := by
  obtain ⟨dispatch, hsome⟩ := Option.isSome_iff_exists.mp hdispatch
  rw [toOption_eq_some_iff] at hsome
  exact ⟨_, bind_eq_ok_iff.mpr ⟨dispatch, hsome, rfl⟩⟩

/-- A declaration with a member of each kind and a raw field name. -/
def gestures : Declaration where
  name := "Gesture"
  path := "ui::Gesture"
  kind := .enum
  modality := .closed
  markers := ["analytics_event"]
  generic := false
  members := [
    { name := "DoubleTap", parent := none, fields := .unit, origin := ⟨"ui.rs", some 1⟩ },
    { name := "Swipe", parent := some "Gesture", fields := .named ["r#type", "screenName"]
      origin := ⟨"ui.rs", some 2⟩ },
    { name := "Drag", parent := none, fields := .positional 1, origin := ⟨"ui.rs", some 3⟩ }]
  origin := ⟨"ui.rs", some 1⟩

end EventDispatch
