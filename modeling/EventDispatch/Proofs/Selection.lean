import Mathlib.Data.List.Basic
import EventDispatch.Selection

/-!
# Which declarations are accepted

`Declaration.verdict` decides by four things in turn: the marker, the kind, the
modality, and whether there are generic parameters.  The lemmas here say for
each verdict when it is given, so that what follows need not look into the
decision again.
-/

namespace EventDispatch

/-- The reason holds of the declaration, and none that is looked at before it does. -/
def Rejection.Applies (declaration : Declaration) : Rejection → Prop
  | .otherKind kind => declaration.kind = kind ∧ kind ≠ .enum
  | .notClosed => declaration.kind = .enum ∧ declaration.modality = .extensible
  | .generic =>
      declaration.kind = .enum ∧ declaration.modality = .closed ∧ declaration.generic = true

/-- A closed enumeration without generic parameters. -/
def Declaration.IsPlainSet (declaration : Declaration) : Prop :=
  declaration.kind = .enum ∧ declaration.modality = .closed ∧ declaration.generic = false

namespace Declaration

variable {declaration : Declaration} {marker : String} {reason : Rejection}

theorem hasMarker_iff : declaration.hasMarker marker = true ↔ marker ∈ declaration.markers := by
  simp [hasMarker]

theorem modality_eq_closed_iff : declaration.modality = .closed ↔
    declaration.modality ≠ .extensible := by
  cases declaration.modality <;> simp

theorem rejection?_eq_some_iff :
    declaration.rejection? = some reason ↔ reason.Applies declaration := by
  unfold rejection?
  split
  · rename_i hkind
    cases reason with
    | otherKind kind => grind [Rejection.Applies]
    | notClosed => simp [Rejection.Applies, hkind]
    | generic => simp [Rejection.Applies, hkind]
  · rename_i hkind
    rw [not_not] at hkind
    have hmodality : declaration.modality = .closed ↔ declaration.modality ≠ .extensible :=
      modality_eq_closed_iff
    cases reason with
    | otherKind kind => grind [Rejection.Applies]
    | notClosed => grind [Rejection.Applies]
    | generic => grind [Rejection.Applies]

theorem rejection?_eq_none_iff : declaration.rejection? = none ↔ declaration.IsPlainSet := by
  unfold rejection? IsPlainSet
  rw [modality_eq_closed_iff]
  by_cases hkind : declaration.kind = .enum
  · by_cases hmodality : declaration.modality = .extensible <;>
      cases hgeneric : declaration.generic <;> simp [hkind, hmodality]
  · simp [hkind]

/-! ## Verdicts -/

theorem verdict_eq_unmarked_iff :
    declaration.verdict marker = .unmarked ↔ marker ∉ declaration.markers := by
  rw [← hasMarker_iff, verdict]
  cases declaration.hasMarker marker with
  | false => simp
  | true => cases declaration.rejection? <;> simp

theorem verdict_eq_rejected_iff : declaration.verdict marker = .rejected reason ↔
    marker ∈ declaration.markers ∧ reason.Applies declaration := by
  rw [← hasMarker_iff, ← rejection?_eq_some_iff, verdict]
  cases declaration.hasMarker marker with
  | false => simp
  | true => cases declaration.rejection? <;> simp

theorem verdict_eq_accepted_iff : declaration.verdict marker = .accepted ↔
    marker ∈ declaration.markers ∧ declaration.IsPlainSet := by
  rw [← hasMarker_iff, ← rejection?_eq_none_iff, verdict]
  cases declaration.hasMarker marker with
  | false => simp
  | true => cases declaration.rejection? <;> simp

end Declaration

/-! ## Tables -/

namespace Table

variable {marker : String} {declaration : Declaration} {rest : List Declaration}

theorem marked_cons_of_mem (hmarker : marker ∈ declaration.markers) :
    (Table.mk (declaration :: rest)).marked marker =
      declaration :: (Table.mk rest).marked marker := by
  simp [marked, Declaration.hasMarker_iff.mpr hmarker]

theorem marked_cons_of_notMem (hmarker : marker ∉ declaration.markers) :
    (Table.mk (declaration :: rest)).marked marker = (Table.mk rest).marked marker := by
  have hnot : ¬ declaration.hasMarker marker = true :=
    fun hhas => hmarker (Declaration.hasMarker_iff.mp hhas)
  simp [marked, hnot]

theorem accepted_cons_of_accepted (haccepted : declaration.verdict marker = .accepted) :
    (Table.mk (declaration :: rest)).accepted marker =
      declaration :: (Table.mk rest).accepted marker := by
  simp [accepted, haccepted]

theorem accepted_cons_of_ne (hne : declaration.verdict marker ≠ .accepted) :
    (Table.mk (declaration :: rest)).accepted marker = (Table.mk rest).accepted marker := by
  simp [accepted, hne]

theorem selectionWarnings_cons_of_rejected {reason : Rejection}
    (hrejected : declaration.verdict marker = .rejected reason) :
    (Table.mk (declaration :: rest)).selectionWarnings marker =
      declaration.rejectionWarning reason :: (Table.mk rest).selectionWarnings marker := by
  simp [selectionWarnings, hrejected]

theorem selectionWarnings_cons_of_ne
    (hne : ∀ reason, declaration.verdict marker ≠ .rejected reason) :
    (Table.mk (declaration :: rest)).selectionWarnings marker =
      (Table.mk rest).selectionWarnings marker := by
  cases hverdict : declaration.verdict marker with
  | rejected reason => exact absurd hverdict (hne reason)
  | unmarked => simp [selectionWarnings, hverdict]
  | accepted => simp [selectionWarnings, hverdict]

end Table

end EventDispatch
