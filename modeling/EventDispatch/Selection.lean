import EventDispatch.Declaration.Table
import EventDispatch.Diagnostic

/-!
# Selection of marked declarations

Of the declarations in a table those with the marker are candidates, and a
candidate is accepted when it is a closed enumeration without generic
parameters.  Every other candidate is rejected with one warning.
-/

namespace EventDispatch

/-- Why a marked declaration is rejected. -/
inductive Rejection where
  | otherKind (kind : Kind)
  | notClosed
  | generic
  deriving DecidableEq

/-- The reason in the words of a message. -/
def Rejection.describe : Rejection → String
  | otherKind kind => s!"is a {kind.describe}, not an enum"
  | notClosed => "is not a closed variant set"
  | generic => "has generic parameters"

/-- The decision about a declaration. -/
inductive Verdict where
  | unmarked
  | rejected (reason : Rejection)
  | accepted
  deriving DecidableEq

namespace Declaration

/-- The first reason to reject the declaration. -/
def rejection? (declaration : Declaration) : Option Rejection :=
  if declaration.kind ≠ .enum then some (.otherKind declaration.kind)
  else if declaration.modality = .extensible then some .notClosed
  else if declaration.generic then some .generic
  else none

/-- The decision about the declaration under a marker. -/
def verdict (marker : String) (declaration : Declaration) : Verdict :=
  if declaration.hasMarker marker then
    match declaration.rejection? with
    | some reason => .rejected reason
    | none => .accepted
  else .unmarked

/-- The warning about a rejected declaration. -/
def rejectionWarning (declaration : Declaration) (reason : Rejection) : Diagnostic :=
  .warning declaration.path (some declaration.origin.describe)
    s!"`{declaration.path}` {reason.describe}, skipping"

/-- The record of the decision about the declaration. -/
def verdictRecord (marker : String) (declaration : Declaration) : Log.Record :=
  match declaration.verdict marker with
  | .unmarked => .trace s!"Skipping unmarked declaration {declaration.path}"
  | .rejected reason => (declaration.rejectionWarning reason).record
  | .accepted => .debug s!"Accepted closed variant set {declaration.path}"

end Declaration

namespace Table

/-- The accepted declarations, in table order. -/
def accepted (table : Table) (marker : String) : List Declaration :=
  table.toList.filter fun declaration => declaration.verdict marker == .accepted

/-- The warnings about rejected declarations, in table order. -/
def selectionWarnings (table : Table) (marker : String) : List Diagnostic :=
  table.toList.filterMap fun declaration =>
    match declaration.verdict marker with
    | .rejected reason => some (declaration.rejectionWarning reason)
    | _ => none

/-- The records of all decisions, in table order. -/
def selectionRecords (table : Table) (marker : String) : List Log.Record :=
  table.toList.map (Declaration.verdictRecord marker)

end Table

end EventDispatch
