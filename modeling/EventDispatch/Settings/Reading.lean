import EventDispatch.Document.Reader
import EventDispatch.Document.Shape
import EventDispatch.Settings

/-!
# Settings in documents

The settings of a generator as a table of a document.  Every setting may be left
out.
-/

namespace EventDispatch.Settings

open Document Document.Record

/-- The fields of the settings. -/
def record : Record Settings :=
  Settings.mk <$> orElse "marker" Reading.text standard.marker
    <*> orElse "tracker_crate" Reading.text standard.trackerCrate
    <*> orElse "tracker_type" Reading.text standard.trackerType
    <*> orElse "header" Reading.truth standard.header

/-- Why a text holds no settings. -/
inductive Fault where
  | notDocument
  | shape (fault : Document.Fault)
  deriving DecidableEq

/-- The message of a fault in a text, where it has words of its own. -/
def Fault.message? (source : String) : Fault → Option String
  | notDocument => none
  | shape fault => some (fault.message source)

/-- The settings that a text holds. -/
def ofText (source : String) : Except Fault Settings :=
  match Document.ofText source with
  | none => .error .notDocument
  | some document =>
      match record.ofTable document with
      | .ok settings => .ok settings
      | .error fault => .error (.shape fault)

end EventDispatch.Settings
