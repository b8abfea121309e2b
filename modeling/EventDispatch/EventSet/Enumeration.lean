import EventDispatch.EventSet

/-!
# Enumeration in one pass

The event set of a declaration, found in one pass over its members.  The pass keeps
the events found so far and whether a member of the declaration's own was left out.
What it has to say it adds to notes that others have begun: a warning goes to the
diagnostics and to the records, an event to the records only.
-/

namespace EventDispatch

/-- The diagnostics and the records made so far. -/
structure Notes where
  diagnostics : List Diagnostic
  records : List Log.Record
  deriving DecidableEq

namespace Notes

/-- The notes with one more diagnostic, which is recorded too. -/
def report (notes : Notes) (diagnostic : Diagnostic) : Notes where
  diagnostics := notes.diagnostics ++ [diagnostic]
  records := notes.records ++ [diagnostic.record]

/-- The notes with one more record. -/
def record (notes : Notes) (record : Log.Record) : Notes :=
  { notes with records := notes.records ++ [record] }

end Notes

/-- What a pass over members has found so far. -/
structure Enumeration where
  variants : List Variant
  hasUnlisted : Bool
  notes : Notes
  deriving DecidableEq

namespace Enumeration

/-- A pass that has seen no member. -/
def start (notes : Notes) : Enumeration where
  variants := []
  hasUnlisted := false
  notes

/-- The pass with a member whose fields have the given names as an event. -/
def list (declaration : Declaration) (member : Member) (names : List String)
    (pass : Enumeration) : Enumeration :=
  { pass with
    variants := pass.variants ++ [Declaration.variantOf member names]
    notes := pass.notes.record
      (.debug s!"Variant {declaration.memberPath member} with {names.length} field(s)") }

/-- The pass after one more member. -/
def visit (declaration : Declaration) (pass : Enumeration) (member : Member) : Enumeration :=
  if declaration.owns member then
    match member.fields with
    | .unit => pass.list declaration member []
    | .named names => pass.list declaration member names
    | .positional count =>
        { pass with
          hasUnlisted := true
          notes := pass.notes.report (declaration.positionalWarning member count) }
  else { pass with notes := pass.notes.report (declaration.foreignWarning member) }

end Enumeration

/-- The event set of the declaration, if it has an event, and the notes with what was
found out on the way. -/
def Declaration.enumerate (declaration : Declaration) (notes : Notes) :
    Option EventSet × Notes :=
  let pass := declaration.members.foldl (Enumeration.visit declaration) (.start notes)
  if pass.variants.isEmpty then
    (none, pass.notes.report (.warning declaration.path (some declaration.origin.describe)
      s!"`{declaration.path}` has no valid variants, skipping"))
  else
    (some {
      name := declaration.name
      path := declaration.path
      hasUnlisted := pass.hasUnlisted
      variants := pass.variants }, pass.notes)

end EventDispatch
