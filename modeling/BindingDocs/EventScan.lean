import BindingDocs.Record
import BindingDocs.Vocabulary

/-!
# Reading events

The dispatcher has a `case EVENT_…:` label for each event and exports variables below it.  Labels that follow
one another without an export between them form a group, and each event of a group exports the same variables.
-/

namespace BindingDocs

/-- What a line of the dispatcher says about events. -/
inductive EventLine where
  | label (name : Text)
  | exported (name : Text)
  deriving DecidableEq, Repr

namespace EventLine

/-- The beginning of the label of an event. -/
def labelMarker : Text := "case EVENT".toList

/-- The call that exports a variable, up to the beginning of its name. -/
def exportMarker : Text := "ExportVar(package_name.c_str(), \"".toList

/-- What a line says about events.  The name of an event goes up to the colon; that of a variable up to the
quote that ends it, unless the quote follows at once or is missing: then it is the rest of the line. -/
def ofLine? (line : Text) : Option EventLine :=
  match Text.cut? labelMarker line with
  | some (_, rest) => some (.label (Text.before ":".toList ("EVENT".toList ++ rest)))
  | none =>
    (Text.cut? exportMarker line).map fun cut => .exported (Text.beforeUnlessFirst "\"".toList cut.2)

end EventLine

namespace Event

/-- The event with one more exported variable. -/
def addExport (e : Event) (x : Export) : Event := { e with exports := e.exports ++ [x] }

end Event

/-- The events that are complete, and the group that may still get exports. -/
structure EventScan where
  done : List Event
  pending : List Event

namespace EventScan

/-- Nothing has been read. -/
def empty : EventScan := ⟨[], []⟩

/-- Every event, the pending ones last. -/
def events (s : EventScan) : List Event := s.done ++ s.pending

/-- Does the pending group have exports already? -/
def hasExports (s : EventScan) : Bool := (s.pending.head?.map fun e => !e.exports.isEmpty).getD false

/-- Reads what a line says: a label joins the pending group, or begins a new one if that has exports; an
exported variable goes to every event of the group. -/
def step (v : Vocabulary) (s : EventScan) : EventLine → EventScan
  | .label name =>
    if s.hasExports then ⟨s.done ++ s.pending, [⟨name, []⟩]⟩
    else ⟨s.done, s.pending ++ [⟨name, []⟩]⟩
  | .exported name => ⟨s.done, s.pending.map fun e => e.addExport ⟨name, v.eventType? name⟩⟩

/-- Reads lines from the beginning. -/
def ofLines (v : Vocabulary) (lines : List EventLine) : EventScan := lines.foldl (step v) empty

end EventScan

end BindingDocs
