import BindingDocs.ScanState
import BindingDocs.ScriptName

/-!
# Scans

What a source documents: its functions under the names that scripts use, its events, and the uses of argument names.
-/

namespace BindingDocs

/-- Everything that a source documents. -/
structure Scan where
  functions : List BoundFunction
  events : List Event
  uses : UseLedger
  log : List Log.Entry

namespace Scan

/-- The lines of a text with their numbers. -/
def linesOf (text : Text) : List Line := ((Text.lines text).zipIdx 1).map fun p => ⟨p.2, p.1⟩

/-- Reads the text of a source. -/
def ofText (v : Vocabulary) (events : Bool) (source : Source) (text : Text) : Scan :=
  let s := (ScanState.ofLines v events (linesOf text)).finish
  { functions := ScriptName.ofFunctions v source s.functions
    events := s.events.done
    uses := s.uses
    log := s.log ++ UseLedger.report source.scope s.uses }

end Scan

end BindingDocs
