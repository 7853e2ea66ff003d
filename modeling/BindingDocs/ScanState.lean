import BindingDocs.Declared
import BindingDocs.EventScan
import BindingDocs.Roster
import BindingDocs.UseLedger

/-!
# Reading line by line

A source is read from top to bottom.  A line that says something about events is read for these alone.  Any other line
tells about the function that is open, and may then close it and open the next one.
-/

namespace BindingDocs

/-- What a line says about events; nothing unless events are read. -/
def Scan.eventLine? (events : Bool) (line : Line) : Option EventLine :=
  if events then EventLine.ofLine? line.text else none

/-- What has been read of a source. -/
structure ScanState where
  /-- The function that is open: the lines after its usage message still tell about it. -/
  current : Option BoundFunction
  /-- The functions that have been closed, as far as they are kept. -/
  functions : Roster
  /-- The uses of argument names by all functions that have been closed. -/
  uses : UseLedger
  events : EventScan
  log : List Log.Entry

namespace ScanState

/-- Nothing has been read. -/
def empty : ScanState := ⟨none, [], [], .empty, []⟩

/-- Closes the open function, if there is one. -/
def close (s : ScanState) : ScanState :=
  match s.current with
  | none => s
  | some f =>
    { s with
      current := none
      functions := s.functions.add f
      uses := s.uses.addFunction f
      log := s.log ++ (s.functions.skipped f).toList }

/-- Opens a function; the one before it is closed. -/
def openUsage (v : Vocabulary) (s : ScanState) (usage : Usage) : ScanState :=
  { s.close with current := some (.ofUsage v usage) }

/-- Reads a line for the open function, if there is one. -/
def tell (v : Vocabulary) (s : ScanState) (line : Line) : ScanState :=
  match s.current with
  | none => s
  | some f =>
    let told := Declared.read v line ⟨f, []⟩
    { s with current := some told.function, log := s.log ++ told.warnings }

/-- Reads a line about functions: for the open one first, and then for the usage message of the next one. -/
def declare (v : Vocabulary) (s : ScanState) (line : Line) : ScanState :=
  let told := s.tell v line
  match Usage.ofLine? line.text with
  | some usage => told.openUsage v usage
  | none => told

/-- Reads a line. -/
def step (v : Vocabulary) (events : Bool) (s : ScanState) (line : Line) : ScanState :=
  if line.text.isEmpty then s
  else
    match Scan.eventLine? events line with
    | some said => { s with events := s.events.step v said }
    | none => s.declare v line

/-- Reads lines from the beginning. -/
def ofLines (v : Vocabulary) (events : Bool) (lines : List Line) : ScanState := lines.foldl (step v events) empty

/-- Closes the open function and completes the pending events. -/
def finish (s : ScanState) : ScanState := { s.close with events := ⟨s.events.events, []⟩ }

end ScanState

end BindingDocs
