import BindingDocs.Scan
import Mathlib.Data.List.Basic

/-!
# The two parts of a scan

A scan has one state for everything that it reads.  A line that says something about events leaves the functions, the
uses and the log alone (`ScanState.step_of_eventLine`); every other line leaves the events alone
(`ScanState.events_declare`).  So the events are those of a scan of the event lines (`ScanState.events_foldl_step`).
The functions are declared by the other lines alone: after each line the state holds the closed and the open function of
a scan that reads no events (`ScanState.Holds`), whatever lines about events stand between its lines.  The results are
then told by the two scans (`Scan.functions_ofText`, `Scan.uses_ofText`, `Scan.log_ofText`, `Scan.events_ofText`).
-/

namespace BindingDocs

/-! ### Scans of one kind of lines -/

/-- The functions that are complete, in order, and the one that is still open. -/
structure SignatureScan where
  closed : List Declared
  opened : Option Declared

namespace SignatureScan

/-- Nothing has been read. -/
def empty : SignatureScan := ⟨[], none⟩

/-- Every function, the open one last. -/
def declared (s : SignatureScan) : List Declared := s.closed ++ s.opened.toList

/-- Reads a line: it tells about the open function first, and may then open the next one. -/
def step (v : Vocabulary) (s : SignatureScan) (line : Line) : SignatureScan :=
  let opened := s.opened.map (Declared.read v line)
  match Usage.ofLine? line.text with
  | some usage => ⟨s.closed ++ opened.toList, some (.ofUsage v usage)⟩
  | none => ⟨s.closed, opened⟩

/-- Reads lines from the beginning. -/
def ofLines (v : Vocabulary) (lines : List Line) : SignatureScan := lines.foldl (step v) empty

end SignatureScan

namespace Scan

/-- The lines of a text that are not empty, with their numbers. -/
def numberedLines (text : Text) : List Line :=
  ((Text.lines text).zipIdx 1).filterMap fun p => if p.1.isEmpty then none else some ⟨p.2, p.1⟩

/-- The lines that say something about events. -/
def eventLines (events : Bool) (lines : List Line) : List EventLine := lines.filterMap (eventLine? events)

/-- The lines that say something about functions: all the others. -/
def functionLines (events : Bool) (lines : List Line) : List Line :=
  lines.filter fun line => (eventLine? events line).isNone

/-- The log of declarations that are added to a roster one after the other. -/
def rosterLog : Roster → List Declared → List Log.Entry
  | _, [] => []
  | r, d :: ds => d.warnings ++ (r.skipped d.function).toList ++ rosterLog (r.add d.function) ds

/-- The functions that a text declares, each with the lines after its usage message read. -/
def declarations (v : Vocabulary) (events : Bool) (text : Text) : List Declared :=
  (SignatureScan.ofLines v (functionLines events (numberedLines text))).declared

theorem rosterLog_concat (r : Roster) (ds : List Declared) (d : Declared) :
    rosterLog r (ds ++ [d]) = rosterLog r ds ++ d.warnings ++
      (((ds.map Declared.function).foldl Roster.add r).skipped d.function).toList := by
  induction ds generalizing r with
  | nil => simp [rosterLog]
  | cons e ds ih =>
    rw [List.cons_append, rosterLog, ih, rosterLog, List.map_cons, List.foldl_cons]
    simp only [List.append_assoc]

theorem filter_linesOf (text : Text) : (linesOf text).filter (fun l => !l.text.isEmpty) = numberedLines text := by
  rw [linesOf, numberedLines, List.filter_map, ← List.filterMap_eq_map, ← List.filterMap_eq_filter,
    List.filterMap_filterMap]
  refine List.filterMap_congr fun p _ => ?_
  cases hempty : p.1.isEmpty <;> simp [Option.guard, hempty]

end Scan

/-! ### One line -/

namespace Declared

/-- The warnings that have arisen before do not matter for what a line tells. -/
theorem read_eq (v : Vocabulary) (line : Line) (d : Declared) :
    d.read v line = ⟨(read v line ⟨d.function, []⟩).function, d.warnings ++ (read v line ⟨d.function, []⟩).warnings⟩ :=
  rfl

end Declared

namespace ScanState

open Scan (eventLine? eventLines functionLines rosterLog)

variable {v : Vocabulary} {events : Bool} {s : ScanState} {line : Line}

theorem step_of_isEmpty (h : line.text.isEmpty = true) : s.step v events line = s := if_pos h

/-- A line about events leaves everything but the events as it is. -/
theorem step_of_eventLine (h : line.text.isEmpty = false) {said : EventLine}
    (hsaid : eventLine? events line = some said) :
    s.step v events line = { s with events := s.events.step v said } := by
  simp [step, h, hsaid]

theorem step_of_functionLine (h : line.text.isEmpty = false) (hnone : eventLine? events line = none) :
    s.step v events line = s.declare v line := by
  simp [step, h, hnone]

theorem events_close (s : ScanState) : s.close.events = s.events := by
  unfold close
  split <;> rfl

theorem events_tell (v : Vocabulary) (s : ScanState) (line : Line) : (s.tell v line).events = s.events := by
  unfold tell
  split <;> rfl

/-- A line about functions leaves the events as they are. -/
theorem events_declare (v : Vocabulary) (s : ScanState) (line : Line) : (s.declare v line).events = s.events := by
  unfold declare
  split
  · exact (events_close _).trans (events_tell v s line)
  · exact events_tell v s line

/-- The state holds the functions that a scan of signatures has read: the open one as it is, the closed ones added to
the roster and to the ledger, and the warnings of all of them. -/
structure Holds (s : ScanState) (t : SignatureScan) : Prop where
  current : s.current = t.opened.map Declared.function
  functions : s.functions = Roster.ofList (t.closed.map Declared.function)
  uses : s.uses = UseLedger.ofFunctions (t.closed.map Declared.function)
  log : s.log = rosterLog [] t.closed ++ t.opened.toList.flatMap Declared.warnings

variable {t : SignatureScan}

theorem holds_empty : Holds empty .empty := ⟨rfl, rfl, rfl, rfl⟩

/-- When the open function is closed, the state holds the same functions. -/
theorem Holds.close (h : Holds s t) : Holds s.close ⟨t.declared, none⟩ := by
  obtain ⟨closed, opened⟩ := t
  obtain ⟨current, functions, uses, said, log⟩ := s
  obtain ⟨rfl, rfl, rfl, rfl⟩ := h
  cases opened with
  | none =>
    constructor <;> simp [SignatureScan.declared, ScanState.close]
  | some d =>
    refine ⟨rfl, ?_, ?_, ?_⟩
    · simp [SignatureScan.declared, ScanState.close, Roster.ofList]
    · simp [SignatureScan.declared, ScanState.close, UseLedger.ofFunctions]
    · simp [SignatureScan.declared, ScanState.close, Scan.rosterLog_concat, Roster.ofList]

theorem Holds.tell (h : Holds s t) (v : Vocabulary) (line : Line) :
    Holds (s.tell v line) ⟨t.closed, t.opened.map (Declared.read v line)⟩ := by
  obtain ⟨closed, opened⟩ := t
  obtain ⟨current, functions, uses, said, log⟩ := s
  obtain ⟨rfl, rfl, rfl, rfl⟩ := h
  cases opened with
  | none => exact ⟨rfl, rfl, rfl, rfl⟩
  | some d =>
    refine ⟨rfl, rfl, rfl, ?_⟩
    simp [ScanState.tell, Declared.read_eq v line d]

theorem Holds.openUsage (h : Holds s t) (v : Vocabulary) (usage : Usage) :
    Holds (s.openUsage v usage) ⟨t.declared, some (.ofUsage v usage)⟩ := by
  obtain ⟨-, hfunctions, huses, hlog⟩ := h.close
  exact ⟨rfl, hfunctions, huses, hlog⟩

theorem Holds.declare (h : Holds s t) (v : Vocabulary) (line : Line) :
    Holds (s.declare v line) (t.step v line) := by
  unfold ScanState.declare SignatureScan.step
  cases Usage.ofLine? line.text with
  | none => exact h.tell v line
  | some usage => exact (h.tell v line).openUsage v usage

/-! ### The run -/

/-- The lines about events decide the events, whatever stands between them. -/
theorem events_foldl_step (v : Vocabulary) (events : Bool) (lines : List Line) (s : ScanState) :
    (lines.foldl (step v events) s).events =
      (eventLines events (lines.filter fun l => !l.text.isEmpty)).foldl (EventScan.step v) s.events := by
  induction lines generalizing s with
  | nil => rfl
  | cons line lines ih =>
    rw [List.foldl_cons, ih]
    cases hempty : line.text.isEmpty with
    | true => simp [step_of_isEmpty hempty, hempty]
    | false =>
      cases hsaid : eventLine? events line with
      | some said => simp [step_of_eventLine hempty hsaid, hempty, eventLines, hsaid]
      | none => simp [step_of_functionLine hempty hsaid, events_declare, hempty, eventLines, hsaid]

/-- The other lines decide the functions, whatever stands between them. -/
theorem Holds.foldl_step (h : Holds s t) (v : Vocabulary) (events : Bool) (lines : List Line) :
    Holds (lines.foldl (step v events) s)
      ((functionLines events (lines.filter fun l => !l.text.isEmpty)).foldl (SignatureScan.step v) t) := by
  induction lines generalizing s t with
  | nil => exact h
  | cons line lines ih =>
    rw [List.foldl_cons]
    cases hempty : line.text.isEmpty with
    | true =>
      rw [step_of_isEmpty hempty, List.filter_cons_of_neg (by simp [hempty])]
      exact ih h
    | false =>
      rw [List.filter_cons_of_pos (by simp [hempty])]
      cases hsaid : eventLine? events line with
      | some said =>
        have hkeeps : Holds (s.step v events line) t := by
          rw [step_of_eventLine hempty hsaid]
          exact ⟨h.current, h.functions, h.uses, h.log⟩
        simpa [functionLines, hsaid] using ih hkeeps
      | none =>
        have hdeclares : Holds (s.step v events line) (t.step v line) := by
          rw [step_of_functionLine hempty hsaid]
          exact h.declare v line
        simpa [functionLines, hsaid] using ih hdeclares

end ScanState

/-! ### The results -/

namespace Scan

theorem holds_ofText (v : Vocabulary) (events : Bool) (text : Text) :
    (ScanState.ofLines v events (linesOf text)).close.Holds ⟨declarations v events text, none⟩ := by
  have hrun := (ScanState.holds_empty.foldl_step v events (linesOf text)).close
  rwa [filter_linesOf] at hrun

theorem functions_ofText (v : Vocabulary) (events : Bool) (source : Source) (text : Text) :
    (ofText v events source text).functions =
      (Roster.ofList ((declarations v events text).map Declared.function)).filterMap
        (ScriptName.ofFunction? v source) := by
  have hfunctions := (holds_ofText v events text).functions
  exact congrArg (ScriptName.ofFunctions v source) hfunctions

theorem uses_ofText (v : Vocabulary) (events : Bool) (source : Source) (text : Text) :
    (ofText v events source text).uses = UseLedger.ofFunctions ((declarations v events text).map Declared.function) :=
  (holds_ofText v events text).uses

theorem log_ofText (v : Vocabulary) (events : Bool) (source : Source) (text : Text) :
    (ofText v events source text).log = rosterLog [] (declarations v events text) ++
      UseLedger.report source.scope (ofText v events source text).uses := by
  have hlog := (holds_ofText v events text).log
  rw [Option.toList_none, List.flatMap_nil, List.append_nil] at hlog
  exact congrArg (· ++ UseLedger.report source.scope (ofText v events source text).uses) hlog

theorem events_ofText (v : Vocabulary) (events : Bool) (source : Source) (text : Text) :
    (ofText v events source text).events =
      (EventScan.ofLines v (eventLines events (numberedLines text))).events := by
  have hevents := ScanState.events_foldl_step v events (linesOf text) .empty
  rw [filter_linesOf] at hevents
  exact congrArg EventScan.events hevents

end Scan

end BindingDocs
