import BindingDocs.Proofs.EventGroups
import BindingDocs.Proofs.ScanFunctions

/-!
# Events apart from functions

A line that holds a marker of events leaves all of the state but the events as it is, and what any other line does
neither changes the events nor depends on them (`ScanState.declare_with_events`).  So a scan that reads events goes,
line by line, with a scan without events of the other lines and with a scan of the marked lines
(`ScanState.foldl_step_apart`), and it finds the functions and the events that stand in the texts of these
(`events_apart_from_functions`).  In the text of the other lines they have other numbers: the runs stay in step, since
a number shows in warnings only (`SameFunctions.step`).  Texts with just these lines exist, for lines can be put
together to a text that has them again (`lines_ofLines`).
-/

namespace BindingDocs

/-! ### The text of given lines -/

namespace Text

/-- The text of lines, with a carriage return and a line feed after each. -/
def ofLines (ls : List Text) : Text := ls.flatMap fun l => l ++ "\r\n".toList

private theorem ofLines_eq_intercalate (ls : List Text) :
    ofLines ls = ['\n'].intercalate (ls.map (fun l => l ++ ['\r']) ++ [[]]) := by
  induction ls with
  | nil => rfl
  | cons l ls ih =>
    obtain ⟨piece, pieces, hp⟩ := List.exists_cons_of_ne_nil
      (List.append_ne_nil_of_right_ne_nil (ls.map fun l => l ++ ['\r']) (List.cons_ne_nil ([] : Text) []))
    rw [ofLines, List.flatMap_cons, ← ofLines, ih, List.map_cons, List.cons_append, hp,
      List.intercalate_cons_cons]
    simp

private theorem linesOfPieces_map (ls : List Text) :
    linesOfPieces (ls.map (fun l => l ++ ['\r']) ++ [[]]) = ls := by
  induction ls with
  | nil => rfl
  | cons l ls ih =>
    obtain ⟨piece, pieces, hp⟩ := List.exists_cons_of_ne_nil
      (List.append_ne_nil_of_right_ne_nil (ls.map fun l => l ++ ['\r']) (List.cons_ne_nil ([] : Text) []))
    rw [hp] at ih
    rw [List.map_cons, List.cons_append, hp, linesOfPieces, ih]
    · simp [dropReturn]
    · simp

/-- A text that is put together from lines has these lines, the empty ones and those with a carriage return at their
end included. -/
theorem lines_ofLines {ls : List Text} (h : ∀ l ∈ ls, '\n' ∉ l) : lines (ofLines ls) = ls := by
  have hpieces : ∀ piece ∈ ls.map (fun l => l ++ ['\r']) ++ [[]], '\n' ∉ piece := by
    intro piece hp
    rcases List.mem_append.1 hp with hp | hp
    · obtain ⟨l, hl, rfl⟩ := List.mem_map.1 hp
      simpa using h l hl
    · simp [List.mem_singleton.1 hp]
  rw [lines, ofLines_eq_intercalate, List.splitOn_intercalate '\n' hpieces (by simp), linesOfPieces_map]

/-- The pieces of a text hold its characters, save those at which it is split. -/
theorem exists_mem_splitOnP_iff {p : Char → Bool} {s : Text} {c : Char} :
    (∃ piece ∈ s.splitOnP p, c ∈ piece) ↔ c ∈ s ∧ p c = false := by
  induction s with
  | nil => simp
  | cons a s ih =>
    obtain ⟨first, rest, hsplit⟩ := List.exists_cons_of_ne_nil (List.splitOnP_ne_nil p s)
    rw [List.splitOnP_cons_eq_if_modifyHead, List.mem_cons, or_and_right, ← ih, hsplit]
    by_cases ha : p a = true
    · have hca : ¬ (c = a ∧ p c = false) := by
        rintro ⟨rfl, hc⟩
        rw [ha] at hc
        cases hc
      simp [ha, hca]
    · have hca : c = a ∧ p c = false ↔ c = a :=
        and_iff_left_of_imp fun h => by rw [h, Bool.eq_false_iff]; exact ha
      simp [ha, hca, or_assoc]

theorem not_mem_of_mem_splitOn {c : Char} {s piece : Text} (h : piece ∈ s.splitOn c) : c ∉ piece := by
  rw [List.splitOn_eq_splitOnP] at h
  intro hc
  simpa using (exists_mem_splitOnP_iff.1 ⟨piece, h, hc⟩).2

private theorem isPrefix_of_mem_linesOfPieces {l : Text} {pieces : List Text} (h : l ∈ linesOfPieces pieces) :
    ∃ piece ∈ pieces, l <+: piece := by
  fun_induction linesOfPieces pieces with
  | case1 => cases h
  | case2 => cases h
  | case3 last hlast =>
    obtain rfl := List.mem_singleton.1 h
    exact ⟨l, List.mem_singleton_self l, List.prefix_rfl⟩
  | case4 piece pieces hne ih =>
    rcases List.mem_cons.1 h with rfl | h
    · refine ⟨piece, List.mem_cons_self, ?_⟩
      unfold dropReturn
      split
      · exact List.dropLast_prefix piece
      · exact List.prefix_rfl
    · obtain ⟨piece', hmem, hfront⟩ := ih h
      exact ⟨piece', List.mem_cons_of_mem piece hmem, hfront⟩

theorem not_mem_of_mem_lines {l s : Text} (h : l ∈ lines s) : '\n' ∉ l := by
  obtain ⟨piece, hpiece, hfront⟩ := isPrefix_of_mem_linesOfPieces h
  exact fun hmem => not_mem_of_mem_splitOn hpiece (hfront.subset hmem)

/-- Some lines of a text are the lines of a text. -/
theorem exists_lines_eq_filter (p : Text → Bool) (s : Text) : ∃ t, lines t = (lines s).filter p :=
  ⟨ofLines ((lines s).filter p), lines_ofLines fun _ hl => not_mem_of_mem_lines (List.mem_filter.1 hl).1⟩

end Text

/-! ### Two runs in step -/

namespace Declared

/-- What a line tells about a function does not depend on its number. -/
theorem function_read_congr (v : Vocabulary) {l l' : Line} {d d' : Declared} (hl : l.text = l'.text)
    (hd : d.function = d'.function) : (d.read v l).function = (d'.read v l').function := by
  simp only [read, readArgument_eq, hl, hd]

end Declared

namespace SignatureScan

/-- Two scans have read the same functions, whatever their warnings are. -/
structure SameFunctions (s s' : SignatureScan) : Prop where
  closed : s.closed.map Declared.function = s'.closed.map Declared.function
  opened : s.opened.map Declared.function = s'.opened.map Declared.function

variable {s s' : SignatureScan}

theorem SameFunctions.declared (h : SameFunctions s s') :
    s.declared.map Declared.function = s'.declared.map Declared.function := by
  rw [SignatureScan.declared, SignatureScan.declared, List.map_append, List.map_append, h.closed,
    ← Option.toList_map, ← Option.toList_map, h.opened]

/-- Lines with the same text keep two scans in step. -/
theorem SameFunctions.step (h : SameFunctions s s') (v : Vocabulary) {l l' : Line} (hl : l.text = l'.text) :
    SameFunctions (s.step v l) (s'.step v l') := by
  have hread : (s.opened.map (Declared.read v l)).map Declared.function =
      (s'.opened.map (Declared.read v l')).map Declared.function := by
    have hopened := h.opened
    cases ho : s.opened <;> cases ho' : s'.opened <;> simp only [ho, ho', Option.map_some, Option.map_none,
      Option.some.injEq, reduceCtorEq] at hopened ⊢
    exact Declared.function_read_congr v hl hopened
  unfold SignatureScan.step
  rw [hl]
  cases Usage.ofLine? l'.text with
  | none => exact ⟨h.closed, hread⟩
  | some usage =>
    refine ⟨?_, rfl⟩
    simp only [List.map_append, h.closed, ← Option.toList_map, hread]

theorem SameFunctions.foldl_step (v : Vocabulary) {lines lines' : List Line}
    (hl : lines.map Line.text = lines'.map Line.text) (h : SameFunctions s s') :
    SameFunctions (lines.foldl (SignatureScan.step v) s) (lines'.foldl (SignatureScan.step v) s') := by
  induction lines generalizing lines' s s' with
  | nil =>
    obtain rfl := List.map_eq_nil_iff.1 hl.symm
    exact h
  | cons l lines ih =>
    cases lines' with
    | nil => cases hl
    | cons l' lines' =>
      rw [List.map_cons, List.map_cons, List.cons.injEq] at hl
      have hrest := ih hl.2 (h.step v hl.1)
      exact hrest

/-- What lines declare depends on their texts alone. -/
theorem map_function_declared_congr (v : Vocabulary) {lines lines' : List Line}
    (hl : lines.map Line.text = lines'.map Line.text) :
    (ofLines v lines).declared.map Declared.function = (ofLines v lines').declared.map Declared.function :=
  (SameFunctions.foldl_step v hl ⟨rfl, rfl⟩).declared

end SignatureScan

/-! ### Marked and other lines -/

namespace EventLine

/-- The line holds a marker of events. -/
def IsMarked (line : Text) : Prop := labelMarker <:+: line ∨ exportMarker <:+: line

instance (line : Text) : Decidable (IsMarked line) :=
  inferInstanceAs (Decidable (labelMarker <:+: line ∨ exportMarker <:+: line))

theorem ofLine?_eq_none_iff_not_isMarked {line : Text} : ofLine? line = none ↔ ¬ IsMarked line := by
  rw [ofLine?_eq_none_iff, IsExport, IsMarked, IsLabel, not_or]
  constructor
  · rintro ⟨hlabel, hexport⟩
    exact ⟨hlabel, fun h => hexport ⟨hlabel, h⟩⟩
  · rintro ⟨hlabel, hexport⟩
    exact ⟨hlabel, fun h => hexport h.2⟩

theorem IsMarked.isEmpty_eq_false {line : Text} (h : IsMarked line) : line.isEmpty = false := by
  cases line with
  | nil => exact absurd h (by decide)
  | cons c line => rfl

end EventLine

/-! ### The state of a scan -/

namespace ScanState

variable {v : Vocabulary} {s : ScanState} {l : Line}

/-- What is read for functions does not depend on the events. -/
theorem declare_with_events (v : Vocabulary) (s : ScanState) (l : Line) (es : EventScan) :
    declare v { s with events := es } l = { s.declare v l with events := es } := by
  obtain ⟨current, functions, uses, events, log⟩ := s
  unfold declare
  cases Usage.ofLine? l.text <;> cases current <;> rfl

/-- Without events, every line is read for functions. -/
theorem step_false (v : Vocabulary) (s : ScanState) (l : Line) :
    s.step v false l = if l.text.isEmpty then s else s.declare v l := rfl

theorem events_step_false (v : Vocabulary) (s : ScanState) (l : Line) : (s.step v false l).events = s.events := by
  rw [step_false]
  split
  · rfl
  · exact events_declare v s l

theorem step_false_with_events (v : Vocabulary) (s : ScanState) (l : Line) (es : EventScan) :
    step v false { s with events := es } l = { s.step v false l with events := es } := by
  rw [step_false, step_false]
  split
  · rfl
  · exact declare_with_events v s l es

theorem foldl_step_false_with_events (v : Vocabulary) (lines : List Line) (s : ScanState) (es : EventScan) :
    lines.foldl (step v false) { s with events := es } = { lines.foldl (step v false) s with events := es } := by
  induction lines generalizing s with
  | nil => rfl
  | cons l lines ih => rw [List.foldl_cons, List.foldl_cons, step_false_with_events, ih]

theorem step_of_isMarked (h : EventLine.IsMarked l.text) : ∃ es, s.step v true l = { s with events := es } := by
  obtain ⟨said, hsaid⟩ := Option.ne_none_iff_exists'.1 (mt EventLine.ofLine?_eq_none_iff_not_isMarked.1 (not_not.2 h))
  exact ⟨_, step_of_eventLine h.isEmpty_eq_false hsaid⟩

theorem step_of_not_isMarked (h : ¬ EventLine.IsMarked l.text) : s.step v true l = s.step v false l := by
  have hnone : Scan.eventLine? true l = none := EventLine.ofLine?_eq_none_iff_not_isMarked.2 h
  rw [step_false]
  cases hempty : l.text.isEmpty with
  | true => exact step_of_isEmpty hempty
  | false => exact step_of_functionLine hempty hnone

/-- Two scans that read the same lines about events have the same events if they had the same before. -/
theorem events_foldl_step_congr (lines : List Line) {r : ScanState} (h : s.events = r.events) :
    (lines.foldl (step v true) s).events = (lines.foldl (step v true) r).events := by
  rw [events_foldl_step, events_foldl_step, h]

theorem foldl_step_apart (v : Vocabulary) (lines : List Line) (s : ScanState) :
    lines.foldl (step v true) s =
      { (lines.filter fun l => ¬ EventLine.IsMarked l.text).foldl (step v false) s with
        events := ((lines.filter fun l => EventLine.IsMarked l.text).foldl (step v true) s).events } := by
  induction lines generalizing s with
  | nil => rfl
  | cons l lines ih =>
    rw [List.foldl_cons, ih]
    by_cases h : EventLine.IsMarked l.text
    · -- what the marked line adds to the events passes through the scan of the other lines
      obtain ⟨es, hstep⟩ := step_of_isMarked (v := v) (s := s) h
      rw [List.filter_cons_of_neg (by simp [h]), List.filter_cons_of_pos (by simp [h]), List.foldl_cons, hstep,
        foldl_step_false_with_events]
    · have hevents : (s.step v true l).events = s.events := by rw [step_of_not_isMarked h, events_step_false]
      rw [List.filter_cons_of_pos (by simp [h]), List.filter_cons_of_neg (by simp [h]), List.foldl_cons,
        events_foldl_step_congr _ hevents, step_of_not_isMarked h]

end ScanState

namespace Scan

theorem map_text_numberedLines (text : Text) :
    (numberedLines text).map Line.text = (Text.lines text).filter fun l => !l.isEmpty := by
  have hline : ∀ p : Text × Nat, (if p.1.isEmpty then none else some (⟨p.2, p.1⟩ : Line)).map Line.text =
      if !p.1.isEmpty then some p.1 else none := by
    rintro ⟨line, n⟩
    cases line <;> rfl
  calc (numberedLines text).map Line.text
      = ((Text.lines text).zipIdx 1).filterMap fun p => if !p.1.isEmpty then some p.1 else none := by
        rw [numberedLines, List.map_filterMap]
        exact List.filterMap_congr fun p _ => hline p
    _ = (((Text.lines text).zipIdx 1).map Prod.fst).filter fun l => !l.isEmpty := by
        rw [← List.filterMap_eq_filter, List.filterMap_map]
        rfl
    _ = (Text.lines text).filter fun l => !l.isEmpty := by rw [List.zipIdx_map_fst]

theorem map_text_functionLines_true (lines : List Line) :
    (functionLines true lines).map Line.text = (lines.map Line.text).filter fun l => ¬ EventLine.IsMarked l := by
  rw [List.filter_map, functionLines]
  congr 1
  refine List.filter_congr fun line _ => ?_
  have hline : (eventLine? true line).isNone = true ↔ ¬ EventLine.IsMarked line.text := by
    rw [Option.isNone_iff_eq_none]
    exact EventLine.ofLine?_eq_none_iff_not_isMarked
  rw [Bool.eq_iff_iff, hline]
  simp

theorem functionLines_false (lines : List Line) : functionLines false lines = lines :=
  List.filter_eq_self.2 fun _ _ => rfl

theorem events_ofText_false (v : Vocabulary) (source : Source) (text : Text) :
    (ofText v false source text).events = [] := by
  have hnone : eventLines false (numberedLines text) = [] := List.filterMap_eq_nil_iff.2 fun _ _ => rfl
  rw [events_ofText, hnone]
  rfl

/-- Without events, the text of the lines that hold no marker of events declares the same functions. -/
theorem map_function_declarations (v : Vocabulary) {text rest : Text}
    (h : Text.lines rest = (Text.lines text).filter fun l => ¬ EventLine.IsMarked l) :
    (declarations v true text).map Declared.function = (declarations v false rest).map Declared.function := by
  apply SignatureScan.map_function_declared_congr
  rw [map_text_functionLines_true, functionLines_false, map_text_numberedLines, map_text_numberedLines, h,
    List.filter_filter, List.filter_filter]
  exact List.filter_congr fun l _ => Bool.and_comm _ _

theorem eventLines_of_marked {text marked : Text}
    (h : Text.lines marked = (Text.lines text).filter fun l => EventLine.IsMarked l) :
    eventLines true (numberedLines text) = eventLines true (numberedLines marked) := by
  rw [eventLines_numberedLines, eventLines_numberedLines, h, List.filterMap_filter]
  refine List.filterMap_congr fun l _ => ?_
  by_cases hl : EventLine.IsMarked l
  · simp [hl]
  · simp [hl, EventLine.ofLine?_eq_none_iff_not_isMarked.2 hl]

/-- However lines with and without a marker of events are mixed, the state of a scan that reads events is, but for the
events, that of a scan without events of the lines without one, and has the events of a scan of the lines with one.  So
the scan of a text finds the functions and the uses of arguments that a scan without events finds in the lines without a
marker, and the events that stand in the lines with one.  Without events none is found. -/
theorem events_apart_from_functions (v : Vocabulary) (source : Source) (text : Text) :
    (∀ lines : List Line, ScanState.ofLines v true lines =
      { ScanState.ofLines v false (lines.filter fun l => ¬ EventLine.IsMarked l.text) with
        events := (ScanState.ofLines v true (lines.filter fun l => EventLine.IsMarked l.text)).events }) ∧
    (∃ rest, Text.lines rest = (Text.lines text).filter fun l => ¬ EventLine.IsMarked l) ∧
    (∀ rest, Text.lines rest = ((Text.lines text).filter fun l => ¬ EventLine.IsMarked l) →
      (ofText v true source text).functions = (ofText v false source rest).functions ∧
      (ofText v true source text).uses = (ofText v false source rest).uses) ∧
    (∃ marked, Text.lines marked = (Text.lines text).filter fun l => EventLine.IsMarked l) ∧
    (∀ marked, Text.lines marked = ((Text.lines text).filter fun l => EventLine.IsMarked l) →
      (ofText v true source text).events = (ofText v true source marked).events) ∧
    (ofText v false source text).events = [] := by
  refine ⟨fun lines => ScanState.foldl_step_apart v lines .empty, Text.exists_lines_eq_filter _ text, ?_,
    Text.exists_lines_eq_filter _ text, ?_, events_ofText_false v source text⟩
  · intro rest hrest
    have hdeclared := map_function_declarations v hrest
    constructor
    · rw [functions_ofText, functions_ofText, hdeclared]
    · rw [uses_ofText, uses_ofText, hdeclared]
  · intro marked hmarked
    rw [events_ofText, events_ofText, eventLines_of_marked hmarked]

end Scan

end BindingDocs
