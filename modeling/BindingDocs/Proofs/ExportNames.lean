import BindingDocs.Proofs.EventGroups
import BindingDocs.Proofs.EventPages
import BindingDocs.Proofs.UsageMessages

/-!
# Names of exported variables

An export line names its variable in a string literal.  The name is what stands in the literal, unless that is nothing:
then it is the rest of the line, from the quote that ends the literal on (`EventLine.ofLine?_of_quotes`).  Every event
of the group that is pending gets the variable, and keeps it under this name to the end (`EventScan.getElem?_events`)
and onto its page.  So a variable with a double quote in its name is shown exactly if an export line with an empty
literal stands below a label (`Scan.exports_by_literal`).
-/

namespace BindingDocs

namespace EventLine

/-- Behind the first marker of the line stands `literal`, then a double quote, the first one, and `rest`. -/
def Quotes (line literal rest : Text) : Prop :=
  ∃ before, Text.IsFirstCut exportMarker line before (literal ++ '"' :: rest) ∧ '"' ∉ literal

/-- The name under which a literal is recorded: what stands in it or, if that is nothing, all that follows. -/
def recordedName (literal rest : Text) : Text := if literal = [] then '"' :: rest else literal

theorem recordedName_ne_nil (literal rest : Text) : recordedName literal rest ≠ [] := by
  unfold recordedName
  split
  · exact List.cons_ne_nil _ _
  · assumption

variable {line literal rest name : Text}

theorem ofLine?_of_isFirstCut (h : IsExport line) {before behind : Text}
    (hcut : Text.IsFirstCut exportMarker line before behind) :
    ofLine? line = some (.exported (Text.beforeUnlessFirst "\"".toList behind)) := by
  have hlabel : Text.cut? labelMarker line = none := Text.cut?_eq_none.2 h.1
  simp only [ofLine?, hlabel, Text.cut?_eq_some_iff.2 hcut, Option.map_some]

theorem ofLine?_of_quotes (h : IsExport line) (hq : Quotes line literal rest) :
    ofLine? line = some (.exported (recordedName literal rest)) := by
  obtain ⟨before, hcut, hliteral⟩ := hq
  have hbefore : Text.before "\"".toList (literal ++ '"' :: rest) = literal := Text.before_append_cons hliteral rest
  rw [ofLine?_of_isFirstCut h hcut, Text.beforeUnlessFirst, hbefore, recordedName]
  split
  · rename_i hempty
    rw [hempty, List.nil_append]
  · rfl

/-- The name that an export line gives is the one under which its literal is recorded or, where no quote ends the
literal, the rest of the line. -/
theorem literal_of_ofLine? (h : ofLine? line = some (.exported name)) :
    IsExport line ∧ ((∃ literal rest, Quotes line literal rest ∧ name = recordedName literal rest) ∨
      ∃ before, Text.IsFirstCut exportMarker line before name ∧ '"' ∉ name) := by
  have hlabel : ¬ IsLabel line := by
    intro hlabel
    obtain ⟨_, hlabelled⟩ := ofLine?_of_isLabel hlabel
    rw [h] at hlabelled
    cases hlabelled
  have hexport : IsExport line := by
    by_contra hnone
    rw [ofLine?_eq_none_iff.2 ⟨hlabel, hnone⟩] at h
    cases h
  obtain ⟨⟨before, behind⟩, hcut⟩ := Option.ne_none_iff_exists'.1 (mt Text.cut?_eq_none.1 (not_not.2 hexport.2))
  have hcut := Text.cut?_eq_some_iff.1 hcut
  refine ⟨hexport, ?_⟩
  by_cases hquote : '"' ∈ behind
  · obtain ⟨literal, rest, rfl, hliteral⟩ := List.eq_append_cons_of_mem hquote
    have hq : Quotes line literal rest := ⟨before, hcut, hliteral⟩
    rw [ofLine?_of_quotes hexport hq] at h
    obtain ⟨rfl⟩ := EventLine.exported.inj (Option.some.inj h)
    exact .inl ⟨literal, rest, hq, rfl⟩
  · have hbefore : Text.before "\"".toList behind = behind := Text.before_of_notMem hquote
    have hname : Text.beforeUnlessFirst "\"".toList behind = behind := by
      rw [Text.beforeUnlessFirst, hbefore, ite_self]
    rw [ofLine?_of_isFirstCut hexport hcut, hname] at h
    obtain ⟨rfl⟩ := EventLine.exported.inj (Option.some.inj h)
    exact .inr ⟨before, hcut, hquote⟩

theorem quote_mem_recordedName_iff (hq : Quotes line literal rest) :
    '"' ∈ recordedName literal rest ↔ literal = [] := by
  obtain ⟨-, -, hliteral⟩ := hq
  unfold recordedName
  split <;> simp_all

end EventLine

/-! ### The run -/

namespace EventScan

variable {v : Vocabulary} {s : EventScan} {e : Event} {i : Nat}

/-- A label adds an event at the end, whether it joins the pending group or begins a new one. -/
theorem events_step_label (v : Vocabulary) (s : EventScan) (name : Text) :
    (step v s (.label name)).events = s.events ++ [⟨name, []⟩] := by
  unfold step
  dsimp only
  split <;> simp [events]

theorem getElem?_events_step (line : EventLine) (h : s.events[i]? = some e) :
    ∃ e', (step v s line).events[i]? = some e' ∧ e'.name = e.name ∧ e.exports <+: e'.exports := by
  cases line with
  | label name =>
    refine ⟨e, ?_, rfl, List.prefix_refl _⟩
    rw [events_step_label]
    exact (List.getElem?_append_left (List.getElem?_eq_some_iff.1 h).1).trans h
  | exported name =>
    rcases Nat.lt_or_ge i s.done.length with hdone | hpending
    · refine ⟨e, ?_, rfl, List.prefix_refl _⟩
      rw [events, List.getElem?_append_left hdone] at h
      exact (List.getElem?_append_left hdone).trans h
    · refine ⟨e.addExport ⟨name, v.eventType? name⟩, ?_, rfl, List.prefix_append _ _⟩
      rw [events, List.getElem?_append_right hpending] at h
      show (s.done ++ s.pending.map _)[i]? = _
      rw [List.getElem?_append_right hpending, List.getElem?_map, h, Option.map_some]

/-- Whatever is read later, an event keeps its place, its name and the exports that it has. -/
theorem getElem?_events (lines : List EventLine) (h : s.events[i]? = some e) :
    ∃ e', (lines.foldl (step v) s).events[i]? = some e' ∧ e'.name = e.name ∧ e.exports <+: e'.exports := by
  induction lines generalizing s e with
  | nil => exact ⟨e, h, rfl, List.prefix_refl _⟩
  | cons line lines ih =>
    obtain ⟨e₁, h₁, hname₁, hexports₁⟩ := getElem?_events_step (v := v) line h
    obtain ⟨e', h', hname', hexports'⟩ := ih h₁
    exact ⟨e', h', hname'.trans hname₁, hexports₁.trans hexports'⟩

/-- From the first label on some group is pending. -/
theorem pending_ne_nil_iff (v : Vocabulary) (lines : List EventLine) :
    (ofLines v lines).pending ≠ [] ↔ ∃ name, .label name ∈ lines := by
  induction lines using List.reverseRecOn with
  | nil => simp [ofLines, empty]
  | append_singleton lines line ih =>
    rw [ofLines, List.foldl_append, ← ofLines, List.foldl_cons, List.foldl_nil]
    cases line with
    | label name =>
      have hpending : (step v (ofLines v lines) (.label name)).pending ≠ [] := by
        unfold step
        dsimp only
        split <;> simp
      exact iff_of_true hpending ⟨name, by simp⟩
    | exported name =>
      have hpending : (step v (ofLines v lines) (.exported name)).pending ≠ [] ↔ (ofLines v lines).pending ≠ [] :=
        not_congr List.map_eq_nil_iff
      rw [hpending, ih]
      simp

/-- Every export of an event was read while a group was pending. -/
theorem exists_exported_of_mem {lines : List EventLine} {x : Export} (he : e ∈ (ofLines v lines).events)
    (hx : x ∈ e.exports) :
    ∃ above below, lines = above ++ .exported x.name :: below ∧ (ofLines v above).pending ≠ [] := by
  induction lines using List.reverseRecOn generalizing e with
  | nil => simp [ofLines, empty, events] at he
  | append_singleton lines line ih =>
    have hearlier : ∀ e ∈ (ofLines v lines).events, x ∈ e.exports →
        ∃ above below, lines ++ [line] = above ++ .exported x.name :: below ∧ (ofLines v above).pending ≠ [] := by
      intro e he hx
      obtain ⟨above, below, rfl, hpending⟩ := ih he hx
      exact ⟨above, below ++ [line], by simp, hpending⟩
    rw [ofLines, List.foldl_append, ← ofLines, List.foldl_cons, List.foldl_nil] at he
    cases line with
    | label name =>
      rw [events_step_label] at he
      rcases List.mem_append.1 he with he | he
      · exact hearlier e he hx
      · rw [List.mem_singleton.1 he] at hx
        cases hx
    | exported name =>
      rcases List.mem_append.1 he with he | he
      · exact hearlier e (List.mem_append_left _ he) hx
      · obtain ⟨d, hd, rfl⟩ := List.mem_map.1 he
        rcases List.mem_append.1 hx with hx | hx
        · exact hearlier d (List.mem_append_right _ hd) hx
        · obtain rfl := List.mem_singleton.1 hx
          exact ⟨lines, [], rfl, List.ne_nil_of_mem hd⟩

end EventScan

/-! ### The page -/

namespace Page

theorem quote_notMem_exportType (x : Export) : '"' ∉ exportType x := by
  unfold exportType
  cases x.type?.getD .int <;> decide

private theorem quote_mem_flatMap_iff {line : Export → Text} (hline : ∀ x, '"' ∈ line x ↔ '"' ∈ x.name) (e : Event) :
    '"' ∈ (namedExports e).flatMap line ↔ ∃ x ∈ e.exports, '"' ∈ x.name := by
  rw [List.mem_flatMap]
  constructor
  · rintro ⟨x, hx, hquote⟩
    exact ⟨x, (List.mem_filter.1 hx).1, (hline x).1 hquote⟩
  · rintro ⟨x, hx, hquote⟩
    have hname : x.name ≠ [] := List.ne_nil_of_mem hquote
    exact ⟨x, List.mem_filter.2 ⟨hx, by simpa using hname⟩, (hline x).2 hquote⟩

/-- A double quote in the table of a page is in the name of a variable. -/
theorem quote_mem_exportTable_iff (e : Event) : '"' ∈ exportTable e ↔ ∃ x ∈ e.exports, '"' ∈ x.name := by
  have hrow : ∀ x, '"' ∈ exportRow x ↔ '"' ∈ x.name := fun x => by
    simp [exportRow, quote_notMem_exportType]
  have hheader :
      '"' ∉ "### Exports\n**Name**|**Type**|**Description**\n:-----|:-----|:-----\n".toList := by decide
  unfold exportTable
  split
  · rename_i hnone
    simp [hnone]
  · rw [List.mem_append, or_iff_right hheader, quote_mem_flatMap_iff hrow]

/-- A double quote in the lines of the handler that say variables is in the name of one. -/
theorem quote_mem_sayLines_iff (e : Event) :
    '"' ∈ (namedExports e).flatMap sayLine ↔ ∃ x ∈ e.exports, '"' ∈ x.name := by
  have hline : ∀ x, '"' ∈ sayLine x ↔ '"' ∈ x.name := by
    intro x
    have hfront : '"' ∉ "\tquest::say($".toList := by decide
    have hmiddle : '"' ∉ "); # returns ".toList := by decide
    have hend : '"' ∉ "\n".toList := by decide
    have htype := quote_notMem_exportType x
    unfold sayLine
    simp only [List.mem_append, hfront, hmiddle, hend, htype, false_or, or_false]
  exact quote_mem_flatMap_iff hline e

/-- Each exported variable with a name is said by the handler on the page of the event. -/
theorem sayLine_infix_ofEvent {e : Event} {x : Export} (hx : x ∈ e.exports) (hname : x.name ≠ []) (time : Text) :
    sayLine x <:+: ofEvent e time := by
  have hnamed : x ∈ namedExports e := List.mem_filter.2 ⟨hx, by simpa using hname⟩
  have hlines : sayLine x <:+: (namedExports e).flatMap sayLine := by
    obtain ⟨before, after, hsplit⟩ := List.append_of_mem hnamed
    rw [hsplit, List.flatMap_append, List.flatMap_cons]
    exact ⟨before.flatMap sayLine, after.flatMap sayLine, by rw [List.append_assoc]⟩
  refine hlines.trans ?_
  unfold ofEvent eventText
  exact (List.infix_append _ _ _).trans (List.prefix_append _ _).isInfix

end Page

/-! ### The events of a text -/

namespace Scan

theorem events_ofText_true (v : Vocabulary) (source : Source) (text : Text) :
    (ofText v true source text).events =
      (EventScan.ofLines v ((Text.lines text).filterMap EventLine.ofLine?)).events := by
  rw [events_ofText, eventLines_numberedLines]

/-- Where a label stands above, a group is pending. -/
theorem pending_ne_nil_iff_exists_isLabel (v : Vocabulary) (above : List Text) :
    (EventScan.ofLines v (above.filterMap EventLine.ofLine?)).pending ≠ [] ↔ ∃ l ∈ above, EventLine.IsLabel l := by
  rw [EventScan.pending_ne_nil_iff]
  simp only [List.mem_filterMap]
  constructor
  · rintro ⟨name, l, hl, hline⟩
    refine ⟨l, hl, ?_⟩
    by_contra hnone
    by_cases hexport : EventLine.IsExport l
    · obtain ⟨_, hexported⟩ := EventLine.ofLine?_of_isExport hexport
      rw [hline] at hexported
      cases hexported
    · rw [EventLine.ofLine?_eq_none_iff.2 ⟨hnone, hexport⟩] at hline
      cases hline
  · rintro ⟨l, hl, hlabel⟩
    obtain ⟨name, hline⟩ := EventLine.ofLine?_of_isLabel hlabel
    exact ⟨name, l, hl, hline⟩

variable {v : Vocabulary} {source : Source} {text : Text}

/-- Every export of an event comes from an export line below a label. -/
theorem exists_line_of_mem_exports {e : Event} (he : e ∈ (ofText v true source text).events) {x : Export}
    (hx : x ∈ e.exports) :
    ∃ above line below, Text.lines text = above ++ line :: below ∧
      EventLine.ofLine? line = some (.exported x.name) ∧ ∃ l ∈ above, EventLine.IsLabel l := by
  rw [events_ofText_true] at he
  obtain ⟨saidAbove, saidBelow, hsplit, hpending⟩ := EventScan.exists_exported_of_mem he hx
  obtain ⟨above, others, hlines, rfl, hothers⟩ := List.filterMap_eq_append_iff.1 hsplit
  obtain ⟨silent, line, below, rfl, hsilent, hline, -⟩ := List.filterMap_eq_cons_iff.1 hothers
  rw [pending_ne_nil_iff_exists_isLabel] at hpending
  obtain ⟨l, hl, hlabel⟩ := hpending
  exact ⟨above ++ silent, line, below, by rw [hlines, List.append_assoc], hline, l, List.mem_append_left _ hl, hlabel⟩

/-- The variable of an export line goes to every pending event, behind the exports that it has. -/
theorem exists_event_of_pending (source : Source) {above below : List Text} {line name : Text}
    (hlines : Text.lines text = above ++ line :: below) (hline : EventLine.ofLine? line = some (.exported name))
    {i : Nat} {e : Event}
    (he : (EventScan.ofLines v (above.filterMap EventLine.ofLine?)).pending[i]? = some e) :
    ∃ e', (ofText v true source text).events[
        (EventScan.ofLines v (above.filterMap EventLine.ofLine?)).done.length + i]? = some e' ∧
      e'.name = e.name ∧ e.exports ++ [⟨name, v.eventType? name⟩] <+: e'.exports := by
  generalize hs : EventScan.ofLines v (above.filterMap EventLine.ofLine?) = s at he ⊢
  have hstep : (EventScan.step v s (.exported name)).events[s.done.length + i]? =
      some (e.addExport ⟨name, v.eventType? name⟩) := by
    show (s.done ++ s.pending.map _)[s.done.length + i]? = _
    rw [List.getElem?_append_right (Nat.le_add_right _ _), Nat.add_sub_cancel_left, List.getElem?_map, he,
      Option.map_some]
  have hrun : (ofText v true source text).events =
      ((below.filterMap EventLine.ofLine?).foldl (EventScan.step v) (EventScan.step v s (.exported name))).events := by
    rw [events_ofText_true, hlines, List.filterMap_append, List.filterMap_cons_some hline, EventScan.ofLines,
      List.foldl_append, ← EventScan.ofLines, hs, List.foldl_cons]
  rw [hrun]
  exact EventScan.getElem?_events (below.filterMap EventLine.ofLine?) hstep

/-- The empty literals are where names with a double quote come from. -/
theorem exists_quote_mem_name_iff :
    (∃ e ∈ (ofText v true source text).events, ∃ x ∈ e.exports, '"' ∈ x.name) ↔
      ∃ above line below rest, Text.lines text = above ++ line :: below ∧ EventLine.IsExport line ∧
        EventLine.Quotes line [] rest ∧ ∃ l ∈ above, EventLine.IsLabel l := by
  constructor
  · rintro ⟨e, he, x, hx, hquote⟩
    obtain ⟨above, line, below, hlines, hline, hlabel⟩ := exists_line_of_mem_exports he hx
    obtain ⟨hexport, ⟨literal, rest, hq, hname⟩ | ⟨-, -, hnone⟩⟩ := EventLine.literal_of_ofLine? hline
    · rw [hname, EventLine.quote_mem_recordedName_iff hq] at hquote
      subst hquote
      exact ⟨above, line, below, rest, hlines, hexport, hq, hlabel⟩
    · exact absurd hquote hnone
  · rintro ⟨above, line, below, rest, hlines, hexport, hq, hlabel⟩
    obtain ⟨e, pending, he⟩ := List.exists_cons_of_ne_nil ((pending_ne_nil_iff_exists_isLabel v above).2 hlabel)
    have hfirst : (EventScan.ofLines v (above.filterMap EventLine.ofLine?)).pending[0]? = some e := by
      rw [he, List.getElem?_cons_zero]
    obtain ⟨e', he', -, hexports⟩ :=
      exists_event_of_pending source hlines (EventLine.ofLine?_of_quotes hexport hq) hfirst
    refine ⟨e', List.mem_of_getElem? he', _, hexports.subset (List.mem_append_right _ List.mem_cons_self), ?_⟩
    exact (EventLine.quote_mem_recordedName_iff hq).2 rfl

/-- An export line with a literal records the variable under what stands in the literal or, if that is nothing, under
the rest of the line from the second quote on: for every event of the pending group, behind the exports that it has
already, and with a row and a line of the handler on its page.  All exports come from export lines; one whose literal
does not end records the rest of the line.  A double quote in the table of a page or in the lines of its handler is in
the name of a variable, and some variable has one in its name exactly if an export line with an empty literal stands
below a label. -/
theorem exports_by_literal (v : Vocabulary) (source : Source) (text : Text) :
    let events := (ofText v true source text).events
    (∀ above line below literal rest, Text.lines text = above ++ line :: below → EventLine.IsExport line →
      EventLine.Quotes line literal rest →
      let s := EventScan.ofLines v (above.filterMap EventLine.ofLine?)
      let name := if literal = [] then '"' :: rest else literal
      let x : Export := ⟨name, v.eventType? name⟩
      ∀ i e, s.pending[i]? = some e → ∃ e', events[s.done.length + i]? = some e' ∧ e'.name = e.name ∧
        e.exports ++ [x] <+: e'.exports ∧
        ∀ time, Page.exportRow x <:+: Page.ofEvent e' time ∧ Page.sayLine x <:+: Page.ofEvent e' time) ∧
    (∀ e ∈ events, ∀ x ∈ e.exports, ∃ line ∈ Text.lines text, EventLine.IsExport line ∧
      ((∃ literal rest, EventLine.Quotes line literal rest ∧
          x.name = if literal = [] then '"' :: rest else literal) ∨
        ∃ before, Text.IsFirstCut EventLine.exportMarker line before x.name ∧ '"' ∉ x.name)) ∧
    (∀ e ∈ events, ('"' ∈ Page.exportTable e ↔ ∃ x ∈ e.exports, '"' ∈ x.name) ∧
      ('"' ∈ (Page.namedExports e).flatMap Page.sayLine ↔ ∃ x ∈ e.exports, '"' ∈ x.name)) ∧
    ((∃ e ∈ events, ∃ x ∈ e.exports, '"' ∈ x.name) ↔
      ∃ above line below rest, Text.lines text = above ++ line :: below ∧ EventLine.IsExport line ∧
        EventLine.Quotes line [] rest ∧ ∃ l ∈ above, EventLine.IsLabel l) := by
  intro events
  refine ⟨?_, ?_, fun e _ => ⟨Page.quote_mem_exportTable_iff e, Page.quote_mem_sayLines_iff e⟩, ?_⟩
  · intro above line below literal rest hlines hexport hq s name x i e he
    obtain ⟨e', he', hname, hexports⟩ :=
      exists_event_of_pending source hlines (EventLine.ofLine?_of_quotes hexport hq) he
    have hx : x ∈ e'.exports := hexports.subset (by simp [x, name, EventLine.recordedName])
    have hne : x.name ≠ [] := EventLine.recordedName_ne_nil literal rest
    exact ⟨e', he', hname, hexports, fun time =>
      ⟨Page.exportRow_infix_ofEvent hx hne time, Page.sayLine_infix_ofEvent hx hne time⟩⟩
  · intro e he x hx
    obtain ⟨above, line, below, hlines, hline, -⟩ := exists_line_of_mem_exports he hx
    exact ⟨line, hlines ▸ List.mem_append_right _ List.mem_cons_self, EventLine.literal_of_ofLine? hline⟩
  · exact exists_quote_mem_name_iff

/-- A variable of two labels: the second event has it under what stands in the literal. -/
theorem exports_by_literal_of_two_labels :
    let line := "ExportVar(package_name.c_str(), \"text\", data);".toList
    let above := ["case EVENT_SAY:".toList, "case EVENT_TIMER:".toList]
    let text := "case EVENT_SAY:\ncase EVENT_TIMER:\nExportVar(package_name.c_str(), \"text\", data);".toList
    Text.lines text = above ++ [line] ∧ EventLine.IsExport line ∧
      EventLine.Quotes line "text".toList ", data);".toList ∧
      ∃ e, (ofText ⟨[], [], [], [], []⟩ true ⟨[], [], none⟩ text).events[1]? = some e ∧
        e.name = "EVENT_TIMER".toList ∧ [⟨"text".toList, none⟩] <+: e.exports := by
  intro line above text
  have hlines : Text.lines text = above ++ [line] := by decide +kernel
  have hexport : EventLine.IsExport line := by decide +kernel
  have hcut : Text.cut? EventLine.exportMarker line = some ([], "text\", data);".toList) := by decide +kernel
  have hq : EventLine.Quotes line "text".toList ", data);".toList :=
    ⟨[], Text.cut?_eq_some_iff.1 hcut, by decide⟩
  have hpending : (EventScan.ofLines ⟨[], [], [], [], []⟩ (above.filterMap EventLine.ofLine?)).pending[1]? =
      some ⟨"EVENT_TIMER".toList, []⟩ := by decide +kernel
  obtain ⟨hrecorded, -⟩ := exports_by_literal ⟨[], [], [], [], []⟩ ⟨[], [], none⟩ text
  obtain ⟨e, he, hname, hexports, -⟩ :=
    hrecorded above line [] "text".toList ", data);".toList hlines hexport hq 1 _ hpending
  have hdone : (EventScan.ofLines ⟨[], [], [], [], []⟩ (above.filterMap EventLine.ofLine?)).done = [] := by
    decide +kernel
  rw [hdone] at he
  exact ⟨hlines, hexport, hq, e, he, hname, hexports⟩

/-- The one export line of this text has an empty literal.  Yet the event exports no variable with an empty name, and
the table and the handler on its page have a double quote. -/
theorem exists_row_with_quote :
    ∃ (text label line rest : Text) (e : Event), Text.lines text = [label, line] ∧ EventLine.IsExport line ∧
      EventLine.Quotes line [] rest ∧ (ofText ⟨[], [], [], [], []⟩ true ⟨[], [], none⟩ text).events = [e] ∧
      (∀ x ∈ e.exports, x.name ≠ []) ∧ Page.namedExports e ≠ [] ∧ '"' ∈ Page.exportTable e ∧
      '"' ∈ (Page.namedExports e).flatMap Page.sayLine := by
  have hcut : Text.cut? EventLine.exportMarker "ExportVar(package_name.c_str(), \"\", x);".toList =
      some ([], "\", x);".toList) := by decide +kernel
  refine ⟨"case EVENT_SAY:\nExportVar(package_name.c_str(), \"\", x);".toList, "case EVENT_SAY:".toList,
    "ExportVar(package_name.c_str(), \"\", x);".toList, ", x);".toList,
    ⟨"EVENT_SAY".toList, [⟨"\", x);".toList, none⟩]⟩, ?_⟩
  refine ⟨by decide +kernel, by decide +kernel, ⟨[], Text.cut?_eq_some_iff.1 hcut, by decide⟩, ?_⟩
  exact ⟨by decide +kernel, by decide +kernel, by decide +kernel, by decide +kernel, by decide +kernel⟩

end Scan

end BindingDocs
