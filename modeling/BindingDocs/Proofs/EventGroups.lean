import BindingDocs.Proofs.Lines
import Mathlib.Data.List.Forall2

/-!
# Groups of events

The lines that say something about events fall into groups: labels that follow one another without an export
between them, and the exports behind them up to the next label (`exists_groups`).  The scan keeps the events of
one group pending.  All of them carry the same exports, so the first shows whether the group has ended, and
reading a group from a state where the last one has ended gives exactly its events (`foldl_step_group`).
-/

namespace BindingDocs

/-- Labels that follow one another without an export between them, and the exports behind them. -/
structure EventGroup where
  labels : List Text
  exports : List Text
  labels_ne_nil : labels ≠ []
  isLabel : ∀ line ∈ labels, EventLine.IsLabel line
  isExport : ∀ line ∈ exports, EventLine.IsExport line

namespace EventGroup

/-- The lines of a group. -/
def lines (g : EventGroup) : List Text := g.labels ++ g.exports

/-- The group with one more label in front. -/
def addLabel (line : Text) (h : EventLine.IsLabel line) (g : EventGroup) : EventGroup where
  labels := line :: g.labels
  exports := g.exports
  labels_ne_nil := List.cons_ne_nil line g.labels
  isLabel := List.forall_mem_cons.2 ⟨h, g.isLabel⟩
  isExport := g.isExport

/-- The group of one label. -/
def ofLabel (line : Text) (h : EventLine.IsLabel line) (exports : List Text)
    (hx : ∀ x ∈ exports, EventLine.IsExport x) : EventGroup where
  labels := [line]
  exports := exports
  labels_ne_nil := List.cons_ne_nil line []
  isLabel := by simpa using h
  isExport := hx

/-- The lines that are labels or exports are exports, then one group after the other.  A group that is not the
last has exports, so two labels that follow one another are in one group exactly if no export stands between
them. -/
theorem exists_groups (lines : List Text) :
    ∃ (start : List Text) (groups : List EventGroup),
      (lines.filter fun l => EventLine.IsLabel l ∨ EventLine.IsExport l) =
        start ++ groups.flatMap EventGroup.lines ∧
      (∀ l ∈ start, EventLine.IsExport l) ∧ ∀ g ∈ groups.dropLast, g.exports ≠ [] := by
  induction lines with
  | nil => exact ⟨[], [], rfl, by simp, by simp⟩
  | cons line lines ih =>
    obtain ⟨start, groups, hsplit, hstart, hlast⟩ := ih
    by_cases hl : EventLine.IsLabel line
    · have hkeep : ((line :: lines).filter fun l => EventLine.IsLabel l ∨ EventLine.IsExport l) =
          line :: (start ++ groups.flatMap EventGroup.lines) := by
        rw [List.filter_cons_of_pos (by simp [hl]), hsplit]
      rw [hkeep]
      -- the label joins the next group unless exports stand in between
      cases start with
      | nil =>
        cases groups with
        | nil => exact ⟨[], [ofLabel line hl [] (by simp)], rfl, by simp, by simp⟩
        | cons g groups =>
          refine ⟨[], addLabel line hl g :: groups, rfl, by simp, ?_⟩
          cases groups with
          | nil => simp
          | cons g' groups => simpa [addLabel] using hlast
      | cons x start =>
        refine ⟨[], ofLabel line hl (x :: start) hstart :: groups, ?_, by simp, ?_⟩
        · simp [EventGroup.lines, ofLabel]
        · cases groups with
          | nil => simp
          | cons g groups =>
            rw [List.dropLast_cons_cons, List.forall_mem_cons]
            exact ⟨List.cons_ne_nil x start, hlast⟩
    · by_cases hx : EventLine.IsExport line
      · refine ⟨line :: start, groups, ?_, List.forall_mem_cons.2 ⟨hx, hstart⟩, hlast⟩
        rw [List.filter_cons_of_pos (by simp [hx]), hsplit, List.cons_append]
      · refine ⟨start, groups, ?_, hstart, hlast⟩
        rw [List.filter_cons_of_neg (by simp [hl, hx]), hsplit]

/-- The events of a group: one for each label, in order, and each with the exports of the group, in order. -/
def Gives (v : Vocabulary) (g : EventGroup) (events : List Event) : Prop :=
  ∃ (names : List Text) (exports : List Export),
    g.labels.map EventLine.ofLine? = names.map (fun name => some (.label name)) ∧
    g.exports.map EventLine.ofLine? = exports.map (fun x => some (.exported x.name)) ∧
    (∀ x ∈ exports, x.type? = v.eventType? x.name) ∧
    events = names.map fun name => ⟨name, exports⟩

/-- A group gives one event for each of its labels, in order. -/
theorem Gives.map_label {v : Vocabulary} {g : EventGroup} {events : List Event} (h : g.Gives v events) :
    events.map (fun e => some (EventLine.label e.name)) = g.labels.map EventLine.ofLine? := by
  obtain ⟨names, exports, hnames, -, -, rfl⟩ := h
  rw [hnames, List.map_map]
  rfl

theorem filter_isLabel_lines (g : EventGroup) :
    (g.lines.filter fun l => EventLine.IsLabel l) = g.labels := by
  have hlabels : (g.labels.filter fun l => EventLine.IsLabel l) = g.labels :=
    List.filter_eq_self.2 fun l hl => by simpa using g.isLabel l hl
  have hexports : (g.exports.filter fun l => EventLine.IsLabel l) = [] :=
    List.filter_eq_nil_iff.2 fun l hl => by simpa using (g.isExport l hl).1
  rw [lines, List.filter_append, hlabels, hexports, List.append_nil]

private theorem exists_map_eq {α β γ : Type} {f : α → Option β} {h : γ → β} {p : γ → Prop} {xs : List α}
    (hx : ∀ x ∈ xs, ∃ y, p y ∧ f x = some (h y)) :
    ∃ ys : List γ, (∀ y ∈ ys, p y) ∧ xs.map f = ys.map fun y => some (h y) := by
  induction xs with
  | nil => exact ⟨[], by simp, rfl⟩
  | cons x xs ih =>
    obtain ⟨y, hp, hy⟩ := hx x (by simp)
    obtain ⟨ys, hps, hys⟩ := ih fun x' hx' => hx x' (by simp [hx'])
    exact ⟨y :: ys, List.forall_mem_cons.2 ⟨hp, hps⟩, by rw [List.map_cons, List.map_cons, hy, hys]⟩

/-- Every line of a group can be read, so every group gives events. -/
theorem exists_gives (v : Vocabulary) (g : EventGroup) : ∃ events, g.Gives v events := by
  have hlabels : ∀ line ∈ g.labels, ∃ name, True ∧ EventLine.ofLine? line = some (.label name) := by
    intro line hline
    obtain ⟨name, hname⟩ := EventLine.ofLine?_of_isLabel (g.isLabel line hline)
    exact ⟨name, trivial, hname⟩
  have hexports : ∀ line ∈ g.exports, ∃ x : Export, x.type? = v.eventType? x.name ∧
      EventLine.ofLine? line = some (.exported x.name) := by
    intro line hline
    obtain ⟨name, hname⟩ := EventLine.ofLine?_of_isExport (g.isExport line hline)
    exact ⟨⟨name, v.eventType? name⟩, rfl, hname⟩
  obtain ⟨names, -, hnames⟩ := exists_map_eq hlabels
  obtain ⟨exports, htypes, hexports⟩ := exists_map_eq hexports
  exact ⟨_, names, exports, hnames, hexports, htypes, rfl⟩

end EventGroup

/-! ### Reading a group -/

namespace EventScan

/-- Exports go to every pending event. -/
theorem foldl_step_exports (v : Vocabulary) (s : EventScan) {exports : List Export}
    (ht : ∀ x ∈ exports, x.type? = v.eventType? x.name) :
    (exports.map fun x => EventLine.exported x.name).foldl (step v) s =
      ⟨s.done, s.pending.map fun e => { e with exports := e.exports ++ exports }⟩ := by
  induction exports generalizing s with
  | nil => simp
  | cons x exports ih =>
    have hx : (⟨x.name, v.eventType? x.name⟩ : Export) = x := by
      rw [← ht x (by simp)]
    rw [List.map_cons, List.foldl_cons, ih _ fun y hy => ht y (by simp [hy])]
    simp [step, Event.addExport, hx]

/-- Labels join a pending group without exports. -/
theorem foldl_step_labels (v : Vocabulary) {s : EventScan} (names : List Text) (hs : s.pending ≠ [])
    (hx : s.hasExports = false) :
    (names.map EventLine.label).foldl (step v) s =
      ⟨s.done, s.pending ++ names.map fun name => ⟨name, []⟩⟩ := by
  induction names generalizing s with
  | nil => simp
  | cons name names ih =>
    have hstep : step v s (.label name) = ⟨s.done, s.pending ++ [⟨name, []⟩]⟩ := by simp [step, hx]
    rw [List.map_cons, List.foldl_cons, hstep, ih (by simp)]
    · simp
    · obtain ⟨e, pending, he⟩ := List.exists_cons_of_ne_nil hs
      simpa [hasExports, he] using hx

/-- Has the pending group ended, so that a label begins a new one? -/
def Ended (s : EventScan) : Prop := s.pending = [] ∨ s.hasExports = true

theorem step_label_of_ended (v : Vocabulary) {s : EventScan} (hs : s.Ended) (name : Text) :
    step v s (.label name) = ⟨s.done ++ s.pending, [⟨name, []⟩]⟩ := by
  rcases hs with hs | hs
  · simp [step, hasExports, hs]
  · simp [step, hs]

private theorem filterMap_eq_of_map_eq {α β γ : Type} {f : α → Option β} {h : γ → β} {xs : List α}
    {ys : List γ} (hm : xs.map f = ys.map fun y => some (h y)) : xs.filterMap f = ys.map h := by
  have hid : xs.filterMap f = (xs.map f).filterMap id := by rw [List.filterMap_map, Function.id_comp]
  rw [hid, hm, List.filterMap_map]
  show ys.filterMap (some ∘ h) = ys.map h
  rw [List.filterMap_eq_map]

/-- A group that is read after the last one has ended leaves exactly its own events pending. -/
theorem foldl_step_group (v : Vocabulary) {s : EventScan} {g : EventGroup} {events : List Event}
    (hs : s.Ended) (hg : g.Gives v events) :
    (g.lines.filterMap EventLine.ofLine?).foldl (step v) s = ⟨s.done ++ s.pending, events⟩ := by
  obtain ⟨names, exports, hnames, hexports, ht, rfl⟩ := hg
  have hlines : g.lines.filterMap EventLine.ofLine? =
      names.map EventLine.label ++ exports.map fun x => EventLine.exported x.name := by
    rw [EventGroup.lines, List.filterMap_append, filterMap_eq_of_map_eq hnames,
      filterMap_eq_of_map_eq hexports]
  cases names with
  | nil => exact absurd (List.map_eq_nil_iff.1 hnames) g.labels_ne_nil
  | cons name names =>
    rw [hlines, List.foldl_append, List.map_cons, List.foldl_cons, step_label_of_ended v hs,
      foldl_step_labels v names (by simp) rfl, foldl_step_exports v _ ht]
    simp

/-- A group with exports has ended as soon as another label follows. -/
theorem ended_of_gives {v : Vocabulary} {g : EventGroup} {events done : List Event} (hg : g.Gives v events)
    (hx : g.exports ≠ []) : Ended ⟨done, events⟩ := by
  obtain ⟨names, exports, hnames, hexports, -, rfl⟩ := hg
  right
  cases names with
  | nil => exact absurd (List.map_eq_nil_iff.1 hnames) g.labels_ne_nil
  | cons name names =>
    cases exports with
    | nil => exact absurd (List.map_eq_nil_iff.1 hexports) hx
    | cons x exports => rfl

/-- Groups that are read one after the other give their events one after the other. -/
theorem events_foldl_step_groups (v : Vocabulary) {s : EventScan} {groups : List EventGroup}
    {events : List (List Event)} (hs : s.Ended) (hg : List.Forall₂ (EventGroup.Gives v) groups events)
    (hx : ∀ g ∈ groups.dropLast, g.exports ≠ []) :
    (((groups.flatMap EventGroup.lines).filterMap EventLine.ofLine?).foldl (step v) s).events =
      s.events ++ events.flatten := by
  induction hg generalizing s with
  | nil => simp
  | @cons g es groups events hgive hrest ih =>
    rw [List.flatMap_cons, List.filterMap_append, List.foldl_append, foldl_step_group v hs hgive]
    cases hrest with
    | nil => simp [EventScan.events]
    | cons hgive' hrest' =>
      rw [List.dropLast_cons_cons, List.forall_mem_cons] at hx
      rw [ih (ended_of_gives hgive hx.1) hx.2]
      simp [EventScan.events]

/-- Exports in front of the first label are recorded nowhere. -/
theorem foldl_step_of_isExport (v : Vocabulary) {start : List Text} (h : ∀ l ∈ start, EventLine.IsExport l) :
    (start.filterMap EventLine.ofLine?).foldl (step v) empty = empty := by
  induction start with
  | nil => rfl
  | cons line start ih =>
    rw [List.forall_mem_cons] at h
    obtain ⟨name, hname⟩ := EventLine.ofLine?_of_isExport h.1
    rw [List.filterMap_cons_some hname]
    exact ih h.2

end EventScan

/-! ### The events of a text -/

namespace Scan

private theorem filterMap_ofLine? (lines : List Text) :
    lines.filterMap EventLine.ofLine? =
      (lines.filter fun l => EventLine.IsLabel l ∨ EventLine.IsExport l).filterMap EventLine.ofLine? := by
  induction lines with
  | nil => rfl
  | cons line lines ih =>
    by_cases hl : EventLine.IsLabel line ∨ EventLine.IsExport line
    · rw [List.filter_cons_of_pos (by simpa using hl), List.filterMap_cons, List.filterMap_cons, ih]
    · rw [List.filter_cons_of_neg (by simpa using hl), ← ih]
      exact List.filterMap_cons_none (EventLine.ofLine?_eq_none_iff.2 (not_or.1 hl))

/-- Every line of the text is read for events, the empty ones included: they say nothing. -/
theorem eventLines_numberedLines (text : Text) :
    eventLines true (numberedLines text) = (Text.lines text).filterMap EventLine.ofLine? := by
  have hline : ∀ p : Text × Nat, ((if p.1.isEmpty then none else some (⟨p.2, p.1⟩ : Line)).bind
      (eventLine? true)) = EventLine.ofLine? p.1 := by
    rintro ⟨line, n⟩
    cases line <;> rfl
  have hnumber : (Text.lines text).filterMap EventLine.ofLine? =
      ((Text.lines text).zipIdx 1).filterMap (EventLine.ofLine? ∘ Prod.fst) := by
    rw [← List.filterMap_map, List.zipIdx_map_fst]
  unfold eventLines numberedLines
  rw [List.filterMap_filterMap, hnumber]
  congr 1
  funext p
  exact hline p

private theorem filter_isLabel_of_groups {lines start : List Text} {groups : List EventGroup}
    (hsplit : (lines.filter fun l => EventLine.IsLabel l ∨ EventLine.IsExport l) =
      start ++ groups.flatMap EventGroup.lines) (hstart : ∀ l ∈ start, EventLine.IsExport l) :
    (lines.filter fun l => EventLine.IsLabel l) = groups.flatMap EventGroup.labels := by
  have hkeep : (lines.filter fun l => EventLine.IsLabel l) =
      (lines.filter fun l => EventLine.IsLabel l ∨ EventLine.IsExport l).filter fun l => EventLine.IsLabel l := by
    rw [List.filter_filter]
    refine List.filter_congr fun l _ => ?_
    by_cases hl : EventLine.IsLabel l <;> simp [hl]
  have hnone : (start.filter fun l => EventLine.IsLabel l) = [] :=
    List.filter_eq_nil_iff.2 fun l hl => by simpa using (hstart l hl).1
  rw [hkeep, hsplit, List.filter_append, hnone, List.nil_append, List.filter_flatMap]
  simp only [EventGroup.filter_isLabel_lines]

private theorem map_label_flatten {v : Vocabulary} {groups : List EventGroup} {events : List (List Event)}
    (h : List.Forall₂ (EventGroup.Gives v) groups events) :
    events.flatten.map (fun e => some (EventLine.label e.name)) =
      (groups.flatMap EventGroup.labels).map EventLine.ofLine? := by
  induction h with
  | nil => rfl
  | cons hgive _ ih =>
    rw [List.flatten_cons, List.map_append, hgive.map_label, ih, List.flatMap_cons, List.map_append]

/-- There is one event for each label line, in order.  The label lines and the export lines are exports, which are
recorded nowhere, then one group after the other, each but the last with exports of its own.  The events are
those of the groups: all events of a group have the exports that follow its last label. -/
theorem events_by_group (v : Vocabulary) (source : Source) (text : Text) :
    (ofText v true source text).events.map (fun e => some (EventLine.label e.name)) =
      ((Text.lines text).filter fun l => EventLine.IsLabel l).map EventLine.ofLine? ∧
    ∃ (start : List Text) (groups : List EventGroup) (events : List (List Event)),
      ((Text.lines text).filter fun l => EventLine.IsLabel l ∨ EventLine.IsExport l) =
        start ++ groups.flatMap (fun g => g.labels ++ g.exports) ∧
      (∀ l ∈ start, EventLine.IsExport l) ∧
      (∀ g ∈ groups.dropLast, g.exports ≠ []) ∧
      List.Forall₂ (EventGroup.Gives v) groups events ∧
      (ofText v true source text).events = events.flatten := by
  obtain ⟨start, groups, hsplit, hstart, hlast⟩ := EventGroup.exists_groups (Text.lines text)
  have hgives : ∃ events, List.Forall₂ (EventGroup.Gives v) groups events := by
    clear hsplit hlast
    induction groups with
    | nil => exact ⟨[], .nil⟩
    | cons g groups ih =>
      obtain ⟨es, hes⟩ := EventGroup.exists_gives v g
      obtain ⟨events, hevents⟩ := ih
      exact ⟨es :: events, .cons hes hevents⟩
  obtain ⟨events, hevents⟩ := hgives
  have hrun : (ofText v true source text).events = events.flatten := by
    rw [events_ofText, eventLines_numberedLines, filterMap_ofLine?, hsplit, List.filterMap_append, EventScan.ofLines,
      List.foldl_append, EventScan.foldl_step_of_isExport v hstart,
      EventScan.events_foldl_step_groups v (.inl rfl) hevents hlast]
    rfl
  refine ⟨?_, start, groups, events, hsplit, hstart, hlast, hevents, hrun⟩
  rw [hrun, filter_isLabel_of_groups hsplit hstart]
  exact map_label_flatten hevents

end Scan

end BindingDocs
