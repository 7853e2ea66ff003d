import BindingDocs.Proofs.ScanParts

/-!
# Lines by what they hold

A line of a text is read for events, for functions, or not at all.  The markers that it holds decide
(`mem_functionLines`), and what is read of it depends on nothing else.  The lines that are read keep their
numbers and their order (`numberedLines_pairwise`), so the first and the last line with a property can be told
by their numbers (`findSome?_eq_some_iff_first`, `findSome?_reverse_eq_some_iff_last`).
-/

namespace BindingDocs

namespace EventLine

/-- Does the line hold the label of an event? -/
def IsLabel (line : Text) : Prop := labelMarker <:+: line

/-- Does the line export a variable?  One that also holds a label does not. -/
def IsExport (line : Text) : Prop := ¬ IsLabel line ∧ exportMarker <:+: line

instance (line : Text) : Decidable (IsLabel line) := inferInstanceAs (Decidable (labelMarker <:+: line))

instance (line : Text) : Decidable (IsExport line) :=
  inferInstanceAs (Decidable (¬ IsLabel line ∧ exportMarker <:+: line))

theorem ofLine?_of_isLabel {line : Text} (h : IsLabel line) : ∃ name, ofLine? line = some (.label name) := by
  cases hc : Text.cut? labelMarker line with
  | none => exact absurd h (Text.cut?_eq_none.1 hc)
  | some p => exact ⟨Text.before ":".toList ("EVENT".toList ++ p.2), by simp only [ofLine?, hc]⟩

theorem ofLine?_of_isExport {line : Text} (h : IsExport line) :
    ∃ name, ofLine? line = some (.exported name) := by
  have hl : Text.cut? labelMarker line = none := Text.cut?_eq_none.2 h.1
  cases hc : Text.cut? exportMarker line with
  | none => exact absurd h.2 (Text.cut?_eq_none.1 hc)
  | some p => exact ⟨Text.beforeUnlessFirst "\"".toList p.2, by simp only [ofLine?, hl, hc, Option.map_some]⟩

theorem ofLine?_eq_none_iff {line : Text} : ofLine? line = none ↔ ¬ IsLabel line ∧ ¬ IsExport line := by
  constructor
  · intro h
    constructor
    · intro hl
      obtain ⟨name, hn⟩ := ofLine?_of_isLabel hl
      rw [h] at hn; cases hn
    · intro hx
      obtain ⟨name, hn⟩ := ofLine?_of_isExport hx
      rw [h] at hn; cases hn
  · rintro ⟨hl, hx⟩
    have hc : Text.cut? exportMarker line = none := Text.cut?_eq_none.2 fun he => hx ⟨hl, he⟩
    simp only [ofLine?, Text.cut?_eq_none.2 hl, hc, Option.map_none]

end EventLine

namespace Line

/-- `l` is a line of `text`; the first line has number 1. -/
def StandsIn (l : Line) (text : Text) : Prop :=
  1 ≤ l.number ∧ (Text.lines text)[l.number - 1]? = some l.text

/-- The line is read for functions: it is not empty, and where events are read it holds no marker of events. -/
def IsFunctionLine (events : Bool) (l : Line) : Prop :=
  l.text ≠ [] ∧ (events = true → ¬ EventLine.labelMarker <:+: l.text ∧ ¬ EventLine.exportMarker <:+: l.text)

end Line

namespace Scan

theorem mem_numberedLines {text : Text} {l : Line} :
    l ∈ numberedLines text ↔ l.StandsIn text ∧ l.text ≠ [] := by
  obtain ⟨n, t⟩ := l
  simp only [numberedLines, List.mem_filterMap, Prod.exists, List.mk_mem_zipIdx_iff_le_and_getElem?_sub,
    Line.StandsIn]
  constructor
  · rintro ⟨t', n', h, hl⟩
    by_cases ht : t' = []
    · simp [ht] at hl
    · simp [ht] at hl
      obtain ⟨rfl, rfl⟩ := hl
      exact ⟨h, ht⟩
  · rintro ⟨h, ht⟩
    exact ⟨t, n, h, by simp [ht]⟩

/-- The numbered lines stand in the order of the text. -/
theorem numberedLines_pairwise (text : Text) :
    (numberedLines text).Pairwise fun l l' => l.number < l'.number := by
  have hsnd : (((Text.lines text).zipIdx 1).map Prod.snd).Pairwise (· < ·) := by
    rw [List.zipIdx_map_snd]
    exact List.pairwise_lt_range'
  rw [List.pairwise_map] at hsnd
  unfold numberedLines
  rw [List.pairwise_filterMap]
  refine hsnd.imp ?_
  intro p q hpq l hl l' hl'
  by_cases hp : p.1 = []
  · simp [hp] at hl
  · by_cases hq : q.1 = []
    · simp [hq] at hl'
    · simp only [List.isEmpty_iff, hp, hq, ↓reduceIte, Option.some.injEq] at hl hl'
      rw [← hl, ← hl']
      exact hpq

theorem eventLine?_eq_none_iff {events : Bool} {l : Line} :
    eventLine? events l = none ↔ (events = true →
      ¬ EventLine.labelMarker <:+: l.text ∧ ¬ EventLine.exportMarker <:+: l.text) := by
  cases events with
  | false => simp [eventLine?]
  | true =>
    simp only [eventLine?, ↓reduceIte, forall_const]
    rw [EventLine.ofLine?_eq_none_iff]
    unfold EventLine.IsExport EventLine.IsLabel
    constructor
    · rintro ⟨hl, hx⟩
      exact ⟨hl, fun he => hx ⟨hl, he⟩⟩
    · rintro ⟨hl, hx⟩
      exact ⟨hl, fun he => hx he.2⟩

theorem mem_functionLines {events : Bool} {text : Text} {l : Line} :
    l ∈ functionLines events (numberedLines text) ↔ l.StandsIn text ∧ l.IsFunctionLine events := by
  unfold functionLines Line.IsFunctionLine
  rw [List.mem_filter, mem_numberedLines, Option.isNone_iff_eq_none, eventLine?_eq_none_iff, and_assoc]

theorem functionLines_pairwise (events : Bool) (text : Text) :
    (functionLines events (numberedLines text)).Pairwise fun l l' => l.number < l'.number :=
  (numberedLines_pairwise text).filter _

end Scan

/-! ### The first and the last line with a property -/

private theorem findSome?_eq_some_iff_of_pairwise {α β : Type} {r : α → α → Prop} {f : α → Option β}
    {ls : List α} {b : β} (h : ls.Pairwise r) (hr : ∀ x y, r x y → ¬ r y x) :
    ls.findSome? f = some b ↔ ∃ a ∈ ls, f a = some b ∧ ∀ a' ∈ ls, r a' a → f a' = none := by
  rw [List.findSome?_eq_some_iff]
  constructor
  · rintro ⟨l₁, a, l₂, rfl, ha, hnone⟩
    refine ⟨a, by simp, ha, ?_⟩
    intro a' ha' hlt
    have hlater := (List.pairwise_append.1 h).2.1
    rw [List.pairwise_cons] at hlater
    rcases List.mem_append.1 ha' with hm | hm
    · exact hnone a' hm
    · rcases List.mem_cons.1 hm with rfl | hm
      · exact absurd hlt (hr a' a' hlt)
      · exact absurd hlt (hr a a' (hlater.1 a' hm))
  · rintro ⟨a, hm, ha, hnone⟩
    obtain ⟨l₁, l₂, rfl⟩ := List.append_of_mem hm
    refine ⟨l₁, a, l₂, rfl, ha, ?_⟩
    intro x hx
    exact hnone x (List.mem_append_left _ hx) ((List.pairwise_append.1 h).2.2 x hx a (by simp))

variable {β : Type} {f : Line → Option β} {ls : List Line} {b : β}

theorem findSome?_eq_some_iff_first (h : ls.Pairwise fun l l' => l.number < l'.number) :
    ls.findSome? f = some b ↔
      ∃ l ∈ ls, f l = some b ∧ ∀ l' ∈ ls, l'.number < l.number → f l' = none :=
  findSome?_eq_some_iff_of_pairwise h fun _ _ => Nat.lt_asymm

theorem findSome?_reverse_eq_some_iff_last (h : ls.Pairwise fun l l' => l.number < l'.number) :
    ls.reverse.findSome? f = some b ↔
      ∃ l ∈ ls, f l = some b ∧ ∀ l' ∈ ls, l.number < l'.number → f l' = none := by
  have hrev : ls.reverse.Pairwise fun l l' => l'.number < l.number := List.pairwise_reverse.2 h
  rw [findSome?_eq_some_iff_of_pairwise hrev fun _ _ => Nat.lt_asymm]
  simp only [List.mem_reverse]

end BindingDocs
