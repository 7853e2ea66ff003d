import BindingDocs.Manifest
import BindingDocs.Proofs.Scalars

/-!
# Reading a manifest back

The manifest loses nothing: catalogs with the same manifest are the same (`ofCatalog_inj`).  Each value ends before a
line that is indented less than its own lines would be, and each list before a line that begins no further item.
-/

namespace BindingDocs

namespace Yaml

variable {indent : Nat} {x : Text}

/-- Where a line begins that is indented less, a value has ended. -/
theorem isOutside_of_isPrefix {line : Text} (hx : line <+: x) (hline : ¬ spaces indent <+: line)
    (hspaces : ¬ line <+: spaces indent) (hbreak : beginsWith isBreak line = false) : IsOutside indent x where
  unindented h := by
    rcases List.prefix_or_prefix_of_prefix h hx with h | h
    · exact hline h
    · exact hspaces h
  unbroken := by
    obtain ⟨rest, rfl⟩ := hx
    cases line with
    | nil => exact absurd List.nil_prefix hspaces
    | cons c line => exact hbreak

theorem isOutside_nil (hindent : 0 < indent) : IsOutside indent [] where
  unindented h := by
    have hlength := h.length_le
    rw [spaces, List.length_replicate, List.length_nil] at hlength
    omega
  unbroken := rfl

end Yaml

namespace Manifest

open Text (ReadsBack)
open Yaml (IsOutside isOutside_of_isPrefix isOutside_nil value_readsBack)

/-- A list tells its items, and where it ends, if they tell that below each other. -/
theorem list_readsBack {α : Type} {ends : Text → Prop} {item : α → Text}
    (h : ReadsBack (fun as : List α => ∀ a ∈ as, True) ends (fun as => as.flatMap item) (List.map id)) :
    ReadsBack (fun _ => True) ends (list item) id := by
  intro as bs _ _ x y hx hy hlists
  cases as with
  | nil =>
    cases bs with
    | nil => exact ⟨rfl, List.append_cancel_left hlists⟩
    | cons b bs => exact absurd (List.cons.inj hlists).1 (by decide)
  | cons a as =>
    cases bs with
    | nil => exact absurd (List.cons.inj hlists).1 (by decide)
    | cons b bs =>
      have hitems := h (fun _ _ => trivial) (fun _ _ => trivial) hx hy (List.cons.inj hlists).2
      rwa [List.map_id, List.map_id] at hitems

/-! ### Entries -/

theorem isOutside_summary (x : Text) : IsOutside 6 ("    summary:".toList ++ x) :=
  isOutside_of_isPrefix (List.prefix_append _ x) (by decide) (by decide) (by decide)

theorem isOutside_example (x : Text) : IsOutside 6 ("    example:".toList ++ x) :=
  isOutside_of_isPrefix (List.prefix_append _ x) (by decide) (by decide) (by decide)

theorem isOutside_argument (x : Text) : IsOutside 6 ("    argument:".toList ++ x) :=
  isOutside_of_isPrefix (List.prefix_append _ x) (by decide) (by decide) (by decide)

theorem entry_append (e : Entry) (x : Text) :
    entry e ++ x = "  - name:".toList ++ (Yaml.value 6 e.name ++ ("    summary:".toList ++
      (Yaml.value 6 e.summary ++ ("    example:".toList ++ (Yaml.value 6 e.code ++ ("    argument:".toList ++
        (Yaml.value 6 e.arguments ++ x))))))) := by
  unfold entry
  simp only [List.append_assoc]

theorem entry_readsBack : ReadsBack (fun _ => True) (IsOutside 6) entry id := by
  intro e d _ _ x y hx hy h
  rw [entry_append, entry_append] at h
  obtain ⟨hname, h⟩ := value_readsBack 6 trivial trivial (isOutside_summary _) (isOutside_summary _)
    (List.append_cancel_left h)
  obtain ⟨hsummary, h⟩ := value_readsBack 6 trivial trivial (isOutside_example _) (isOutside_example _)
    (List.append_cancel_left h)
  obtain ⟨hcode, h⟩ := value_readsBack 6 trivial trivial (isOutside_argument _) (isOutside_argument _)
    (List.append_cancel_left h)
  obtain ⟨harguments, hxy⟩ := value_readsBack 6 trivial trivial hx hy (List.append_cancel_left h)
  cases e
  cases d
  simp only [id] at hname hsummary hcode harguments
  rw [hname, hsummary, hcode, harguments]
  exact ⟨rfl, hxy⟩

/-- A list of entries is followed by the next scope, or by nothing. -/
def EndsEntries (x : Text) : Prop := x = [] ∨ "- name:".toList <+: x

theorem entries_readsBack : ReadsBack (fun _ => True) EndsEntries (list entry) id := by
  refine list_readsBack (entry_readsBack.flatMap ?_ ?_ ?_)
  · rintro x (rfl | hx)
    · exact isOutside_nil (by decide)
    · exact isOutside_of_isPrefix hx (by decide) (by decide) (by decide)
  · intro e _ x
    rw [entry_append]
    exact isOutside_of_isPrefix (List.prefix_append _ _) (by decide) (by decide) (by decide)
  · rintro e - x hx hentry
    have hline : "  - name:".toList <+: x := by
      refine List.IsPrefix.trans ?_ hentry
      rw [← List.append_nil (entry e), entry_append]
      exact List.prefix_append _ _
    rcases hx with rfl | hx
    · exact absurd hline (by decide)
    · rcases List.prefix_or_prefix_of_prefix hline hx with h | h
      · exact absurd h (by decide)
      · exact absurd h (by decide)

/-! ### Scopes -/

theorem isOutside_functions (x : Text) : IsOutside 4 ("  functions:".toList ++ x) :=
  isOutside_of_isPrefix (List.prefix_append _ x) (by decide) (by decide) (by decide)

theorem scope_append (s : ScopeEntries) (x : Text) :
    scope s ++ x = "- name:".toList ++ (Yaml.value 4 s.name ++ ("  functions:".toList ++
      (list entry s.entries ++ x))) := by
  unfold scope
  simp only [List.append_assoc]

theorem scope_readsBack : ReadsBack (fun _ => True) EndsEntries scope id := by
  intro s t _ _ x y hx hy h
  rw [scope_append, scope_append] at h
  obtain ⟨hname, h⟩ := value_readsBack 4 trivial trivial (isOutside_functions _) (isOutside_functions _)
    (List.append_cancel_left h)
  obtain ⟨hentries, hxy⟩ := entries_readsBack trivial trivial hx hy (List.append_cancel_left h)
  cases s
  cases t
  simp only [id] at hname hentries
  rw [hname, hentries]
  exact ⟨rfl, hxy⟩

theorem scopes_readsBack : ReadsBack (fun _ => True) (· = []) (list scope) id := by
  refine list_readsBack (scope_readsBack.flatMap (fun x hx => .inl hx) (fun s _ x => .inr ?_) ?_)
  · rw [scope_append]
    exact List.prefix_append _ _
  · rintro s - x rfl hscope
    rw [List.prefix_nil, ← List.append_nil (scope s), scope_append] at hscope
    exact absurd hscope (List.cons_ne_nil _ _)

/-- Different catalogs have different manifests. -/
theorem ofCatalog_inj {c c' : Catalog} : ofCatalog c = ofCatalog c' ↔ c = c' := by
  constructor
  · intro h
    have hlists : list scope c = list scope c' := List.append_cancel_left h
    exact (scopes_readsBack trivial trivial rfl rfl (congrArg (· ++ []) hlists)).1
  · rintro rfl
    rfl

end Manifest

end BindingDocs
