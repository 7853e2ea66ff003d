import BindingDocs.Proofs.ByteOrder
import BindingDocs.Proofs.FullestDocumented

/-!
# The order of the sources

What several sources document is joined, sorted by name and laid out.  If no name is in two sources, then sorting
undoes the order in which they were joined, so the sources may be read in any order.  Whatever the sources, the
entries of a scope stand in the strict order of their names, since no name is there twice, and the events in the
weak one (`outline_in_any_order`).  The order is that of the bytes of the names.
-/

namespace BindingDocs

namespace Scan

/-- No function and no event of one scan has the name of one of the other. -/
def NamesApart (s t : Scan) : Prop :=
  (∀ f ∈ s.functions, ∀ g ∈ t.functions, f.name ≠ g.name) ∧ ∀ e ∈ s.events, ∀ d ∈ t.events, e.name ≠ d.name

instance (s t : Scan) : Decidable (s.NamesApart t) :=
  inferInstanceAs (Decidable ((∀ f ∈ s.functions, ∀ g ∈ t.functions, f.name ≠ g.name) ∧
    ∀ e ∈ s.events, ∀ d ∈ t.events, e.name ≠ d.name))

end Scan

namespace Findings

variable {v : Vocabulary} {events : Bool}

theorem events_ofTexts (sources : List (Source × Text)) :
    (ofTexts v events sources).events = sources.flatMap fun p => (Scan.ofText v events p.1 p.2).events := by
  induction sources using List.reverseRecOn with
  | nil => rfl
  | append_singleton sources p ih =>
    rw [ofTexts, List.foldl_append, ← ofTexts, List.flatMap_append, ← ih, List.flatMap_singleton]
    rfl

/-- Sources without common names may be read in any order. -/
theorem sorted_ofTexts_eq_of_perm {sources sources' : List (Source × Text)} (hperm : sources.Perm sources')
    (hapart : sources.Pairwise fun p q =>
      (Scan.ofText v events p.1 p.2).NamesApart (Scan.ofText v events q.1 q.2)) :
    (ofTexts v events sources').sorted = (ofTexts v events sources).sorted := by
  have hfunctions : sortFunctions (ofTexts v events sources).functions =
      sortFunctions (ofTexts v events sources').functions := by
    rw [functions_ofTexts, functions_ofTexts, List.flatMap_def, List.flatMap_def]
    exact mergeSort_flatten_eq_of_perm (hperm.map _) (List.pairwise_map.2 (hapart.imp fun h => h.1))
  have hevents : sortEvents (ofTexts v events sources).events = sortEvents (ofTexts v events sources').events := by
    rw [events_ofTexts, events_ofTexts, List.flatMap_def, List.flatMap_def]
    exact mergeSort_flatten_eq_of_perm (hperm.map _) (List.pairwise_map.2 (hapart.imp fun h => h.2))
  rw [sorted, sorted, hfunctions, hevents]

end Findings

/-! ### Names in order -/

namespace Outline

private theorem eraseDups_sublist (keys : List Text) : keys.eraseDups.Sublist keys := by
  induction keys using List.reverseRecOn with
  | nil => exact List.Sublist.refl _
  | append_singleton keys key ih =>
    rw [eraseDups_concat]
    split
    · exact ih.trans (List.sublist_append_left keys [key])
    · exact ih.append (List.Sublist.refl [key])

/-- Names in order of which none comes twice are in strict order. -/
private theorem pairwise_lt_of_nodup {names : List Text} (hle : names.Pairwise fun a b => Text.le a b = true)
    (hnodup : names.Nodup) : names.Pairwise fun a b => a.toBytes < b.toBytes := by
  refine (List.pairwise_and_iff.2 ⟨hle, hnodup⟩).imp ?_
  rintro a b ⟨hab, hne⟩
  rw [Text.toBytes_lt_toBytes_iff, ← Bool.not_eq_true]
  exact fun hba => hne (Text.le_antisymm hab hba)

/-- If the functions are in the order of their names, so are the entries of each scope. -/
theorem pairwise_entry_names {v : Vocabulary} {fs : List BoundFunction} {es : List Event}
    (hsorted : fs.Pairwise fun f g => Text.le f.name g.name = true) {s : ScopeEntries}
    (hs : s ∈ (ofRecords v fs es).catalog) :
    (s.entries.map Entry.name).Pairwise fun a b => a.toBytes < b.toBytes := by
  have hby := byScope_ofRecords v fs es
  refine pairwise_lt_of_nodup ?_ (hby.nodup_entry_names s hs)
  rw [hby.entry_names s hs]
  exact (List.pairwise_map.2 (hsorted.filter _)).sublist (eraseDups_sublist _)

end Outline

namespace Findings

/-- Sources without common names may be read in any order: the lists' pages, the catalog with the order of its scopes,
and the manifest are the same.  Whatever the sources, the entries of each scope are in the strict order of the bytes of
their names, and the list of events has the events in the order of the bytes of theirs. -/
theorem outline_in_any_order (v : Vocabulary) (events : Bool) (sources : List (Source × Text)) :
    let found := ofTexts v events sources
    let o := found.sorted.outline v
    (∀ sources' : List (Source × Text), sources.Perm sources' →
      (sources.Pairwise fun p q => (Scan.ofText v events p.1 p.2).NamesApart (Scan.ofText v events q.1 q.2)) →
      let o' := (ofTexts v events sources').sorted.outline v
      (∀ time, o'.scopePages time = o.scopePages time ∧ o'.indexPages time = o.indexPages time) ∧
        o'.catalog = o.catalog ∧ Manifest.ofCatalog o'.catalog = Manifest.ofCatalog o.catalog ∧
        (ofTexts v events sources').sorted.events = found.sorted.events) ∧
    (∀ s ∈ o.catalog, (s.entries.map Entry.name).Pairwise fun a b => a.toBytes < b.toBytes) ∧
    ∃ es : List Event, es.Perm found.events ∧ o.eventList = es.flatMap Event.indexLine ∧
      es.Pairwise fun e d => e.name.toBytes ≤ d.name.toBytes := by
  intro found o
  refine ⟨?_, ?_, found.sorted.events, List.mergeSort_perm _ _, Outline.eventList_ofRecords _ _ _, ?_⟩
  · intro sources' hperm hapart o'
    have hsorted : (ofTexts v events sources').sorted = found.sorted := sorted_ofTexts_eq_of_perm hperm hapart
    have ho : o' = o := congrArg (fun f : Findings => f.outline v) hsorted
    rw [ho, hsorted]
    exact ⟨fun _ => ⟨rfl, rfl⟩, rfl, rfl, rfl⟩
  · exact fun s hs => Outline.pairwise_entry_names (pairwise_mergeSort_name found.functions) hs
  · have hsorted : found.sorted.events.Pairwise fun e d => Text.le e.name d.name = true :=
      pairwise_mergeSort_name found.events
    exact hsorted.imp Text.toBytes_le_toBytes_iff.2

/-- The second source has the function that comes first, and its scope. -/
theorem outline_in_any_order_of_two :
    let hit : Source × Text := (⟨[], "Mob".toList, none⟩, "Perl_croak(aTHX_ \"Usage: Mob::Hit(x)\");".toList)
    let aim : Source × Text := (⟨[], "NPC".toList, none⟩,
      "Perl_croak(aTHX_ \"Usage: NPC::Aim()\");\ncase EVENT_SAY:".toList)
    let found := ofTexts ⟨[], [], [], [], []⟩ true [hit, aim]
    let found' := ofTexts ⟨[], [], [], [], []⟩ true [aim, hit]
    (Scan.ofText ⟨[], [], [], [], []⟩ true hit.1 hit.2).NamesApart
        (Scan.ofText ⟨[], [], [], [], []⟩ true aim.1 aim.2) ∧
      (found'.sorted.outline ⟨[], [], [], [], []⟩).catalog = (found.sorted.outline ⟨[], [], [], [], []⟩).catalog := by
  intro hit aim found found'
  have hapart : (Scan.ofText ⟨[], [], [], [], []⟩ true hit.1 hit.2).NamesApart
      (Scan.ofText ⟨[], [], [], [], []⟩ true aim.1 aim.2) := by
    decide +kernel
  have hpairwise : [hit, aim].Pairwise fun p q => (Scan.ofText ⟨[], [], [], [], []⟩ true p.1 p.2).NamesApart
      (Scan.ofText ⟨[], [], [], [], []⟩ true q.1 q.2) :=
    List.pairwise_pair.2 hapart
  have hsame := (outline_in_any_order ⟨[], [], [], [], []⟩ true [hit, aim]).1 [aim, hit] (List.Perm.swap aim hit [])
    hpairwise
  exact ⟨hapart, hsame.2.1⟩

end Findings

end BindingDocs
