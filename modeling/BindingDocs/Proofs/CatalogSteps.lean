import BindingDocs.Proofs.OutlineByScope

/-!
# The catalog, step by step

Whoever uses the catalog names a scope, looks a function up in it and may then add an entry that is missing.  The
catalog has no rule of its own against a second entry; it is kept by this order of steps.  In closed form, the scopes
stand in the order in which they are first named, and the entries of each are what the steps on it alone leave
(`after_eq`), whatever the steps on other scopes in between.  So names are distinct, a look-up finds what an earlier
step has added, and a step leaves other scopes alone (`keeps_entries_apart`).
-/

namespace BindingDocs

namespace Catalog

/-- A use of the catalog: the function of `entry` is looked up in a scope and, if `adds`, gets this entry unless it has
one. -/
structure Step where
  scope : Text
  entry : Entry
  adds : Bool
  deriving DecidableEq

namespace Step

/-- Is the function found when the scope has been named? -/
def finds (step : Step) (catalog : Catalog) : Bool :=
  (catalog.visit step.scope).holds step.scope step.entry.name

/-- The catalog after the step. -/
def apply (step : Step) (catalog : Catalog) : Catalog :=
  if step.adds && !step.finds catalog then (catalog.visit step.scope).add step.scope step.entry
  else catalog.visit step.scope

/-- The entries of the step's scope after the step. -/
def keep (step : Step) (entries : List Entry) : List Entry :=
  if step.adds && !entries.any (fun e => e.name == step.entry.name) then entries ++ [step.entry] else entries

end Step

/-- The catalog after steps, which is empty before the first. -/
def after (steps : List Step) : Catalog := steps.foldl (fun catalog step => step.apply catalog) []

/-- The entries that steps on one scope leave in it. -/
def kept (steps : List Step) : List Entry := steps.foldl (fun entries step => step.keep entries) []

/-- The steps on a scope. -/
def stepsOn (steps : List Step) (scope : Text) : List Step := steps.filter fun step => step.scope == scope

theorem after_concat (steps : List Step) (step : Step) : after (steps ++ [step]) = step.apply (after steps) := by
  rw [after, List.foldl_append]
  rfl

theorem kept_concat (steps : List Step) (step : Step) : kept (steps ++ [step]) = step.keep (kept steps) := by
  rw [kept, List.foldl_append]
  rfl

theorem stepsOn_concat (steps : List Step) (step : Step) (scope : Text) :
    stepsOn (steps ++ [step]) scope =
      if scope = step.scope then stepsOn steps scope ++ [step] else stepsOn steps scope := by
  unfold stepsOn
  rw [List.filter_append]
  by_cases h : scope = step.scope
  · simp [h]
  · simp [h, Ne.symm h]

/-- A scope that no step has named has no entries. -/
theorem kept_stepsOn_eq_nil {steps : List Step} {scope : Text} (h : scope ∉ (steps.map Step.scope).eraseDups) :
    kept (stepsOn steps scope) = [] := by
  have hnone : stepsOn steps scope = [] := by
    rw [stepsOn, List.filter_eq_nil_iff]
    intro step hstep hscope
    exact h (List.mem_eraseDups.2 (List.mem_map.2 ⟨step, hstep, by simpa using hscope⟩))
  rw [hnone]
  rfl

/-! ### One step on a catalog in closed form -/

section ClosedForm

variable {keys : List Text} {g : Text → List Entry} {step : Step}

/-- A scope that has been named is there. -/
theorem mem_named (keys : List Text) (scope : Text) : scope ∈ if scope ∈ keys then keys else keys ++ [scope] := by
  split
  · assumption
  · exact List.mem_append_right _ List.mem_cons_self

/-- A scope that is named for the first time comes last and has no entries yet. -/
theorem visit_map (hnew : step.scope ∉ keys → g step.scope = []) :
    visit (keys.map fun k => ⟨k, g k⟩) step.scope =
      (if step.scope ∈ keys then keys else keys ++ [step.scope]).map fun k => ⟨k, g k⟩ := by
  by_cases h : step.scope ∈ keys
  · rw [if_pos h, visit_map_of_mem h]
  · rw [if_neg h, visit_map_of_notMem h, List.map_append, List.map_singleton, hnew h]

theorem finds_map (hnew : step.scope ∉ keys → g step.scope = []) :
    step.finds (keys.map fun k => ⟨k, g k⟩) = (g step.scope).any fun e => e.name == step.entry.name := by
  rw [Step.finds, visit_map hnew, holds, entriesOf_map (mem_named keys step.scope)]

theorem nodup_named (hkeys : keys.Nodup) (scope : Text) :
    (if scope ∈ keys then keys else keys ++ [scope]).Nodup := by
  split
  · exact hkeys
  · rename_i h
    rw [← List.concat_eq_append]
    exact hkeys.concat h

theorem apply_map (hkeys : keys.Nodup) (hnew : step.scope ∉ keys → g step.scope = []) :
    step.apply (keys.map fun k => ⟨k, g k⟩) =
      (if step.scope ∈ keys then keys else keys ++ [step.scope]).map fun k =>
        ⟨k, if k = step.scope then step.keep (g k) else g k⟩ := by
  unfold Step.apply Step.keep
  rw [finds_map hnew, visit_map hnew]
  split
  · rename_i hadds
    rw [add_map (nodup_named hkeys step.scope)]
    refine List.map_congr_left fun k _ => ?_
    by_cases hk : k = step.scope
    · rw [if_pos hk, if_pos hk, hk, if_pos hadds]
    · rw [if_neg hk, if_neg hk]
  · rename_i hadds
    refine List.map_congr_left fun k _ => ?_
    by_cases hk : k = step.scope
    · rw [if_pos hk, hk, if_neg hadds]
    · rw [if_neg hk]

theorem entriesOf_map_of_notMem {scope : Text} (h : scope ∉ keys) :
    entriesOf (keys.map fun k => ⟨k, g k⟩) scope = [] := by
  have hnone : ((keys.map fun k => (⟨k, g k⟩ : ScopeEntries)).find? fun s => s.name == scope) = none := by
    rw [List.find?_eq_none]
    intro s hs hname
    obtain ⟨k, hk, rfl⟩ := List.mem_map.1 hs
    exact h (beq_iff_eq.1 hname ▸ hk)
  rw [entriesOf, hnone]
  rfl

/-- The step's scope gets the entry behind those that it has, if the step adds it and has not found it. -/
theorem entriesOf_apply_map (hkeys : keys.Nodup) (hnew : step.scope ∉ keys → g step.scope = []) :
    (step.apply (keys.map fun k => ⟨k, g k⟩)).entriesOf step.scope =
      entriesOf (keys.map fun k => ⟨k, g k⟩) step.scope ++
        if step.adds && !step.finds (keys.map fun k => ⟨k, g k⟩) then [step.entry] else [] := by
  have hold : entriesOf (keys.map fun k => ⟨k, g k⟩) step.scope = g step.scope := by
    by_cases h : step.scope ∈ keys
    · exact entriesOf_map h
    · rw [entriesOf_map_of_notMem h, hnew h]
  rw [apply_map hkeys hnew, entriesOf_map (mem_named keys step.scope), if_pos rfl, hold, finds_map hnew, Step.keep]
  split
  · rfl
  · rw [List.append_nil]

/-- Any other scope stays in its place with its entries. -/
theorem getElem?_apply_map (hkeys : keys.Nodup) (hnew : step.scope ∉ keys → g step.scope = []) {i : Nat}
    {s : ScopeEntries} (hs : s.name ≠ step.scope) :
    (step.apply (keys.map fun k => ⟨k, g k⟩))[i]? = some s ↔
      (keys.map fun k => (⟨k, g k⟩ : ScopeEntries))[i]? = some s := by
  have hkey : ∀ k ≠ step.scope,
      (if step.scope ∈ keys then keys else keys ++ [step.scope])[i]? = some k ↔ keys[i]? = some k := by
    intro k hk
    split
    · rfl
    · rcases Nat.lt_or_ge i keys.length with hi | hi
      · rw [List.getElem?_append_left hi]
      · rw [List.getElem?_append_right hi, List.getElem?_eq_none hi]
        refine iff_of_false (fun hlast => hk ?_) (by simp)
        exact List.mem_singleton.1 (List.mem_of_getElem? hlast)
  rw [apply_map hkeys hnew, List.getElem?_map, List.getElem?_map, Option.map_eq_some_iff, Option.map_eq_some_iff]
  constructor
  · rintro ⟨k, hk, rfl⟩
    exact ⟨k, (hkey k hs).1 hk, by rw [if_neg hs]⟩
  · rintro ⟨k, hk, rfl⟩
    exact ⟨k, (hkey k hs).2 hk, by rw [if_neg hs]⟩

end ClosedForm

/-! ### The closed form -/

/-- The scopes in the order in which they are first named, each with what the steps on it leave. -/
theorem after_eq (steps : List Step) :
    after steps = (steps.map Step.scope).eraseDups.map fun scope => ⟨scope, kept (stepsOn steps scope)⟩ := by
  induction steps using List.reverseRecOn with
  | nil => rfl
  | append_singleton steps step ih =>
    rw [after_concat, ih, apply_map (Outline.nodup_eraseDups _) kept_stepsOn_eq_nil, List.map_append,
      List.map_singleton, Outline.eraseDups_concat]
    simp only [List.mem_eraseDups]
    refine List.map_congr_left fun scope _ => ?_
    rw [stepsOn_concat]
    by_cases h : scope = step.scope
    · rw [if_pos h, if_pos h, kept_concat]
    · rw [if_neg h, if_neg h]

/-- The entries that steps leave have the names that the steps add, each once. -/
theorem map_name_kept (steps : List Step) :
    (kept steps).map Entry.name = ((steps.filter Step.adds).map fun step => step.entry.name).eraseDups := by
  induction steps using List.reverseRecOn with
  | nil => rfl
  | append_singleton steps step ih =>
    have hfound : ((kept steps).any fun e => e.name == step.entry.name) = true ↔
        step.entry.name ∈ (steps.filter Step.adds).map fun step => step.entry.name := by
      rw [← List.mem_eraseDups, ← ih]
      simp
    rw [kept_concat, Step.keep, List.filter_append, List.map_append]
    cases hadds : step.adds with
    | false => simp [hadds, ih]
    | true =>
      have hone : [step].filter Step.adds = [step] := by simp [hadds]
      rw [hone, List.map_singleton, Outline.eraseDups_concat, ← ih]
      by_cases h : ((kept steps).any fun e => e.name == step.entry.name) = true
      · rw [if_pos (hfound.1 h), h]
        rfl
      · rw [if_neg (mt hfound.2 h), Bool.eq_false_iff.2 h]
        simp

/-- A step finds what a step on the same scope was asked to add before. -/
theorem finds_after_iff {steps : List Step} {step : Step} :
    step.finds (after steps) = true ↔
      ∃ earlier ∈ steps, earlier.adds = true ∧ earlier.scope = step.scope ∧ earlier.entry.name = step.entry.name := by
  have hname : ((kept (stepsOn steps step.scope)).any fun e => e.name == step.entry.name) = true ↔
      step.entry.name ∈ (kept (stepsOn steps step.scope)).map Entry.name := by simp
  rw [after_eq, finds_map kept_stepsOn_eq_nil, hname, map_name_kept, List.mem_eraseDups, stepsOn, List.filter_filter]
  simp only [List.mem_map, List.mem_filter, Bool.and_eq_true, beq_iff_eq]
  simp only [and_assoc]

/-- A step finds what a step on the same scope has added before. -/
theorem finds_after_iff_added {steps : List Step} {step : Step} :
    step.finds (after steps) = true ↔
      ∃ above earlier below, steps = above ++ earlier :: below ∧ earlier.adds = true ∧
        earlier.finds (after above) = false ∧ earlier.scope = step.scope ∧
        earlier.entry.name = step.entry.name := by
  rw [finds_after_iff]
  constructor
  · rintro ⟨asked, hasked, hadds, hscope, hname⟩
    -- the first step that was asked to add the function found none
    let same (t : Step) : Bool := t.adds && t.scope == step.scope && t.entry.name == step.entry.name
    have hsome : (steps.find? same).isSome := List.find?_isSome.2 ⟨asked, hasked, by simp [same, hadds, hscope, hname]⟩
    obtain ⟨first, hfirst⟩ := Option.isSome_iff_exists.1 hsome
    obtain ⟨hsame, above, below, hsplit, hnone⟩ := List.find?_eq_some_iff_append.1 hfirst
    simp only [same, Bool.and_eq_true, beq_iff_eq] at hsame
    obtain ⟨⟨hadds, hscope⟩, hname⟩ := hsame
    refine ⟨above, first, below, hsplit, hadds, ?_, hscope, hname⟩
    rw [Bool.eq_false_iff, ne_eq, finds_after_iff]
    rintro ⟨earlier, hearlier, hadds', hscope', hname'⟩
    have hcontra := hnone earlier hearlier
    simp [same, hadds', hscope', hscope, hname', hname] at hcontra
  · rintro ⟨above, earlier, below, rfl, hadds, -, hscope, hname⟩
    exact ⟨earlier, List.mem_append_right _ List.mem_cons_self, hadds, hscope, hname⟩

/-- After every sequence of steps the scopes have different names and stand in the order in which they are first named,
also those in which something was only looked up; the entries of each have different names and stand in the order in
which these are first added.  One more step finds its function exactly if an earlier step on the same scope has added
it.  It puts its entry, if it adds one, behind those of its scope, and every other scope stays in its place as it is. -/
theorem keeps_entries_apart (steps : List Step) :
    let catalog := after steps
    (catalog.map ScopeEntries.name = (steps.map Step.scope).eraseDups ∧ (catalog.map ScopeEntries.name).Nodup) ∧
    (∀ s ∈ catalog, (s.entries.map Entry.name).Nodup ∧ s.entries.map Entry.name =
      ((steps.filter fun step => step.scope == s.name && step.adds).map fun step => step.entry.name).eraseDups) ∧
    ∀ step : Step,
      (step.finds catalog = true ↔
        ∃ above earlier below, steps = above ++ earlier :: below ∧ earlier.adds = true ∧
          earlier.finds (after above) = false ∧ earlier.scope = step.scope ∧
          earlier.entry.name = step.entry.name) ∧
      (after (steps ++ [step])).entriesOf step.scope = catalog.entriesOf step.scope ++
        (if step.adds && !step.finds catalog then [step.entry] else []) ∧
      ∀ (i : Nat) (s : ScopeEntries), s.name ≠ step.scope →
        ((after (steps ++ [step]))[i]? = some s ↔ catalog[i]? = some s) := by
  intro catalog
  have hcatalog : catalog = (steps.map Step.scope).eraseDups.map fun scope => ⟨scope, kept (stepsOn steps scope)⟩ :=
    after_eq steps
  have hnames : catalog.map ScopeEntries.name = (steps.map Step.scope).eraseDups := by
    rw [hcatalog, List.map_map]
    exact List.map_id' _
  refine ⟨⟨hnames, hnames ▸ Outline.nodup_eraseDups _⟩, ?_, ?_⟩
  · intro s hs
    rw [hcatalog] at hs
    obtain ⟨scope, -, rfl⟩ := List.mem_map.1 hs
    have hkept := map_name_kept (stepsOn steps scope)
    refine ⟨hkept ▸ Outline.nodup_eraseDups _, ?_⟩
    rw [hkept, stepsOn, List.filter_filter]
    simp only [Bool.and_comm]
  · intro step
    refine ⟨finds_after_iff_added, ?_, ?_⟩
    · rw [after_concat, show after steps = catalog from rfl, hcatalog]
      exact entriesOf_apply_map (Outline.nodup_eraseDups _) kept_stepsOn_eq_nil
    · intro i s hs
      rw [after_concat, show after steps = catalog from rfl, hcatalog]
      exact getElem?_apply_map (Outline.nodup_eraseDups _) kept_stepsOn_eq_nil hs

/-- A look-up alone names a scope, a second entry of one name is not added, and the steps on two scopes mix. -/
theorem keeps_entries_apart_of_mixed :
    let entry (name : String) : Entry := ⟨name.toList, [], [], []⟩
    let steps : List Step := [⟨"NPC".toList, entry "say", false⟩, ⟨"Mob".toList, entry "say", true⟩,
      ⟨"NPC".toList, entry "go", true⟩, ⟨"Mob".toList, entry "say", true⟩]
    (after steps).map ScopeEntries.name = ["NPC".toList, "Mob".toList] ∧
      Step.finds ⟨"Mob".toList, entry "say", true⟩ (after steps) = true ∧
      (∃ s ∈ after steps, s.name = "Mob".toList ∧ (s.entries.map Entry.name).Nodup) ∧
      (after (steps ++ [⟨"Mob".toList, entry "go", true⟩]))[0]? = some ⟨"NPC".toList, [entry "go"]⟩ := by
  intro entry steps
  obtain ⟨⟨hnames, -⟩, hentries, hstep⟩ := keeps_entries_apart steps
  obtain ⟨hfinds, -, -⟩ := hstep ⟨"Mob".toList, entry "say", true⟩
  obtain ⟨-, -, hothers⟩ := hstep ⟨"Mob".toList, entry "go", true⟩
  have hmob : ⟨"Mob".toList, [entry "say"]⟩ ∈ after steps := by decide +kernel
  have hnpc : (after steps)[0]? = some ⟨"NPC".toList, [entry "go"]⟩ := by decide +kernel
  refine ⟨hnames.trans (by decide +kernel), ?_, ⟨_, hmob, rfl, (hentries _ hmob).1⟩, ?_⟩
  · refine hfinds.2 ⟨[⟨"NPC".toList, entry "say", false⟩], ⟨"Mob".toList, entry "say", true⟩, _, rfl, rfl, ?_, rfl, rfl⟩
    decide +kernel
  · exact (hothers 0 _ (by decide)).2 hnpc

end Catalog

namespace Outline

/-- The catalog of an outline comes from steps that add the entries of the functions. -/
theorem catalog_ofRecords_eq_after (v : Vocabulary) (fs : List BoundFunction) (es : List Event) :
    (ofRecords v fs es).catalog = Catalog.after ((withScope fs).map fun f => ⟨f.scope, f.entry v, true⟩) := by
  have hstep : addEntry v = fun catalog f => Catalog.Step.apply ⟨f.scope, f.entry v, true⟩ catalog := by
    funext catalog f
    unfold addEntry Catalog.Step.apply Catalog.Step.finds
    by_cases h : (catalog.visit f.scope).holds f.scope f.name = true
    · simp [h, BoundFunction.entry]
    · simp [h, BoundFunction.entry]
  rw [ofRecords, foldl_add_eq, Catalog.after, List.foldl_map, hstep]

end Outline

end BindingDocs
