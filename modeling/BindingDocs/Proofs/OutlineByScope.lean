import BindingDocs.Outline
import Mathlib.Data.List.Induction
import Mathlib.Data.List.Nodup

/-!
# The outline, scope by scope

The lists and the catalog are made in one pass over the functions, which may belong to any scopes in any order; the
pass makes each of the two as if it were alone (`foldl_add_eq`).  In closed form, both name the scopes in the order in
which they first occur; the list of a scope is made of the lines of its functions (`foldl_append_eq`), and its entries
of the first function of each name (`foldl_addEntry_eq`).  One more function changes the closed form as the pass does:
only in its own scope, and the entries only if its name is new (`firsts_concat`).  So the lists have the functions scope
by scope, none is lost and none is doubled (`ofRecords_byScope`).
-/

namespace BindingDocs

namespace Outline

/-! ### First occurrences -/

theorem eraseDups_concat (keys : List Text) (key : Text) :
    (keys ++ [key]).eraseDups = if key ∈ keys then keys.eraseDups else keys.eraseDups ++ [key] := by
  have hone : [key].eraseDups = [key] := rfl
  rw [List.eraseDups_append]
  by_cases h : key ∈ keys <;> simp [h, hone, List.removeAll]

theorem nodup_eraseDups (keys : List Text) : keys.eraseDups.Nodup := by
  induction keys using List.reverseRecOn with
  | nil => simp
  | append_singleton keys key ih =>
    rw [eraseDups_concat]
    split
    · exact ih
    · rename_i h
      rw [← List.concat_eq_append]
      exact ih.concat (mt List.mem_eraseDups.1 h)

/-- The scopes of functions, in the order in which they first occur. -/
def scopes (fs : List BoundFunction) : List Text := (fs.map BoundFunction.scope).eraseDups

/-- The functions of a scope. -/
def inScope (fs : List BoundFunction) (scope : Text) : List BoundFunction := fs.filter fun f => f.scope == scope

/-- The first function of each name. -/
def firsts : List BoundFunction → List BoundFunction
  | [] => []
  | f :: fs => f :: (firsts fs).filter fun g => g.name != f.name

variable {fs : List BoundFunction}

theorem mem_scopes {scope : Text} : scope ∈ scopes fs ↔ ∃ f ∈ fs, f.scope = scope := by
  rw [scopes, List.mem_eraseDups, List.mem_map]

theorem nodup_scopes (fs : List BoundFunction) : (scopes fs).Nodup := nodup_eraseDups _

theorem scopes_concat (fs : List BoundFunction) (f : BoundFunction) :
    scopes (fs ++ [f]) = if f.scope ∈ scopes fs then scopes fs else scopes fs ++ [f.scope] := by
  unfold scopes
  rw [List.map_append, List.map_singleton, eraseDups_concat]
  simp only [List.mem_eraseDups]

theorem inScope_concat (fs : List BoundFunction) (f : BoundFunction) (scope : Text) :
    inScope (fs ++ [f]) scope = if scope = f.scope then inScope fs scope ++ [f] else inScope fs scope := by
  unfold inScope
  rw [List.filter_append]
  by_cases h : scope = f.scope
  · simp [h]
  · simp [h, Ne.symm h]

theorem inScope_eq_nil_iff {scope : Text} : inScope fs scope = [] ↔ scope ∉ scopes fs := by
  rw [inScope, List.filter_eq_nil_iff, mem_scopes]
  simp

/-- Of each name, the first function of that name is kept. -/
theorem filter_firsts (fs : List BoundFunction) (name : Text) :
    ((firsts fs).filter fun g => g.name == name) = (fs.find? fun g => g.name == name).toList := by
  induction fs with
  | nil => rfl
  | cons f fs ih =>
    by_cases h : f.name = name
    · have hrest : ((firsts fs).filter fun g => g.name != f.name).filter (fun g => g.name == name) = [] := by
        rw [List.filter_filter, List.filter_eq_nil_iff]
        simp [h]
      rw [firsts, List.filter_cons_of_pos (by simpa using h), List.find?_cons_of_pos (by simpa using h), hrest]
      rfl
    · have hrest : ((firsts fs).filter fun g => g.name != f.name).filter (fun g => g.name == name) =
          (firsts fs).filter fun g => g.name == name := by
        rw [List.filter_filter]
        refine List.filter_congr fun g _ => ?_
        by_cases hg : g.name = name
        · simp [hg, Ne.symm h]
        · simp [hg]
      rw [firsts, List.filter_cons_of_neg (by simpa using h), List.find?_cons_of_neg (by simpa using h), hrest, ih]

theorem firsts_concat (fs : List BoundFunction) (f : BoundFunction) :
    firsts (fs ++ [f]) = if f.name ∈ fs.map BoundFunction.name then firsts fs else firsts fs ++ [f] := by
  induction fs with
  | nil => rfl
  | cons g fs ih =>
    by_cases hmem : f.name ∈ fs.map BoundFunction.name
    · rw [if_pos hmem] at ih
      rw [List.map_cons, if_pos (List.mem_cons_of_mem _ hmem), List.cons_append, firsts, ih, firsts]
    · rw [if_neg hmem] at ih
      by_cases hg : f.name = g.name
      · have hdrop : [f].filter (fun h => h.name != g.name) = [] := by simp [hg]
        rw [List.map_cons, if_pos (hg ▸ List.mem_cons_self), List.cons_append, firsts, ih, List.filter_append,
          hdrop, List.append_nil, firsts]
      · have hkeep : [f].filter (fun h => h.name != g.name) = [f] := by simp [hg]
        rw [List.map_cons, if_neg (List.not_mem_cons_of_ne_of_not_mem hg hmem), List.cons_append, firsts, ih,
          List.filter_append, hkeep, firsts, List.cons_append]

theorem map_name_firsts (fs : List BoundFunction) :
    (firsts fs).map BoundFunction.name = (fs.map BoundFunction.name).eraseDups := by
  induction fs using List.reverseRecOn with
  | nil => rfl
  | append_singleton fs f ih =>
    rw [firsts_concat, List.map_append, List.map_singleton, eraseDups_concat]
    split
    · exact ih
    · rw [List.map_append, ih, List.map_singleton]

end Outline

/-! ### One step on lists and catalogs -/

/-- What is made for other keys stays. -/
private theorem map_if_of_notMem {β γ : Type} {keys : List Text} {key : Text} (h : key ∉ keys) (make : Text → β → γ)
    (new old : Text → β) :
    (keys.map fun k => make k (if k = key then new k else old k)) = keys.map fun k => make k (old k) := by
  refine List.map_congr_left fun k hk => ?_
  have hne : k ≠ key := fun he => h (he ▸ hk)
  rw [if_neg hne]

namespace ScopeLists

variable {keys : List Text} {g : Text → Text} {scope line : Text}

theorem append_map_of_mem (hkeys : keys.Nodup) (h : scope ∈ keys) :
    append scope line (keys.map fun k => (k, g k)) =
      keys.map fun k => (k, if k = scope then g k ++ line else g k) := by
  induction keys with
  | nil => cases h
  | cons key keys ih =>
    rw [List.nodup_cons] at hkeys
    by_cases hk : key = scope
    · subst hk
      simp [append, map_if_of_notMem hkeys.1]
    · have hmem : scope ∈ keys := (List.mem_cons.1 h).resolve_left (Ne.symm hk)
      simp [append, hk, ih hkeys.2 hmem]

theorem append_map_of_notMem (h : scope ∉ keys) :
    append scope line (keys.map fun k => (k, g k)) = (keys.map fun k => (k, g k)) ++ [(scope, line)] := by
  induction keys with
  | nil => rfl
  | cons key keys ih =>
    rw [List.mem_cons, not_or] at h
    simp [append, Ne.symm h.1, ih h.2]

end ScopeLists

namespace Catalog

variable {keys : List Text} {g : Text → List Entry} {scope : Text}

theorem visit_map_of_mem (h : scope ∈ keys) :
    visit (keys.map fun k => ⟨k, g k⟩) scope = keys.map fun k => ⟨k, g k⟩ := by
  have hany : ((keys.map fun k => (⟨k, g k⟩ : ScopeEntries)).any fun s => s.name == scope) = true := by
    simpa using h
  rw [visit, if_pos hany]

theorem visit_map_of_notMem (h : scope ∉ keys) :
    visit (keys.map fun k => ⟨k, g k⟩) scope = (keys.map fun k => ⟨k, g k⟩) ++ [⟨scope, []⟩] := by
  have hany : ¬ ((keys.map fun k => (⟨k, g k⟩ : ScopeEntries)).any fun s => s.name == scope) = true := by
    simpa using h
  rw [visit, if_neg hany]

theorem entriesOf_map (h : scope ∈ keys) : entriesOf (keys.map fun k => ⟨k, g k⟩) scope = g scope := by
  induction keys with
  | nil => cases h
  | cons key keys ih =>
    by_cases hk : key = scope
    · simp [entriesOf, hk]
    · have hmem : scope ∈ keys := (List.mem_cons.1 h).resolve_left (Ne.symm hk)
      have hrest := ih hmem
      unfold entriesOf at hrest ⊢
      rw [List.map_cons, List.find?_cons_of_neg (by simpa using hk), hrest]

theorem add_map (hkeys : keys.Nodup) (e : Entry) :
    add (keys.map fun k => ⟨k, g k⟩) scope e =
      keys.map fun k => ⟨k, if k = scope then g k ++ [e] else g k⟩ := by
  induction keys with
  | nil => rfl
  | cons key keys ih =>
    rw [List.nodup_cons] at hkeys
    by_cases hk : key = scope
    · subst hk
      simp [add, map_if_of_notMem hkeys.1]
    · simp [add, hk, ih hkeys.2]

end Catalog

/-! ### The closed form -/

namespace Outline

theorem foldl_append_eq (fs : List BoundFunction) :
    fs.foldl (fun lists f => ScopeLists.append f.scope f.signatureLine lists) [] =
      (scopes fs).map fun s => (s, (inScope fs s).flatMap BoundFunction.signatureLine) := by
  induction fs using List.reverseRecOn with
  | nil => rfl
  | append_singleton fs f ih =>
    rw [List.foldl_append, ih, List.foldl_cons, List.foldl_nil, scopes_concat]
    -- one more line is put at the end of the list of its scope
    have hlist : ∀ s, (inScope (fs ++ [f]) s).flatMap BoundFunction.signatureLine =
        if s = f.scope then (inScope fs s).flatMap BoundFunction.signatureLine ++ f.signatureLine
        else (inScope fs s).flatMap BoundFunction.signatureLine := by
      intro s
      rw [inScope_concat]
      split <;> simp
    simp only [hlist]
    by_cases h : f.scope ∈ scopes fs
    · rw [if_pos h, ScopeLists.append_map_of_mem (nodup_scopes fs) h]
    · rw [if_neg h, ScopeLists.append_map_of_notMem h, List.map_append, List.map_singleton, if_pos rfl,
        inScope_eq_nil_iff.2 h]
      congr 1
      refine List.map_congr_left fun s hs => ?_
      rw [if_neg fun he : s = f.scope => h (he ▸ hs)]

/-- The entries for the functions of a scope. -/
def entriesIn (v : Vocabulary) (fs : List BoundFunction) (scope : Text) : List Entry :=
  (firsts (inScope fs scope)).map (BoundFunction.entry v)

theorem map_name_entriesIn (v : Vocabulary) (fs : List BoundFunction) (scope : Text) :
    (entriesIn v fs scope).map Entry.name = ((inScope fs scope).map BoundFunction.name).eraseDups := by
  rw [entriesIn, List.map_map, ← map_name_firsts]
  rfl

/-- An entry is added only if the name is new in its scope. -/
theorem entriesIn_concat (v : Vocabulary) (fs : List BoundFunction) (f : BoundFunction) (scope : Text) :
    entriesIn v (fs ++ [f]) scope =
      if scope = f.scope ∧ f.name ∉ (inScope fs scope).map BoundFunction.name then
        entriesIn v fs scope ++ [f.entry v]
      else entriesIn v fs scope := by
  unfold entriesIn
  rw [inScope_concat]
  by_cases hs : scope = f.scope
  · rw [if_pos hs, firsts_concat]
    by_cases hname : f.name ∈ (inScope fs scope).map BoundFunction.name
    · rw [if_pos hname, if_neg fun h => h.2 hname]
    · rw [if_neg hname, if_pos ⟨hs, hname⟩, List.map_append, List.map_singleton]
  · rw [if_neg hs, if_neg fun h => hs h.1]

theorem visit_entriesIn (v : Vocabulary) (fs : List BoundFunction) (f : BoundFunction) :
    Catalog.visit ((scopes fs).map fun s => ⟨s, entriesIn v fs s⟩) f.scope =
      (scopes (fs ++ [f])).map fun s => ⟨s, entriesIn v fs s⟩ := by
  rw [scopes_concat]
  by_cases h : f.scope ∈ scopes fs
  · rw [if_pos h, Catalog.visit_map_of_mem h]
  · have hnone : entriesIn v fs f.scope = [] := by
      rw [entriesIn, inScope_eq_nil_iff.2 h]
      rfl
    rw [if_neg h, Catalog.visit_map_of_notMem h, List.map_append, List.map_singleton, hnone]

theorem holds_entriesIn_iff (v : Vocabulary) (fs : List BoundFunction) (f : BoundFunction) :
    Catalog.holds ((scopes (fs ++ [f])).map fun s => ⟨s, entriesIn v fs s⟩) f.scope f.name = true ↔
      f.name ∈ (inScope fs f.scope).map BoundFunction.name := by
  have hmem : f.scope ∈ scopes (fs ++ [f]) := mem_scopes.2 ⟨f, by simp, rfl⟩
  rw [Catalog.holds, Catalog.entriesOf_map hmem, entriesIn, ← List.mem_eraseDups, ← map_name_firsts]
  simp [BoundFunction.entry]

theorem foldl_addEntry_eq (v : Vocabulary) (fs : List BoundFunction) :
    fs.foldl (addEntry v) [] = (scopes fs).map fun s => ⟨s, entriesIn v fs s⟩ := by
  induction fs using List.reverseRecOn with
  | nil => rfl
  | append_singleton fs f ih =>
    rw [List.foldl_append, ih, List.foldl_cons, List.foldl_nil, addEntry, visit_entriesIn]
    by_cases hholds : f.name ∈ (inScope fs f.scope).map BoundFunction.name
    · rw [if_pos ((holds_entriesIn_iff v fs f).2 hholds)]
      refine List.map_congr_left fun s _ => ?_
      rw [entriesIn_concat, if_neg]
      rintro ⟨rfl, hname⟩
      exact hname hholds
    · rw [if_neg (mt (holds_entriesIn_iff v fs f).1 hholds), Catalog.add_map (nodup_scopes _)]
      refine List.map_congr_left fun s _ => ?_
      rw [entriesIn_concat]
      by_cases hs : s = f.scope
      · subst hs
        rw [if_pos rfl, if_pos ⟨rfl, hholds⟩]
      · rw [if_neg hs, if_neg fun h => hs h.1]

/-! ### Functions with and without a scope -/

/-- The functions that belong to a scope. -/
def withScope (fs : List BoundFunction) : List BoundFunction := fs.filter fun f => !f.scope.isEmpty

/-- The pass over the functions makes the lists and the catalog side by side: neither depends on the other, and a
function without a scope changes neither. -/
theorem foldl_add_eq (v : Vocabulary) (fs : List BoundFunction) (o : Outline) :
    fs.foldl (add v) o =
      { o with
        scopeLists := (withScope fs).foldl (fun lists f => ScopeLists.append f.scope f.signatureLine lists) o.scopeLists
        catalog := (withScope fs).foldl (addEntry v) o.catalog } := by
  induction fs generalizing o with
  | nil => rfl
  | cons f fs ih =>
    rw [List.foldl_cons, ih, add]
    cases hscope : f.scope.isEmpty <;> simp [withScope, hscope]

theorem mem_scopes_withScope {scope : Text} :
    scope ∈ scopes (withScope fs) ↔ scope ≠ [] ∧ scope ∈ scopes fs := by
  rw [mem_scopes, mem_scopes]
  constructor
  · rintro ⟨f, hf, rfl⟩
    obtain ⟨hf, hscope⟩ := List.mem_filter.1 hf
    exact ⟨by simpa using hscope, f, hf, rfl⟩
  · rintro ⟨hscope, f, hf, rfl⟩
    exact ⟨f, List.mem_filter.2 ⟨hf, by simpa using hscope⟩, rfl⟩

theorem inScope_withScope {scope : Text} (h : scope ≠ []) : inScope (withScope fs) scope = inScope fs scope := by
  rw [inScope, withScope, List.filter_filter]
  refine List.filter_congr fun f _ => ?_
  by_cases hf : f.scope = scope
  · simp [hf, h]
  · simp [hf]

theorem mem_scopes_withScope_iff_inScope_ne_nil {scope : Text} :
    scope ∈ scopes (withScope fs) ↔ scope ≠ [] ∧ inScope fs scope ≠ [] := by
  rw [mem_scopes_withScope, ne_eq (inScope fs scope), inScope_eq_nil_iff, not_not]

theorem scopes_withScope (fs : List BoundFunction) :
    scopes (withScope fs) = ((fs.map BoundFunction.scope).filter fun s => !s.isEmpty).eraseDups := by
  rw [List.filter_map]
  rfl

variable (v : Vocabulary) (fs : List BoundFunction) (es : List Event)

theorem scopeLists_ofRecords :
    (ofRecords v fs es).scopeLists =
      (scopes (withScope fs)).map fun s => (s, (inScope fs s).flatMap BoundFunction.signatureLine) := by
  rw [ofRecords, foldl_add_eq, foldl_append_eq]
  refine List.map_congr_left fun s hs => ?_
  rw [inScope_withScope (mem_scopes_withScope.1 hs).1]

theorem catalog_ofRecords :
    (ofRecords v fs es).catalog = (scopes (withScope fs)).map fun s => ⟨s, entriesIn v fs s⟩ := by
  rw [ofRecords, foldl_add_eq, foldl_addEntry_eq]
  refine List.map_congr_left fun s hs => ?_
  rw [entriesIn, inScope_withScope (mem_scopes_withScope.1 hs).1, entriesIn]

theorem eventList_ofRecords : (ofRecords v fs es).eventList = es.flatMap Event.indexLine := by
  rw [ofRecords, foldl_add_eq]

theorem map_fst_scopeLists_ofRecords : (ofRecords v fs es).scopeLists.map Prod.fst = scopes (withScope fs) := by
  rw [scopeLists_ofRecords, List.map_map]
  exact List.map_id' _

theorem map_name_catalog_ofRecords :
    (ofRecords v fs es).catalog.map ScopeEntries.name = scopes (withScope fs) := by
  rw [catalog_ofRecords, List.map_map]
  exact List.map_id' _

/-- Of what is made for keys, each once, only what is made for a key has that key. -/
private theorem filter_map_key {β : Type} {keys : List Text} (hkeys : keys.Nodup) {make : Text → β}
    {keyOf : β → Text} (hmake : ∀ k, keyOf (make k) = k) (key : Text) :
    ((keys.map make).filter fun b => keyOf b == key) = if key ∈ keys then [make key] else [] := by
  rw [List.filter_map]
  simp only [Function.comp_def, hmake]
  rw [List.filter_beq, hkeys.count]
  split <;> rfl

theorem filter_scopeLists_ofRecords (scope : Text) :
    ((ofRecords v fs es).scopeLists.filter fun p => p.1 == scope) =
      if scope ≠ [] ∧ inScope fs scope ≠ [] then
        [(scope, (inScope fs scope).flatMap BoundFunction.signatureLine)]
      else [] := by
  rw [scopeLists_ofRecords, filter_map_key (nodup_scopes _) fun _ => rfl]
  simp only [mem_scopes_withScope_iff_inScope_ne_nil]

theorem filter_catalog_ofRecords (scope : Text) :
    ((ofRecords v fs es).catalog.filter fun s => s.name == scope) =
      if scope ≠ [] ∧ inScope fs scope ≠ [] then [⟨scope, entriesIn v fs scope⟩] else [] := by
  rw [catalog_ofRecords, filter_map_key (nodup_scopes _) fun _ => rfl]
  simp only [mem_scopes_withScope_iff_inScope_ne_nil]

/-- The entries that a catalog has for a function of a scope. -/
def entriesFor (catalog : Catalog) (scope name : Text) : List Entry :=
  (catalog.filter fun s => s.name == scope).flatMap fun s => s.entries.filter fun e => e.name == name

variable {v fs es}

theorem find?_inScope (fs : List BoundFunction) (scope name : Text) :
    ((inScope fs scope).find? fun g => g.name == name) =
      fs.find? fun g => g.scope == scope && g.name == name := by
  rw [inScope, List.find?_filter]
  congr 1
  funext g
  rw [Bool.decide_and, Bool.decide_eq_true, Bool.decide_eq_true]

/-- The first function of a scope and a name is documented, and no other function of that scope and name. -/
theorem entriesFor_ofRecords {scope name : Text} {f : BoundFunction} (hscope : scope ≠ [])
    (hf : (fs.find? fun g => g.scope == scope && g.name == name) = some f) :
    entriesFor (ofRecords v fs es).catalog scope name = [f.entry v] := by
  rw [← find?_inScope] at hf
  have hentries : ((entriesIn v fs scope).filter fun e => e.name == name) = [f.entry v] := by
    rw [entriesIn, List.filter_map]
    show List.map _ ((firsts (inScope fs scope)).filter fun g => g.name == name) = _
    rw [filter_firsts, hf]
    rfl
  have hne : inScope fs scope ≠ [] := List.ne_nil_of_mem (List.mem_of_find?_eq_some hf)
  rw [entriesFor, filter_catalog_ofRecords, if_pos ⟨hscope, hne⟩, List.flatMap_singleton, hentries]

/-! ### The partition -/

/-- Functions put together key by key are those whose scope is a key. -/
private theorem flatMap_inScope_perm {keys : List Text} (hkeys : keys.Nodup) (fs : List BoundFunction) :
    (keys.flatMap (inScope fs)).Perm (fs.filter fun f => f.scope ∈ keys) := by
  induction keys generalizing fs with
  | nil => simp
  | cons key keys ih =>
    rw [List.nodup_cons] at hkeys
    have hhead : inScope fs key = (fs.filter fun f => f.scope ∈ key :: keys).filter fun f => f.scope == key := by
      rw [inScope, List.filter_filter]
      refine List.filter_congr fun f _ => ?_
      by_cases h : f.scope = key <;> simp [h]
    have htail : (fs.filter fun f => f.scope ∈ keys) =
        (fs.filter fun f => f.scope ∈ key :: keys).filter fun f => !(f.scope == key) := by
      rw [List.filter_filter]
      refine List.filter_congr fun f _ => ?_
      by_cases h : f.scope = key
      · simp [h, hkeys.1]
      · simp [h]
    rw [List.flatMap_cons]
    refine ((ih hkeys.2 fs).append_left _).trans ?_
    rw [hhead, htail]
    exact List.filter_append_perm _ _

theorem flatMap_inScope_scopes_perm (fs : List BoundFunction) :
    ((scopes (withScope fs)).flatMap (inScope fs)).Perm (withScope fs) := by
  have hnamed : (fs.filter fun f => f.scope ∈ scopes (withScope fs)) = withScope fs := by
    refine List.filter_congr fun f hf => ?_
    have hmem : f.scope ∈ scopes fs := mem_scopes.2 ⟨f, hf, rfl⟩
    rw [Bool.eq_iff_iff]
    simp [mem_scopes_withScope, hmem]
  have hperm := flatMap_inScope_perm (nodup_scopes (withScope fs)) fs
  rwa [hnamed] at hperm

/-- The lists and the catalog of an outline have the functions scope by scope. -/
structure ByScope (v : Vocabulary) (fs : List BoundFunction) (o : Outline) : Prop where
  /-- The lists have the scopes that are not empty, each once, in the order in which they first occur. -/
  list_scopes : o.scopeLists.map Prod.fst = ((fs.map BoundFunction.scope).filter fun s => !s.isEmpty).eraseDups
  nodup_list_scopes : (o.scopeLists.map Prod.fst).Nodup
  /-- The catalog has the same scopes in the same order. -/
  catalog_scopes : o.catalog.map ScopeEntries.name = o.scopeLists.map Prod.fst
  /-- A list has the lines of the functions of its scope, in their order. -/
  list_eq : ∀ p ∈ o.scopeLists, p.2 = (fs.filter fun f => f.scope == p.1).flatMap BoundFunction.signatureLine
  /-- The entries of a scope have the names of its functions, each once, in the order in which they first occur. -/
  entry_names : ∀ s ∈ o.catalog, s.entries.map Entry.name =
    ((fs.filter fun f => f.scope == s.name).map BoundFunction.name).eraseDups
  nodup_entry_names : ∀ s ∈ o.catalog, (s.entries.map Entry.name).Nodup
  /-- An entry documents the first function of its scope and name. -/
  entry_eq : ∀ s ∈ o.catalog, ∀ e ∈ s.entries,
    ∃ f, (fs.find? fun g => g.scope == s.name && g.name == e.name) = some f ∧ e = f.entry v
  /-- All lists together have every function that belongs to a scope as often as it occurs. -/
  lists_perm : (o.scopeLists.flatMap fun p => fs.filter fun f => f.scope == p.1).Perm
    (fs.filter fun f => !f.scope.isEmpty)
  /-- A function that belongs to a scope is on one list. -/
  one_list : ∀ f ∈ fs, f.scope ≠ [] →
    ∃ list, (o.scopeLists.filter fun p => p.1 == f.scope) = [(f.scope, list)]
  /-- A function that belongs to a scope has one entry. -/
  one_entry : ∀ f ∈ fs, f.scope ≠ [] → ∃ e, entriesFor o.catalog f.scope f.name = [e]

private theorem exists_find? {f : BoundFunction} (hf : f ∈ fs) :
    ∃ g, (fs.find? fun g => g.scope == f.scope && g.name == f.name) = some g :=
  Option.isSome_iff_exists.1 (List.find?_isSome.2 ⟨f, hf, by simp⟩)

theorem entry_mem_entriesIn {scope : Text} {e : Entry} (he : e ∈ entriesIn v fs scope) :
    ∃ f, (fs.find? fun g => g.scope == scope && g.name == e.name) = some f ∧ e = f.entry v := by
  obtain ⟨f, hf, rfl⟩ := List.mem_map.1 he
  have hfirst : f ∈ (firsts (inScope fs scope)).filter fun g => g.name == f.name :=
    List.mem_filter.2 ⟨hf, by simp⟩
  rw [filter_firsts, find?_inScope, Option.mem_toList] at hfirst
  exact ⟨f, hfirst, rfl⟩

theorem entries_eq_of_mem_catalog {s : ScopeEntries} (hs : s ∈ (ofRecords v fs es).catalog) :
    s.entries = entriesIn v fs s.name := by
  rw [catalog_ofRecords] at hs
  obtain ⟨scope, -, rfl⟩ := List.mem_map.1 hs
  rfl

theorem byScope_ofRecords (v : Vocabulary) (fs : List BoundFunction) (es : List Event) :
    ByScope v fs (ofRecords v fs es) where
  list_scopes := by rw [map_fst_scopeLists_ofRecords, scopes_withScope]
  nodup_list_scopes := by
    rw [map_fst_scopeLists_ofRecords]
    exact nodup_scopes _
  catalog_scopes := by rw [map_name_catalog_ofRecords, map_fst_scopeLists_ofRecords]
  list_eq := by
    rw [scopeLists_ofRecords]
    intro p hp
    obtain ⟨scope, -, rfl⟩ := List.mem_map.1 hp
    rfl
  entry_names := by
    intro s hs
    rw [entries_eq_of_mem_catalog hs, map_name_entriesIn]
    rfl
  nodup_entry_names := by
    intro s hs
    rw [entries_eq_of_mem_catalog hs, map_name_entriesIn]
    exact nodup_eraseDups _
  entry_eq := by
    intro s hs e he
    rw [entries_eq_of_mem_catalog hs] at he
    exact entry_mem_entriesIn he
  lists_perm := by
    have hflat : ((ofRecords v fs es).scopeLists.flatMap fun p => fs.filter fun f => f.scope == p.1) =
        (scopes (withScope fs)).flatMap (inScope fs) := by
      rw [← map_fst_scopeLists_ofRecords v fs es, List.flatMap_map]
      rfl
    rw [hflat]
    exact flatMap_inScope_scopes_perm fs
  one_list := by
    intro f hf hscope
    have hne : inScope fs f.scope ≠ [] := List.ne_nil_of_mem (List.mem_filter.2 ⟨hf, by simp⟩)
    exact ⟨_, (filter_scopeLists_ofRecords v fs es f.scope).trans (if_pos ⟨hscope, hne⟩)⟩
  one_entry := by
    intro f hf hscope
    obtain ⟨g, hg⟩ := exists_find? hf
    exact ⟨_, entriesFor_ofRecords hscope hg⟩

/-- The lists and the catalog have the functions scope by scope, and what they have for a scope depends on nothing
but its functions. -/
theorem ofRecords_byScope (v : Vocabulary) (fs : List BoundFunction) (es : List Event) :
    ByScope v fs (ofRecords v fs es) ∧
      ∀ (gs : List BoundFunction) (ds : List Event) (scope : Text),
        (gs.filter fun f => f.scope == scope) = (fs.filter fun f => f.scope == scope) →
          ((ofRecords v gs ds).scopeLists.filter fun p => p.1 == scope) =
              ((ofRecords v fs es).scopeLists.filter fun p => p.1 == scope) ∧
            ((ofRecords v gs ds).catalog.filter fun s => s.name == scope) =
              ((ofRecords v fs es).catalog.filter fun s => s.name == scope) := by
  refine ⟨byScope_ofRecords v fs es, ?_⟩
  intro gs ds scope hfilter
  have hsame : inScope gs scope = inScope fs scope := hfilter
  constructor
  · rw [filter_scopeLists_ofRecords, filter_scopeLists_ofRecords, hsame]
  · rw [filter_catalog_ofRecords, filter_catalog_ofRecords, entriesIn, entriesIn, hsame]

end Outline

end BindingDocs
