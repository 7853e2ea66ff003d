import BindingDocs.Proofs.ReadingBack
import BindingDocs.Proofs.SourceOrder
import BindingDocs.Proofs.Titles

/-!
# Pages have different names

No two pages of an outline share a file, save the pages of events whose names have one title
(`page_names_apart`).  The name of a page is a stem with the same text around it.  The stem of a scope or a function
begins with the scope, which is its own title and comes from a text without capitals (`IsTitle`); the stem of an event
begins with `EVENT`.
-/

namespace BindingDocs

namespace Text

/-- No character is a capital of ASCII. -/
def HasNoCapital (s : Text) : Prop := ∀ c ∈ s, c.isUpper = false

instance (s : Text) : Decidable (HasNoCapital s) := List.decidableBAll (fun c : Char => c.isUpper = false) s

theorem HasNoCapital.append {s t : Text} (hs : HasNoCapital s) (ht : HasNoCapital t) : HasNoCapital (s ++ t) := by
  intro c hc
  rcases List.mem_append.1 hc with hc | hc
  · exact hs c hc
  · exact ht c hc

theorem HasNoCapital.of_cut? {mark s before rest : Text} (hs : HasNoCapital s)
    (h : cut? mark s = some (before, rest)) : HasNoCapital before ∧ HasNoCapital rest := by
  have hsplit := cut?_eq_some h
  refine ⟨fun c hc => hs c ?_, fun c hc => hs c ?_⟩
  · rw [hsplit, List.append_assoc]
    exact List.mem_append_left _ hc
  · rw [hsplit]
    exact List.mem_append_right _ hc

theorem hasNoCapital_lowercase (s : Text) : HasNoCapital (lowercase s) := fun _ hc => isUpper_of_mem_lowercase hc

private theorem hasNoCapital_replaceFrom {old new : Text} (hnew : HasNoCapital new) (k : Nat) {s : Text}
    (hs : HasNoCapital s) : HasNoCapital (replaceFrom old new k s) := by
  induction s generalizing k with
  | nil => cases k <;> exact hs
  | cons c s ih =>
    obtain ⟨hc, hs⟩ := List.forall_mem_cons.1 hs
    cases k with
    | succ k => exact ih k hs
    | zero =>
      unfold replaceFrom
      split
      · exact hnew.append (ih _ hs)
      · exact List.forall_mem_cons.2 ⟨hc, ih 0 hs⟩

theorem HasNoCapital.replace {old new s : Text} (hnew : HasNoCapital new) (hs : HasNoCapital s) :
    HasNoCapital (replace old new s) := by
  unfold Text.replace
  split
  · exact hs
  · exact hasNoCapital_replaceFrom hnew 0 hs

/-- What does not hold the mark stays before it. -/
theorem before_append_of_notMem {m : Char} {w : Text} (hw : m ∉ w) (s : Text) :
    before [m] (w ++ s) = w ++ before [m] s := by
  induction w with
  | nil => rfl
  | cons c w ih =>
    obtain ⟨hc, hw⟩ := List.ne_and_not_mem_of_not_mem_cons hw
    have hcut : cut? [m] (c :: (w ++ s)) = (cut? [m] (w ++ s)).map fun p => (c :: p.1, p.2) := by
      simp [cut?, after?, hc]
    rw [List.cons_append, List.cons_append, ← ih hw, before, before, hcut]
    cases cut? [m] (w ++ s) <;> rfl

end Text

/-! ### Scopes -/

namespace ScriptName

theorem hasNoCapital_receiverOf (name : Text) : Text.HasNoCapital (receiverOf name) := by
  have harrow (mark : Text) {s : Text} (hs : Text.HasNoCapital s) : Text.HasNoCapital (arrowAt mark s) := by
    unfold arrowAt
    split
    · rename_i before rest hcut
      exact (hs.of_cut? hcut).1.append (by decide)
    · exact hs
  have hvariable : Text.HasNoCapital (variableOf name) := by
    refine .replace (by decide) (.replace (by decide) ?_)
    exact List.forall_mem_cons.2 ⟨by decide, Text.hasNoCapital_lowercase name⟩
  exact harrow _ (harrow _ hvariable)

theorem hasNoCapital_receiverIn (source : Source) {f : BoundFunction} (hf : f.receiver = []) (name : Text) :
    Text.HasNoCapital (receiverIn source f name) := by
  unfold receiverIn
  split
  · rw [hf]
    split <;> decide
  · exact hasNoCapital_receiverOf name

theorem hasNoCapital_wordBefore? {mark s word : Text} (hs : Text.HasNoCapital s)
    (h : wordBefore? mark s = some word) : Text.HasNoCapital word := by
  unfold wordBefore? at h
  split at h
  · rename_i before rest hcut
    obtain rfl := Option.some.inj (Option.ite_none_left_eq_some.1 h).2
    exact (hs.of_cut? hcut).1
  · cases h

theorem hasNoCapital_scopeOf {receiver : Text} (hr : Text.HasNoCapital receiver) :
    Text.HasNoCapital (scopeOf receiver) := by
  have hword : Text.HasNoCapital
      (((wordBefore? "->".toList receiver).or (wordBefore? "::".toList receiver)).getD []) := by
    cases harrow : wordBefore? "->".toList receiver with
    | some word => exact hasNoCapital_wordBefore? hr harrow
    | none =>
      cases hcolon : wordBefore? "::".toList receiver with
      | some word => exact hasNoCapital_wordBefore? hr hcolon
      | none => decide
  unfold scopeOf
  dsimp only
  split
  · rename_i before rest hcut
    exact (hword.of_cut? hcut).2
  · exact hword

end ScriptName

namespace Title

/-- The title of a scope that has no capital of ASCII. -/
def IsTitle (scope : Text) : Prop := ∃ s : Text, Text.HasNoCapital s ∧ scope = ofScope s

theorem IsTitle.ofText {scope : Text} (h : IsTitle scope) : Title.ofText scope = scope := by
  obtain ⟨s, -, rfl⟩ := h
  exact ofText_ofScope s

/-- After a capital E the title goes on with the word as it is. -/
theorem IsTitle.not_isPrefix {scope : Text} (h : IsTitle scope) : ¬ "EV".toList <+: scope := by
  obtain ⟨s, hs, rfl⟩ := h
  rcases ofScope_cases s with hown | htitle
  · have hfixed : ∀ title ∈ ["EntityList".toList, "HateEntry".toList, "NPC".toList], ¬ "EV".toList <+: title := by
      decide
    exact hfixed _ hown
  · rw [htitle]
    rintro ⟨rest, hrest⟩
    change 'E' :: 'V' :: rest = Title.ofText s at hrest
    cases s with
    | nil => cases hrest
    | cons c s =>
      obtain ⟨hc, htail⟩ := List.forall_mem_cons.1 hs
      obtain ⟨u, us, hupper⟩ := List.exists_cons_of_ne_nil (Text.upper_ne_nil c)
      have hsplit : Title.ofText (c :: s) = u :: (us ++ ofTextAfter (isSeparator c) s) := by
        show Text.upper c ++ _ = _
        rw [hupper]
        rfl
      rw [hsplit] at hrest
      obtain ⟨hE, hrest⟩ := List.cons.inj hrest
      have hmem : 'E' ∈ Text.upper c := by
        rw [hupper, hE]
        exact List.mem_cons_self
      -- only the letter itself has an E in its upper case, so the V would have to be in the text
      rcases Text.mem_upper_E hmem with rfl | rfl
      · obtain ⟨-, rfl⟩ : _ ∧ us = [] := List.cons.inj (hupper.symm.trans (by decide : Text.upper 'e' = ['E']))
        cases s with
        | nil => cases hrest
        | cons d s =>
          obtain ⟨rfl, -⟩ := List.cons.inj hrest
          exact absurd (htail 'V' List.mem_cons_self) (by decide)
      · exact absurd hc (by decide)

end Title

namespace Scan

variable {v : Vocabulary} {events : Bool} {source : Source} {text : Text}

theorem isTitle_scope_of_mem_functions {f : BoundFunction} (hf : f ∈ (ofText v events source text).functions) :
    Title.IsTitle f.scope := by
  obtain ⟨d, hd, -, hrenamed⟩ := mem_functions.1 hf
  obtain ⟨-, rfl⟩ := ScriptName.ofFunction?_eq_some_iff.1 hrenamed
  have hreceiver := ScriptName.hasNoCapital_receiverIn source (receiver_of_mem_declarations hd)
    (Text.trim d.function.name)
  exact ⟨_, ScriptName.hasNoCapital_scopeOf hreceiver, rfl⟩

end Scan

/-! ### Events -/

namespace EventLine

theorem isPrefix_of_ofLine? {line name : Text} (h : ofLine? line = some (.label name)) :
    "EVENT".toList <+: name := by
  unfold ofLine? at h
  split at h
  · rename_i before rest hcut
    obtain rfl : Text.before ":".toList ("EVENT".toList ++ rest) = name := by simpa using h
    have hkeep : Text.before ":".toList ("EVENT".toList ++ rest) =
        "EVENT".toList ++ Text.before ":".toList rest :=
      Text.before_append_of_notMem (by decide) rest
    exact ⟨_, hkeep.symm⟩
  · obtain ⟨cut, -, hcut⟩ := Option.map_eq_some_iff.1 h
    cases hcut

/-- The name in a label. -/
def labelName? : EventLine → Option Text
  | .label name => some name
  | .exported _ => none

end EventLine

namespace EventScan

theorem map_name_events_step (v : Vocabulary) (s : EventScan) (line : EventLine) :
    (step v s line).events.map Event.name = s.events.map Event.name ++ line.labelName?.toList := by
  cases line with
  | label name =>
    unfold step
    dsimp only
    split <;> simp [events, EventLine.labelName?]
  | exported name => simp [step, events, Event.addExport, EventLine.labelName?, Function.comp_def]

/-- Each label gives an event its name. -/
theorem map_name_events (v : Vocabulary) (lines : List EventLine) :
    (ofLines v lines).events.map Event.name = lines.filterMap EventLine.labelName? := by
  induction lines using List.reverseRecOn with
  | nil => rfl
  | append_singleton lines line ih =>
    rw [ofLines, List.foldl_append, ← ofLines, List.foldl_cons, List.foldl_nil, map_name_events_step, ih,
      List.filterMap_append]
    cases line <;> rfl

end EventScan

namespace Scan

variable {v : Vocabulary} {events : Bool} {source : Source} {text : Text}

theorem isPrefix_name_of_mem_events {e : Event} (he : e ∈ (ofText v events source text).events) :
    "EVENT".toList <+: e.name := by
  have hname : e.name ∈ (ofText v events source text).events.map Event.name := List.mem_map_of_mem he
  rw [events_ofText, EventScan.map_name_events] at hname
  obtain ⟨said, hsaid, hlabel⟩ := List.mem_filterMap.1 hname
  obtain ⟨line, -, hline⟩ := List.mem_filterMap.1 hsaid
  cases said with
  | label name =>
    obtain rfl := Option.some.inj hlabel
    exact EventLine.isPrefix_of_ofLine? (Option.ite_none_right_eq_some.1 hline).2
  | exported name => cases hlabel

end Scan

/-! ### Stems -/

namespace PageName

/-- The name of the file of a page with this stem. -/
def ofStem (stem : Text) : Text := start ++ stem ++ extension

theorem ofStem_inj {s t : Text} : ofStem s = ofStem t ↔ s = t := by
  rw [ofStem, ofStem, List.append_cancel_right_eq, List.append_cancel_left_eq]

theorem scopePage_eq {scope : Text} (h : Title.IsTitle scope) : scopePage scope = ofStem scope := by
  rw [scopePage, h.ofText, ofStem]

theorem functionPage_eq {scope : Text} (h : Title.IsTitle scope) (name : Text) :
    functionPage scope name = ofStem (scope ++ '-' :: name) := by
  rw [functionPage, h.ofText, ofStem]
  simp only [List.append_assoc, List.cons_append]

end PageName

theorem Title.IsTitle.not_isPrefix_append {scope : Text} (h : IsTitle scope) (name : Text) :
    ¬ "EV".toList <+: scope ++ '-' :: name := by
  intro hEV
  cases scope with
  | nil => simp at hEV
  | cons c s =>
    cases s with
    | nil => simp at hEV
    | cons d s => exact h.not_isPrefix (by simpa using hEV)

/-- The title of an event begins as its name does. -/
theorem Title.isPrefix_ofText {name : Text} (h : "EVENT".toList <+: name) : "EV".toList <+: ofText name := by
  obtain ⟨rest, rfl⟩ := h
  exact ⟨"ENT".toList ++ ofTextAfter false rest, rfl⟩

namespace Outline

/-- The stem of the list of events, those of the scopes, and those of the functions. -/
def stems (catalog : Catalog) : List Text :=
  "Events".toList :: (catalog.map ScopeEntries.name ++
    catalog.flatMap fun s => s.entries.map fun e => s.name ++ '-' :: e.name)

theorem nodup_stems {catalog : Catalog} (hnames : (catalog.map ScopeEntries.name).Nodup)
    (hentries : ∀ s ∈ catalog, (s.entries.map Entry.name).Nodup)
    (hscopes : ∀ s ∈ catalog, '-' ∉ s.name ∧ s.name ≠ "Events".toList) : (stems catalog).Nodup := by
  have hfunction : ∀ stem ∈ catalog.flatMap (fun s => s.entries.map fun e => s.name ++ '-' :: e.name),
      '-' ∈ stem := by
    intro stem hstem
    obtain ⟨s, -, hstem⟩ := List.mem_flatMap.1 hstem
    obtain ⟨e, -, rfl⟩ := List.mem_map.1 hstem
    exact List.mem_append_right _ List.mem_cons_self
  have hscope : ∀ stem ∈ catalog.map ScopeEntries.name, '-' ∉ stem ∧ stem ≠ "Events".toList :=
    List.forall_mem_map.2 hscopes
  refine List.nodup_cons.2 ⟨?_, List.nodup_append'.2 ⟨hnames, ?_, ?_⟩⟩
  · intro hindex
    rcases List.mem_append.1 hindex with hin | hin
    · exact (hscope _ hin).2 rfl
    · exact absurd (hfunction _ hin) (by decide)
  · rw [List.nodup_flatMap]
    constructor
    · intro s hs
      have hinj : Function.Injective fun name : Text => s.name ++ '-' :: name :=
        fun m n hmn => (Text.append_cons_inj (hscopes s hs).1 (hscopes s hs).1 hmn).2
      have hnodup := (hentries s hs).map hinj
      rwa [List.map_map] at hnodup
    · refine (List.pairwise_map.1 hnames).imp_of_mem ?_
      intro s t hs ht hne stem hin hin'
      obtain ⟨e, -, rfl⟩ := List.mem_map.1 hin
      obtain ⟨d, -, hd⟩ := List.mem_map.1 hin'
      exact hne (Text.append_cons_inj (hscopes t ht).1 (hscopes s hs).1 hd).1.symm
  · exact List.disjoint_left.2 fun stem hin hin' => (hscope _ hin).1 (hfunction _ hin')

theorem not_isPrefix_of_mem_stems {catalog : Catalog} (htitles : ∀ s ∈ catalog, Title.IsTitle s.name) {stem : Text}
    (h : stem ∈ stems catalog) : ¬ "EV".toList <+: stem := by
  rcases List.mem_cons.1 h with rfl | h
  · decide
  · rcases List.mem_append.1 h with h | h
    · obtain ⟨s, hs, rfl⟩ := List.mem_map.1 h
      exact (htitles s hs).not_isPrefix
    · obtain ⟨s, hs, h⟩ := List.mem_flatMap.1 h
      obtain ⟨e, -, rfl⟩ := List.mem_map.1 h
      exact (htitles s hs).not_isPrefix_append e.name

variable {v : Vocabulary} {fs : List BoundFunction} {es : List Event}

/-- What holds of the scope of every function holds of every scope of the catalog. -/
theorem forall_mem_catalog {P : Text → Prop} (h : ∀ f ∈ fs, P f.scope) :
    ∀ s ∈ (ofRecords v fs es).catalog, P s.name := by
  intro s hs
  have hname : s.name ∈ (ofRecords v fs es).catalog.map ScopeEntries.name := List.mem_map_of_mem hs
  rw [map_name_catalog_ofRecords, mem_scopes_withScope] at hname
  obtain ⟨f, hf, hscope⟩ := mem_scopes.1 hname.2
  exact hscope ▸ h f hf

/-- Each list of the outline belongs to a scope, so it has a page. -/
theorem scopePages_ofRecords (time : Text) :
    (ofRecords v fs es).scopePages time =
      (ofRecords v fs es).scopeLists.map fun p => ⟨PageName.scopePage p.1, Page.ofList p.2 time⟩ := by
  have hscoped : ∀ p ∈ (ofRecords v fs es).scopeLists, !p.1.isEmpty := by
    intro p hp
    have hname : p.1 ∈ (ofRecords v fs es).scopeLists.map Prod.fst := List.mem_map_of_mem hp
    rw [map_fst_scopeLists_ofRecords, mem_scopes_withScope] at hname
    simpa using hname.1
  rw [scopePages, List.filter_eq_self.2 hscoped]

/-- The names of the list of events, of the lists of the scopes and of the functions' pages come from their stems. -/
theorem page_names_eq (time : Text) (htitles : ∀ f ∈ fs, Title.IsTitle f.scope) :
    PageName.eventIndex ::
        ((ofRecords v fs es).scopePages time ++ (ofRecords v fs es).functionPages time).map Page.name =
      (stems (ofRecords v fs es).catalog).map PageName.ofStem := by
  have htitle : ∀ s ∈ (ofRecords v fs es).catalog, Title.IsTitle s.name := forall_mem_catalog htitles
  have hscopes : ((ofRecords v fs es).scopePages time).map Page.name =
      ((ofRecords v fs es).catalog.map ScopeEntries.name).map PageName.ofStem := by
    have hnames : (ofRecords v fs es).scopeLists.map Prod.fst =
        (ofRecords v fs es).catalog.map ScopeEntries.name := by
      rw [map_fst_scopeLists_ofRecords, map_name_catalog_ofRecords]
    calc ((ofRecords v fs es).scopePages time).map Page.name
        = ((ofRecords v fs es).scopeLists.map Prod.fst).map PageName.scopePage := by
          rw [scopePages_ofRecords, List.map_map, List.map_map]
          rfl
      _ = ((ofRecords v fs es).catalog.map ScopeEntries.name).map PageName.ofStem := by
          rw [hnames]
          exact List.map_congr_left fun _ hname => PageName.scopePage_eq (List.forall_mem_map.2 htitle _ hname)
  have hfunctions : ((ofRecords v fs es).functionPages time).map Page.name =
      ((ofRecords v fs es).catalog.flatMap fun s => s.entries.map fun e => s.name ++ '-' :: e.name).map
        PageName.ofStem := by
    rw [functionPages, List.map_flatMap, List.map_flatMap]
    refine List.flatMap_congr fun s hs => ?_
    rw [entryPages, List.map_map, List.map_map]
    exact List.map_congr_left fun e _ => PageName.functionPage_eq (htitle s hs) e.name
  rw [List.map_append, hscopes, hfunctions, stems, List.map_cons, List.map_append]
  rfl

end Outline

namespace Findings

theorem mem_functions_sorted {found : Findings} {f : BoundFunction} :
    f ∈ found.sorted.functions ↔ f ∈ found.functions := (List.mergeSort_perm _ _).mem_iff

theorem mem_events_sorted {found : Findings} {e : Event} : e ∈ found.sorted.events ↔ e ∈ found.events :=
  (List.mergeSort_perm _ _).mem_iff

variable {v : Vocabulary} {events : Bool} {sources : List (Source × Text)}

theorem isTitle_scope_of_mem_functions_sorted {f : BoundFunction}
    (hf : f ∈ (ofTexts v events sources).sorted.functions) : Title.IsTitle f.scope := by
  rw [mem_functions_sorted, functions_ofTexts] at hf
  obtain ⟨p, -, hscan⟩ := List.mem_flatMap.1 hf
  exact Scan.isTitle_scope_of_mem_functions hscan

/-- No page of an event is called like another page. -/
theorem eventPage_notMem (time : Text) {e : Event} (he : e ∈ (ofTexts v events sources).sorted.events) :
    let o := (ofTexts v events sources).sorted.outline v
    PageName.eventPage e.name ∉ PageName.eventIndex :: (o.scopePages time ++ o.functionPages time).map Page.name := by
  intro o
  have htitles : ∀ f ∈ (ofTexts v events sources).sorted.functions, Title.IsTitle f.scope := fun f =>
    isTitle_scope_of_mem_functions_sorted
  have hnames : PageName.eventIndex :: (o.scopePages time ++ o.functionPages time).map Page.name =
      (Outline.stems o.catalog).map PageName.ofStem := Outline.page_names_eq time htitles
  rw [mem_events_sorted, events_ofTexts] at he
  obtain ⟨p, -, hscan⟩ := List.mem_flatMap.1 he
  intro hname
  rw [hnames] at hname
  obtain ⟨stem, hstem, hsame⟩ := List.mem_map.1 hname
  obtain rfl : stem = Title.ofText e.name := PageName.ofStem_inj.1 hsame
  exact Outline.not_isPrefix_of_mem_stems (Outline.forall_mem_catalog htitles) hstem
    (Title.isPrefix_ofText (Scan.isPrefix_name_of_mem_events hscan))

/-- If no scope has a hyphen or is called like the list of events, then the list of events, the lists of the scopes and
the pages of the functions are all in different files, and no page of an event is in one of these.  Two events share a
page exactly if their names have the same title. -/
theorem page_names_apart (v : Vocabulary) (events : Bool) (sources : List (Source × Text)) (time : Text)
    (hscopes : ∀ s ∈ ((ofTexts v events sources).sorted.outline v).catalog,
      '-' ∉ s.name ∧ s.name ≠ "Events".toList) :
    let found := (ofTexts v events sources).sorted
    let names := PageName.eventIndex ::
      ((found.outline v).scopePages time ++ (found.outline v).functionPages time).map Page.name
    names.Nodup ∧ (∀ page ∈ Outline.eventPages found.events time, page.name ∉ names) ∧
      ∀ e ∈ found.events, ∀ d ∈ found.events,
        PageName.eventPage e.name = PageName.eventPage d.name ↔ Title.ofText e.name = Title.ofText d.name := by
  intro found names
  refine ⟨?_, ?_, fun e _ d _ => PageName.ofStem_inj⟩
  · have hnames : names = (Outline.stems (found.outline v).catalog).map PageName.ofStem :=
      Outline.page_names_eq time fun f => isTitle_scope_of_mem_functions_sorted
    have hby := Outline.byScope_ofRecords v found.functions found.events
    rw [hnames]
    refine (Outline.nodup_stems ?_ hby.nodup_entry_names hscopes).map fun _ _ => PageName.ofStem_inj.1
    exact Outline.map_name_catalog_ofRecords v found.functions found.events ▸ Outline.nodup_scopes _
  · intro page hpage
    obtain ⟨e, he, rfl⟩ := List.mem_map.1 hpage
    exact eventPage_notMem time he

/-- A scope with a function whose name has a hyphen, and two events of which the pages differ. -/
theorem page_names_apart_of_npc :
    let source : Source × Text := (⟨[], "NPC".toList, none⟩,
      "Perl_croak(aTHX_ \"Usage: NPC::Aim-At(x)\");\ncase EVENT_SAY:\ncase EVENT_SPAWN:".toList)
    let found := (ofTexts ⟨[], [], [], [], []⟩ true [source]).sorted
    let o := found.outline ⟨[], [], [], [], []⟩
    (∀ s ∈ o.catalog, '-' ∉ s.name ∧ s.name ≠ "Events".toList) ∧
      ((PageName.eventIndex :: (o.scopePages [] ++ o.functionPages []).map Page.name).Nodup ∧
        ∀ page ∈ Outline.eventPages found.events [],
          page.name ∉ PageName.eventIndex :: (o.scopePages [] ++ o.functionPages []).map Page.name) := by
  intro source found o
  have hfunctions : ∀ f ∈ (ofTexts ⟨[], [], [], [], []⟩ true [source]).functions,
      '-' ∉ f.scope ∧ f.scope ≠ "Events".toList := by
    decide +kernel
  have hscopes : ∀ s ∈ o.catalog, '-' ∉ s.name ∧ s.name ≠ "Events".toList :=
    Outline.forall_mem_catalog (P := fun scope => '-' ∉ scope ∧ scope ≠ "Events".toList) fun f hf =>
      hfunctions f (mem_functions_sorted.1 hf)
  have hapart := page_names_apart ⟨[], [], [], [], []⟩ true [source] [] hscopes
  exact ⟨hscopes, hapart.1, hapart.2.1⟩

end Findings

end BindingDocs
