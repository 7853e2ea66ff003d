import BindingDocs.Proofs.PageNames
import BindingDocs.Proofs.Pathnames
import BindingDocs.Proofs.Publishing

/-!
# What the page of an event says

The dispatcher may have several groups for one event, and each of them has a page of its own in the same file.  So of
the events that share a file the last one, in the order of their names and then of the sources, is the one whose exports
are documented (`event_page_of_last`); what another one exports may be lost (`exists_export_without_row`).  Pages of
different names are in different files as far as their names have no slash (`PageName.locate_ne`).
-/

namespace BindingDocs

/-- The last element with a property, between what comes before and after it. -/
private theorem exists_last {α : Type} {P : α → Prop} {x : α} {xs : List α} (hx : x ∈ xs) (hP : P x) :
    ∃ before last after, xs = before ++ last :: after ∧ P last ∧ ∀ y ∈ after, ¬ P y := by
  induction xs using List.reverseRecOn with
  | nil => cases hx
  | append_singleton xs y ih =>
    by_cases hy : P y
    · exact ⟨xs, y, [], rfl, hy, by simp⟩
    · have hold : x ∈ xs := by
        rcases List.mem_append.1 hx with hold | hnew
        · exact hold
        · exact absurd (List.mem_singleton.1 hnew ▸ hP) hy
      obtain ⟨before, last, after, rfl, hlast, hafter⟩ := ih hold
      refine ⟨before, last, after ++ [y], by simp, hlast, ?_⟩
      intro z hz
      rcases List.mem_append.1 hz with hz | hz
      · exact hafter z hz
      · exact List.mem_singleton.1 hz ▸ hy

namespace Page

/-- Each exported variable with a name has its row on the page of the event. -/
theorem exportRow_infix_ofEvent {e : Event} {x : Export} (hx : x ∈ e.exports) (hname : x.name ≠ []) (time : Text) :
    exportRow x <:+: ofEvent e time := by
  have hnamed : x ∈ namedExports e := List.mem_filter.2 ⟨hx, by simpa using hname⟩
  obtain ⟨before, after, hsplit⟩ := List.append_of_mem hnamed
  have hrow : exportRow x <:+: (namedExports e).flatMap exportRow := by
    rw [hsplit, List.flatMap_append, List.flatMap_cons]
    exact ⟨before.flatMap exportRow, after.flatMap exportRow, by rw [List.append_assoc]⟩
  have htable : exportRow x <:+: exportTable e := by
    unfold exportTable
    rw [if_neg (List.ne_nil_of_mem hx)]
    exact hrow.trans (List.suffix_append _ _).isInfix
  have hbody : exportTable e <:+: ofEvent e time := by
    unfold ofEvent eventText
    simp only [List.append_assoc, List.cons_append]
    refine List.IsInfix.trans ?_ (List.suffix_append _ _).isInfix
    exact (List.prefix_append _ _).isInfix.trans (List.suffix_cons _ _).isInfix
  exact htable.trans hbody

end Page

namespace PageName

/-- The name of a page can only lead out of the directory if it has a slash. -/
theorem start_isPrefix_eventPage {name : Text} : start <+: eventPage name := by simp [eventPage]

/-- Pages of different names lead to different places, unless one of the names has a slash. -/
theorem locate_ne {t : FileTree} {cwd q : Place} {directory name name' : Text} (hstart : start <+: name)
    (hstart' : start <+: name') (hne : name' ≠ name) (h : t.locate cwd (Pathname.join directory name) = .ok q)
    (hslash : '/' ∈ name' ∨ '/' ∈ name →
      t.locate cwd (Pathname.join directory name') ≠ t.locate cwd (Pathname.join directory name)) :
    t.locate cwd (Pathname.join directory name') ≠ t.locate cwd (Pathname.join directory name) := by
  by_cases hslashes : '/' ∈ name' ∨ '/' ∈ name
  · exact hslash hslashes
  · rw [not_or] at hslashes
    rw [h]
    exact FileTree.locate_join_ne (isPlain_of_notMem hstart hslashes.2) (isPlain_of_notMem hstart' hslashes.1)
      (Ne.symm hne) h

end PageName

namespace Publish

/-- The pages of events, of scopes and of functions. -/
def bodyPages (time : Text) (o : Outline) (es : List Event) : List Page :=
  Outline.eventPages es time ++ (o.scopePages time ++ o.functionPages time)

theorem start_isPrefix_of_mem_bodyPages {time : Text} {o : Outline} {es : List Event} {page : Page}
    (h : page ∈ bodyPages time o es) : PageName.start <+: page.name := by
  rcases List.mem_append.1 h with h | h
  · obtain ⟨e, -, rfl⟩ := List.mem_map.1 h
    exact PageName.start_isPrefix_eventPage
  · rcases List.mem_append.1 h with h | h
    · obtain ⟨s, -, rfl⟩ := List.mem_map.1 h
      simp [PageName.scopePage]
    · obtain ⟨s, -, h⟩ := List.mem_flatMap.1 h
      obtain ⟨entry, -, rfl⟩ := List.mem_map.1 h
      simp [PageName.functionPage]

private theorem files_eq (directory time manifestPath : Text) (o : Outline) (before after : List Event) (e : Event) :
    files directory time manifestPath o (before ++ e :: after) =
      (o.indexPages time ++ Outline.eventPages before time).map (fileOf directory) ++
        fileOf directory ⟨PageName.eventPage e.name, Page.ofEvent e time⟩ ::
          ((Outline.eventPages after time ++ o.scopePages time).map (fileOf directory) ++
            (manifestPath, (Manifest.ofCatalog o.catalog).toBytes) ::
              (o.functionPages time).map (fileOf directory)) := by
  simp [files, Outline.eventPages]

variable {cwd : Place} {directory time manifestPath : Text} {o : Outline} {before after : List Event} {e : Event}
  {t t' : FileTree}

theorem exists_locate_eventPage
    (h : t.writeFiles cwd (files directory time manifestPath o (before ++ e :: after)) = .ok t') :
    ∃ p, t.locate cwd (Pathname.join directory (PageName.eventPage e.name)) = .ok p := by
  rw [files_eq] at h
  exact FileTree.exists_locate_of_writeFiles h (List.mem_append_right _ List.mem_cons_self)

/-- If neither the manifest nor a page that is written later leads to the place of the page of an event, then that page
is there in the end. -/
theorem read_eventPage (h : t.writeFiles cwd (files directory time manifestPath o (before ++ e :: after)) = .ok t')
    (hpages : ∀ page ∈ bodyPages time o after,
      t.locate cwd (Pathname.join directory page.name) ≠
        t.locate cwd (Pathname.join directory (PageName.eventPage e.name)))
    (hmanifest : t.locate cwd manifestPath ≠ t.locate cwd (Pathname.join directory (PageName.eventPage e.name))) :
    t'.read cwd (Pathname.join directory (PageName.eventPage e.name)) = .ok (Page.ofEvent e time).toBytes := by
  rw [files_eq] at h
  refine FileTree.read_of_writeFiles h ?_
  rw [bodyPages, ← List.append_assoc] at hpages
  intro file hfile
  rcases List.mem_append.1 hfile with hfile | hfile
  · obtain ⟨page, hpage, rfl⟩ := List.mem_map.1 hfile
    exact hpages page (List.mem_append_left _ hpage)
  · rcases List.mem_cons.1 hfile with rfl | hfile
    · exact hmanifest
    · obtain ⟨page, hpage, rfl⟩ := List.mem_map.1 hfile
      exact hpages page (List.mem_append_right _ hpage)

end Publish

namespace Findings

/-- If every file can be written, then in the end the page of an event says what the last event of its file exports.
The manifest must not lead to its place, nor a page with a slash in its name. -/
theorem event_page_of_last (v : Vocabulary) (sources : List (Source × Text)) {found : Findings}
    (hsorted : (ofTexts v true sources).sorted = found) (cwd : Place) (directory manifestPath time : Text)
    {d d' : Desk} {tally : Tally}
    (hrun : Publish.writeAll (Desk.world cwd) directory manifestPath time (found.outline v) found.events d =
      (.ok tally, d'))
    (hfailed : tally.failed = 0) {p : Source × Text} (hp : p ∈ sources) {e : Event}
    (he : e ∈ (Scan.ofText v true p.1 p.2).events)
    (hmanifest : d.tree.locate cwd manifestPath ≠
      d.tree.locate cwd (Pathname.join directory (PageName.eventPage e.name)))
    (hslash : ∀ page ∈ Publish.bodyPages time (found.outline v) found.events,
      page.name ≠ PageName.eventPage e.name → '/' ∈ page.name ∨ '/' ∈ PageName.eventPage e.name →
        d.tree.locate cwd (Pathname.join directory page.name) ≠
          d.tree.locate cwd (Pathname.join directory (PageName.eventPage e.name))) :
    ∃ before last after, found.events = before ++ last :: after ∧
      PageName.eventPage last.name = PageName.eventPage e.name ∧
      (∀ other ∈ after, PageName.eventPage other.name ≠ PageName.eventPage e.name) ∧
      d'.tree.read cwd (Pathname.join directory (PageName.eventPage e.name)) = .ok (Page.ofEvent last time).toBytes ∧
      ∀ x ∈ last.exports, x.name ≠ [] → Page.exportRow x <:+: Page.ofEvent last time := by
  have hwritten := Publish.writeFiles_of_writeAll cwd directory time hrun hfailed
  subst hsorted
  have hfound : e ∈ (ofTexts v true sources).sorted.events := by
    rw [mem_events_sorted, events_ofTexts]
    exact List.mem_flatMap.2 ⟨p, hp, he⟩
  have hothers := eventPage_notMem time hfound
  generalize (ofTexts v true sources).sorted = found at *
  obtain ⟨before, last, after, hsplit, hname, hafter⟩ := exists_last
    (P := fun other : Event => PageName.eventPage other.name = PageName.eventPage e.name) hfound rfl
  refine ⟨before, last, after, hsplit, hname, hafter, ?_, fun x hx hx' => Page.exportRow_infix_ofEvent hx hx' time⟩
  -- what is written after the page of the last event has another name, be it an event's page or not
  have hlater : ∀ page ∈ Publish.bodyPages time (found.outline v) after,
      page ∈ Publish.bodyPages time (found.outline v) found.events ∧ page.name ≠ PageName.eventPage e.name := by
    intro page hpage
    rcases List.mem_append.1 hpage with hpage | hpage
    · obtain ⟨other, hother, rfl⟩ := List.mem_map.1 hpage
      have hmem : other ∈ found.events := hsplit ▸ List.mem_append_right _ (List.mem_cons_of_mem _ hother)
      exact ⟨List.mem_append_left _ (List.mem_map.2 ⟨other, hmem, rfl⟩), hafter other hother⟩
    · refine ⟨List.mem_append_right _ hpage, fun hsame => hothers ?_⟩
      exact hsame ▸ List.mem_cons_of_mem _ (List.mem_map_of_mem hpage)
  rw [hsplit] at hwritten
  obtain ⟨q, hq⟩ := Publish.exists_locate_eventPage hwritten
  rw [← hname] at hmanifest ⊢
  refine Publish.read_eventPage hwritten ?_ hmanifest
  intro page hpage
  obtain ⟨hbody, hne⟩ := hlater page hpage
  rw [hname] at hq ⊢
  exact PageName.locate_ne PageName.start_isPrefix_eventPage (Publish.start_isPrefix_of_mem_bodyPages hbody) hne hq
    (hslash page hbody hne)

/-! ### Two groups for one event -/

/-- A dispatcher with two groups for one event. -/
def twoGroups : Source × Text := (⟨"zone/embparser.cpp".toList, "Event".toList, none⟩,
  ("case EVENT_SAY:\nExportVar(package_name.c_str(), \"a\", x);\n" ++
    "case EVENT_SAY:\nExportVar(package_name.c_str(), \"b\", x);\n").toList)

/-- What comes of publishing it in an empty directory. -/
def twoGroupsRun : Except RunError Tally × Desk :=
  let found := (ofTexts ⟨[], [], [], [], []⟩ true [twoGroups]).sorted
  Publish.writeAll (Desk.world []) "out".toList "perlsample.yml".toList "T".toList
    (found.outline ⟨[], [], [], [], []⟩) found.events ⟨[(["out".toList], .directory)], []⟩

/-- The event as the first group has it, and as the second has it. -/
def twoGroupsEvents : List Event :=
  [⟨"EVENT_SAY".toList, [⟨"a".toList, none⟩]⟩, ⟨"EVENT_SAY".toList, [⟨"b".toList, none⟩]⟩]

private theorem mem_events_twoGroups : ⟨"EVENT_SAY".toList, [⟨"a".toList, none⟩]⟩ ∈
    (Scan.ofText ⟨[], [], [], [], []⟩ true twoGroups.1 twoGroups.2).events := by decide +kernel

private theorem sorted_twoGroups :
    (ofTexts ⟨[], [], [], [], []⟩ true [twoGroups]).sorted = ⟨[], twoGroupsEvents⟩ := by
  have hfunctions : (ofTexts ⟨[], [], [], [], []⟩ true [twoGroups]).functions = [] := by decide +kernel
  have hevents : (ofTexts ⟨[], [], [], [], []⟩ true [twoGroups]).events = twoGroupsEvents := by decide +kernel
  have hsorted : twoGroupsEvents.Pairwise fun e d => Text.le e.name d.name = true := by decide
  rw [sorted, hfunctions, hevents, sortFunctions, List.mergeSort_nil, sortEvents, List.mergeSort_of_pairwise hsorted]

private theorem twoGroupsRun_eq : twoGroupsRun =
    Publish.writeAll (Desk.world []) "out".toList "perlsample.yml".toList "T".toList
      (outline ⟨[], twoGroupsEvents⟩ ⟨[], [], [], [], []⟩) twoGroupsEvents ⟨[(["out".toList], .directory)], []⟩ := by
  rw [twoGroupsRun, sorted_twoGroups]

private theorem fst_twoGroupsRun : twoGroupsRun.1 = .ok ⟨3, 0⟩ := by
  rw [twoGroupsRun_eq]
  decide +kernel

/-- Every file is written, and in the end the page has what the second group exports. -/
theorem event_page_of_last_of_two :
    twoGroupsRun.1 = .ok ⟨3, 0⟩ ∧
      twoGroupsRun.2.tree.read [] "out/Perl-EVENT_SAY.md".toList =
        .ok (Page.ofEvent ⟨"EVENT_SAY".toList, [⟨"b".toList, none⟩]⟩ "T".toList).toBytes := by
  have hanswer : twoGroupsRun = (.ok ⟨3, 0⟩, twoGroupsRun.2) := Prod.ext fst_twoGroupsRun rfl
  have hrun := twoGroupsRun_eq.symm.trans hanswer
  obtain ⟨before, last, after, hsplit, -, hafter, hread, -⟩ :=
    event_page_of_last ⟨[], [], [], [], []⟩ [twoGroups] sorted_twoGroups [] "out".toList "perlsample.yml".toList
      "T".toList hrun rfl List.mem_cons_self mem_events_twoGroups (by decide +kernel) (by decide +kernel)
  have hevents : twoGroupsEvents = before ++ last :: after := hsplit
  have hname : ∀ other ∈ twoGroupsEvents, other.name = "EVENT_SAY".toList := by decide
  obtain rfl : after = [] := by
    refine List.eq_nil_iff_forall_not_mem.2 fun other hother => hafter other hother ?_
    have hin : other ∈ twoGroupsEvents := hevents ▸ List.mem_append_right _ (List.mem_cons_of_mem _ hother)
    exact congrArg PageName.eventPage (hname other hin)
  obtain rfl : ⟨"EVENT_SAY".toList, [⟨"b".toList, none⟩]⟩ = last := by
    have hlast := congrArg List.getLast? hevents
    rw [List.getLast?_concat] at hlast
    exact Option.some.inj hlast
  exact ⟨fst_twoGroupsRun, hread⟩

/-- Every file is written, and yet the page has no row for what the first group exports. -/
theorem exists_export_without_row :
    ∃ tally content, twoGroupsRun.1 = .ok tally ∧ tally.failed = 0 ∧
      ∃ e ∈ (Scan.ofText ⟨[], [], [], [], []⟩ true twoGroups.1 twoGroups.2).events,
        twoGroupsRun.2.tree.read [] (Pathname.join "out".toList (PageName.eventPage e.name)) = .ok content ∧
          ∃ x ∈ e.exports, x.name ≠ [] ∧ ¬ (Page.exportRow x).toBytes <:+: content := by
  have hread : twoGroupsRun.2.tree.read [] (Pathname.join "out".toList (PageName.eventPage "EVENT_SAY".toList)) =
      .ok (Page.ofEvent ⟨"EVENT_SAY".toList, [⟨"b".toList, none⟩]⟩ "T".toList).toBytes := by
    rw [twoGroupsRun_eq]
    decide +kernel
  have hrow : ¬ (Page.exportRow ⟨"a".toList, none⟩).toBytes <:+:
      (Page.ofEvent ⟨"EVENT_SAY".toList, [⟨"b".toList, none⟩]⟩ "T".toList).toBytes := by decide +kernel
  refine ⟨⟨3, 0⟩, _, fst_twoGroupsRun, rfl, _, mem_events_twoGroups, hread, ?_⟩
  exact ⟨⟨"a".toList, none⟩, List.mem_cons_self, by decide, hrow⟩

end Findings

end BindingDocs
