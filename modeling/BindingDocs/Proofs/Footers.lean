import BindingDocs.Proofs.Outcome

/-!
# Only footers tell the time

Two runs that are told different times go on in step: they answer alike, log the same, and write the same files in the
same order, of which the pages end with the footer of the time and have the same text before it (`run_at_two_times`).
The trees of the two runs differ in the contents of files only, and what can be written does not depend on these
(`SameKinds.write_eq_error`), nor is anything read that has been written.
-/

namespace BindingDocs

/-! ### Computations in step -/

section

variable {σ α β : Type} {r : σ → σ → Prop}

/-- From related states the two computations answer alike and come to related states. -/
def InStep (r : σ → σ → Prop) (x y : StateM σ α) : Prop :=
  ∀ s s', r s s' → (x s).1 = (y s').1 ∧ r (x s).2 (y s').2

theorem InStep.pure (a : α) : InStep r (pure a) (pure a) := fun _ _ h => ⟨rfl, h⟩

theorem InStep.bind {x y : StateM σ α} {f g : α → StateM σ β} (h : InStep r x y)
    (hrest : ∀ a, InStep r (f a) (g a)) : InStep r (x >>= f) (y >>= g) := by
  intro s s' hs
  obtain ⟨hanswer, hr⟩ := h s s' hs
  have hnext := hrest (x s).1 (x s).2 (y s').2 hr
  rw [hanswer] at hnext
  have hstep : ((x >>= f) s).1 = (f (y s').1 (x s).2).1 ∧ ((x >>= f) s).2 = (f (y s').1 (x s).2).2 := by
    rw [← hanswer]
    exact ⟨rfl, rfl⟩
  rw [hstep.1, hstep.2]
  exact hnext

end

/-! ### Trees with other contents -/

namespace FileTree

variable {t t' : FileTree} {cwd : Place} {path : Text}

/-- At every place both trees have a file, or a directory, or nothing. -/
structure SameKinds (t t' : FileTree) : Prop where
  directories : SameDirectories t t'
  nothing : ∀ p, t.get? p = none ↔ t'.get? p = none

theorem SameKinds.enter_eq (h : SameKinds t t') (p : Place) (name : Text) : t'.enter p name = t.enter p name := by
  unfold enter
  cases hp : t.get? p with
  | none => rw [(h.nothing p).1 hp]
  | some node =>
    cases node with
    | directory => rw [(h.directories p).1 hp]
    | file content =>
      cases hp' : t'.get? p with
      | none => rw [(h.nothing p).2 hp'] at hp; cases hp
      | some node' =>
        cases node' with
        | file content' => rfl
        | directory => rw [(h.directories p).2 hp'] at hp; cases hp

theorem SameKinds.locateNames_eq (h : SameKinds t t') (cwd : Place) (path : Text) (names : List Text) :
    t'.locateNames cwd path names = t.locateNames cwd path names := by
  have henter : t'.enter = t.enter := funext fun p => funext fun name => h.enter_eq p name
  unfold locateNames walk
  rw [henter]

/-- Why a file cannot be written depends neither on its content nor on those of other files. -/
theorem SameKinds.write_eq_error (h : SameKinds t t') (htarget : t.target? cwd path = none) (content content' : Bytes) :
    ∃ e, t.write cwd path content = .error e ∧ t'.write cwd path content' = .error e := by
  unfold target? locate at htarget
  unfold FileTree.write locate locateParent
  rw [h.locateNames_eq, h.locateNames_eq]
  cases hmeans : meansDirectory path with
  | true =>
    cases t.locateNames cwd path ((Pathname.names path).dropLast ++ [Pathname.here]) with
    | error e => exact ⟨e, rfl, rfl⟩
    | ok p => exact ⟨.isDirectory, rfl, rfl⟩
  | false =>
    rw [hmeans] at htarget
    cases hlocate : t.locateNames cwd path (Pathname.names path) with
    | error e => exact ⟨e, rfl, rfl⟩
    | ok p =>
      rw [hlocate] at htarget
      by_cases hp : t.get? p = some .directory
      · refine ⟨.isDirectory, ?_, ?_⟩
        · simp [hp]
        · simp [(h.directories p).1 hp]
      · simp [hp] at htarget

end FileTree

/-! ### Drafts -/

/-- What is written, but for the time. -/
inductive Draft where
  | page (name text : Text)
  | manifest (catalog : Catalog)

namespace Draft

/-- The path name under which a draft is written. -/
def path (settings : Settings) : Draft → Text
  | page name _ => Pathname.join settings.output name
  | manifest _ => settings.manifest

/-- The file that a draft becomes at a time. -/
def bytes (time : Text) : Draft → Bytes
  | page _ text => text.toBytes ++ (Page.footer time).toBytes
  | manifest catalog => (Manifest.ofCatalog catalog).toBytes

end Draft

namespace Page

/-- The pages have the same names at all times, and the same texts, followed by the footer. -/
def Footed (pages : Text → List Page) : Prop :=
  ∃ drafts : List (Text × Text), ∀ time, pages time = drafts.map fun draft => ⟨draft.1, draft.2 ++ footer time⟩

theorem Footed.append {pages pages' : Text → List Page} (h : Footed pages) (h' : Footed pages') :
    Footed fun time => pages time ++ pages' time := by
  obtain ⟨drafts, hdrafts⟩ := h
  obtain ⟨drafts', hdrafts'⟩ := h'
  refine ⟨drafts ++ drafts', fun time => ?_⟩
  rw [List.map_append, ← hdrafts, ← hdrafts']

theorem footed_indexPages (o : Outline) : Footed o.indexPages := by
  by_cases h : o.eventList = []
  · exact ⟨[], fun time => if_pos h⟩
  · exact ⟨[(PageName.eventIndex, o.eventList)], fun time => if_neg h⟩

theorem footed_map {α : Type} (name text : α → Text) (as : List α) :
    Footed fun time => as.map fun a => ⟨name a, text a ++ footer time⟩ := by
  refine ⟨as.map fun a => (name a, text a), fun time => ?_⟩
  rw [List.map_map]
  rfl

theorem footed_eventPages (es : List Event) : Footed (Outline.eventPages es) :=
  footed_map (fun e : Event => PageName.eventPage e.name) eventText es

theorem footed_scopePages (o : Outline) : Footed o.scopePages :=
  footed_map (fun p : Text × Text => PageName.scopePage p.1) Prod.snd (o.scopeLists.filter fun p => !p.1.isEmpty)

theorem footed_entryPages (s : ScopeEntries) : Footed (Outline.entryPages s) :=
  footed_map (fun e : Entry => PageName.functionPage s.name e.name) functionText s.entries

end Page

/-! ### Two desks -/

/-- Drafts put at their places, as they are at a time. -/
def FileTree.putDrafts (t : FileTree) (time : Text) (written : List (Place × Draft)) : FileTree :=
  t.putFiles (written.map fun w => (w.1, w.2.bytes time))

namespace FileTree

theorem putDrafts_concat (t : FileTree) (time : Text) (written : List (Place × Draft)) (p : Place) (draft : Draft) :
    t.putDrafts time (written ++ [(p, draft)]) = (t.putDrafts time written).set p (.file (draft.bytes time)) := by
  unfold putDrafts
  rw [List.map_append, putFiles_append]
  rfl

variable {base : FileTree} {settings : Settings} {cwd : Place} {written : List (Place × Draft)}

/-- Each draft is at the place to which its path name leads, where no directory is. -/
def AtTargets (settings : Settings) (cwd : Place) (base : FileTree) (written : List (Place × Draft)) : Prop :=
  ∀ w ∈ written, base.target? cwd (w.2.path settings) = some w.1

theorem AtTargets.get?_ne (h : AtTargets settings cwd base written) (time : Text) :
    ∀ file ∈ written.map fun w => (w.1, w.2.bytes time), base.get? file.1 ≠ some .directory := by
  intro file hfile
  obtain ⟨w, hw, rfl⟩ := List.mem_map.1 hfile
  exact (target?_eq_some_iff.1 (h w hw)).2.2

/-- The last draft put at a place is there. -/
theorem AtTargets.get?_putDrafts (h : AtTargets settings cwd base written) (time : Text) (p : Place) :
    (base.putDrafts time written).get? p =
      ((written.reverse.lookup p).map fun draft => .file (draft.bytes time)).or (base.get? p) := by
  have hlookup (ws : List (Place × Draft)) :
      (ws.map fun w => (w.1, w.2.bytes time)).lookup p = (ws.lookup p).map (Draft.bytes time) := by
    induction ws with
    | nil => rfl
    | cons w ws ih =>
      rw [List.map_cons, List.lookup_cons, List.lookup_cons, ih]
      cases p == w.1 <;> rfl
  rw [putDrafts, get?_putFiles fun file hfile => ne_nil_of_get? (h.get?_ne time file hfile), ← List.map_reverse,
    hlookup, Option.map_map]
  rfl

theorem AtTargets.sameDirectories (h : AtTargets settings cwd base written) (time : Text) :
    SameDirectories base (base.putDrafts time written) := sameDirectories_putFiles (h.get?_ne time)

theorem AtTargets.sameKinds (h : AtTargets settings cwd base written) (time time' : Text) :
    SameKinds (base.putDrafts time written) (base.putDrafts time' written) where
  directories := (h.sameDirectories time).symm.trans (h.sameDirectories time')
  nothing p := by
    rw [h.get?_putDrafts, h.get?_putDrafts]
    cases written.reverse.lookup p <;> simp

end FileTree

namespace Desk

variable {settings : Settings} {cwd : Place} {base : FileTree} {time time' : Text}

/-- The logs are the same, and so are the drafts that have been written, each as it is at its time. -/
def Parallel (settings : Settings) (cwd : Place) (base : FileTree) (time time' : Text) (d d' : Desk) : Prop :=
  d.log = d'.log ∧ ∃ written, FileTree.AtTargets settings cwd base written ∧
    d.tree = base.putDrafts time written ∧ d'.tree = base.putDrafts time' written

theorem parallel_refl (settings : Settings) (cwd : Place) (time time' : Text) (d : Desk) :
    Parallel settings cwd d.tree time time' d d := ⟨rfl, [], nofun, rfl, rfl⟩

theorem inStep_log (e : Log.Entry) :
    InStep (Parallel settings cwd base time time') ((world cwd).log e) ((world cwd).log e) := by
  rintro d d' ⟨hlog, hwritten⟩
  exact ⟨rfl, congrArg (· ++ [e]) hlog, hwritten⟩

/-- A draft can be written on both desks, or on none for the same reason. -/
theorem inStep_write (draft : Draft) :
    InStep (Parallel settings cwd base time time') ((world cwd).write (draft.path settings) (draft.bytes time))
      ((world cwd).write (draft.path settings) (draft.bytes time')) := by
  rintro ⟨_, log⟩ ⟨_, _⟩ ⟨rfl, written, htargets, rfl, rfl⟩
  have htarget := (htargets.sameDirectories time).target?_eq cwd (draft.path settings)
  have htarget' := (htargets.sameDirectories time').target?_eq cwd (draft.path settings)
  cases hp : base.target? cwd (draft.path settings) with
  | none =>
    rw [hp] at htarget
    obtain ⟨e, hwrite, hwrite'⟩ :=
      (htargets.sameKinds time time').write_eq_error htarget (draft.bytes time) (draft.bytes time')
    simp only [world, hwrite, hwrite']
    exact ⟨trivial, rfl, written, htargets, rfl, rfl⟩
  | some p =>
    rw [hp] at htarget htarget'
    simp only [world, FileTree.write_of_target? htarget, FileTree.write_of_target? htarget']
    refine ⟨trivial, rfl, written ++ [(p, draft)], ?_, ?_, ?_⟩
    · rw [FileTree.AtTargets, List.forall_mem_append]
      exact ⟨htargets, List.forall_mem_singleton.2 hp⟩
    · exact (FileTree.putDrafts_concat base time written p draft).symm
    · exact (FileTree.putDrafts_concat base time' written p draft).symm

end Desk

/-! ### Publishing at two times -/

section

variable {settings : Settings} {cwd : Place} {base : FileTree} {time time' : Text} (tally : Tally)

namespace Publish

theorem inStep_writePage (name text : Text) :
    InStep (Desk.Parallel settings cwd base time time')
      (writePage (Desk.world cwd) settings.output tally ⟨name, text ++ Page.footer time⟩)
      (writePage (Desk.world cwd) settings.output tally ⟨name, text ++ Page.footer time'⟩) := by
  have hbytes (time : Text) : (text ++ Page.footer time).toBytes = (Draft.page name text).bytes time :=
    List.flatMap_append
  unfold writePage
  simp only [hbytes]
  refine .bind (Desk.inStep_write (.page name text)) fun answer => ?_
  cases answer with
  | ok => exact .bind (Desk.inStep_log _) fun _ => .pure _
  | error e => exact .bind (Desk.inStep_log _) fun _ => .pure _

theorem inStep_writePages {pages : Text → List Page} (h : Page.Footed pages) :
    InStep (Desk.Parallel settings cwd base time time')
      (writePages (Desk.world cwd) settings.output tally (pages time))
      (writePages (Desk.world cwd) settings.output tally (pages time')) := by
  obtain ⟨drafts, hdrafts⟩ := h
  rw [hdrafts, hdrafts]
  clear hdrafts
  induction drafts generalizing tally with
  | nil => exact .pure tally
  | cons draft drafts ih => exact .bind (inStep_writePage tally draft.1 draft.2) fun _ => ih _

theorem inStep_writeScopes (scopes : List ScopeEntries) :
    InStep (Desk.Parallel settings cwd base time time')
      (writeScopes (Desk.world cwd) settings.output time tally scopes)
      (writeScopes (Desk.world cwd) settings.output time' tally scopes) := by
  induction scopes generalizing tally with
  | nil => exact .pure tally
  | cons scope scopes ih =>
    refine .bind (Desk.inStep_log _) fun _ => .bind ?_ fun _ => ih _
    exact inStep_writePages tally (Page.footed_entryPages scope)

theorem inStep_writeAll (o : Outline) (es : List Event) :
    InStep (Desk.Parallel settings cwd base time time')
      (writeAll (Desk.world cwd) settings.output settings.manifest time o es)
      (writeAll (Desk.world cwd) settings.output settings.manifest time' o es) := by
  have hlists := ((Page.footed_indexPages o).append (Page.footed_eventPages es)).append (Page.footed_scopePages o)
  refine .bind (inStep_writePages _ hlists) fun listed => ?_
  refine .bind (Desk.inStep_write (.manifest o.catalog)) fun answer => ?_
  cases answer with
  | error e => exact .pure _
  | ok => exact .bind (Desk.inStep_log _) fun _ => .bind (inStep_writeScopes listed o.catalog) fun _ => .pure _

end Publish

namespace Run

theorem inStep_publish (found : Findings) :
    InStep (Desk.Parallel settings cwd base time time')
      (publish (Desk.world cwd) { settings with time := time } found)
      (publish (Desk.world cwd) { settings with time := time' } found) := by
  refine .bind (Desk.inStep_log _) fun _ => .bind (Publish.inStep_writeAll _ _) fun answer => ?_
  cases answer with
  | error e => exact .pure _
  | ok tally =>
    refine .bind (Desk.inStep_log _) fun _ => ?_
    dsimp only
    split
    · exact .bind (Desk.inStep_log _) fun _ => .pure _
    · exact .pure _

theorem readSources_time {m : Type → Type} [Monad m] (w : World m) (settings : Settings) (time : Text)
    (found : Findings) (sources : List Source) :
    readSources w { settings with time := time } found sources = readSources w settings found sources := by
  induction sources generalizing found with
  | nil => rfl
  | cons source sources ih =>
    unfold readSources
    simp only [ih]

/-- The two runs come to the same answer, and write nothing before they have read everything. -/
theorem parallel_run (settings : Settings) (cwd : Place) (d : Desk) (time time' : Text) :
    let done := run (Desk.world cwd) { settings with time := time } d
    let done' := run (Desk.world cwd) { settings with time := time' } d
    done.1 = done'.1 ∧
      Desk.Parallel settings cwd (d.tree.makeDirectories cwd settings.output).1 time time' done.2 done'.2 := by
  intro done done'
  rcases hprepare : d.tree.makeDirectories cwd settings.output with ⟨prepared, _ | cause⟩
  · have hready : (Desk.world cwd).makeDirectories settings.output d = (.ok (), ⟨prepared, d.log⟩) := by
      simp [Desk.world, hprepare]
    obtain ⟨noted, rfl, hread⟩ := exists_readSources_eq settings cwd (Source.selected settings.events) ⟨prepared, d.log⟩
    have hdone (time : Text) : run (Desk.world cwd) { settings with time := time } d = _ := run_of_prepared hready
    -- up to here neither run has looked at its time
    simp only [readSources_time, hread] at hdone
    have hfirst : done = _ := hdone time
    have hsecond : done' = _ := hdone time'
    rw [hfirst, hsecond]
    cases texts settings cwd noted.tree (Source.selected settings.events) with
    | error e => exact ⟨rfl, Desk.parallel_refl settings cwd time time' noted⟩
    | ok read => exact inStep_publish _ noted noted (Desk.parallel_refl settings cwd time time' noted)
  · have hfailed : (Desk.world cwd).makeDirectories settings.output d = (.error cause, ⟨prepared, d.log⟩) := by
      simp [Desk.world, hprepare]
    have hfirst : done = (.error (.output settings.output cause), ⟨prepared, d.log⟩) := bind_of_eq hfailed
    have hsecond : done' = (.error (.output settings.output cause), ⟨prepared, d.log⟩) := bind_of_eq hfailed
    rw [hfirst, hsecond]
    exact ⟨rfl, Desk.parallel_refl settings cwd time time' ⟨prepared, d.log⟩⟩

/-- Two runs that are told different times give the same answer and the same log, and leave files and directories at the
same places.  They write the same drafts to the same places: a manifest is the same file in both, and a page is the same
text with the footer of the time. -/
theorem run_at_two_times (settings : Settings) (cwd : Place) (d : Desk) (time time' : Text) :
    let done := run (Desk.world cwd) { settings with time := time } d
    let done' := run (Desk.world cwd) { settings with time := time' } d
    let prepared := (d.tree.makeDirectories cwd settings.output).1
    done.1 = done'.1 ∧ done.2.log = done'.2.log ∧ FileTree.SameKinds done.2.tree done'.2.tree ∧
      ∃ written : List (Place × Draft),
        (∀ w ∈ written, prepared.target? cwd (w.2.path settings) = some w.1) ∧
        ∀ p,
          done.2.tree.get? p =
            ((written.reverse.lookup p).map fun draft => .file (draft.bytes time)).or (prepared.get? p) ∧
          done'.2.tree.get? p =
            ((written.reverse.lookup p).map fun draft => .file (draft.bytes time')).or (prepared.get? p) := by
  intro done done' prepared
  obtain ⟨hanswer, hlog, written, htargets, htree, htree'⟩ := parallel_run settings cwd d time time'
  refine ⟨hanswer, hlog, ?_, written, htargets, fun p => ⟨?_, ?_⟩⟩
  · rw [htree, htree']
    exact htargets.sameKinds time time'
  · rw [htree, htargets.get?_putDrafts]
  · rw [htree', htargets.get?_putDrafts]

end Run

end

end BindingDocs
