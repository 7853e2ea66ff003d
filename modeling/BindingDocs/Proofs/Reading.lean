import BindingDocs.Proofs.FullestDocumented
import BindingDocs.Proofs.Preparing
import BindingDocs.Proofs.Publishing

/-!
# Reading the sources

The sources are read one after the other in the tree in which the output directory has been made, and nothing is written
meanwhile.  What is found is what their texts document together, or the first source that cannot be read is the error
(`readSources_world`, `texts_of_find?_eq_some`).  So a run in which a source cannot be read adds nothing but directories
on the way to the output, and a run in which each can be read comes to publishing (`run_reads_first`).
-/

namespace BindingDocs

/-- The path name under which a source is read. -/
def Settings.sourcePath (settings : Settings) (source : Source) : Text := Pathname.join settings.root source.path

namespace Run

variable (settings : Settings) (cwd : Place) (t : FileTree)

/-- A source with its text, if it can be read. -/
def text (source : Source) : Except RunError (Source × Text) :=
  match t.read cwd (settings.sourcePath source) with
  | .error e => .error (.source source.scope (settings.sourcePath source) e)
  | .ok bytes => .ok (source, Text.ofBytes bytes)

/-- Several sources with their texts, if each can be read. -/
def texts (sources : List Source) : Except RunError (List (Source × Text)) := sources.mapM (text settings cwd t)

/-- Is there no file of the source, or none that can be read? -/
def isUnreadable (source : Source) : Bool := !(t.read cwd (settings.sourcePath source)).isOk

/-- The first of the sources to read that cannot be read. -/
def unreadable? : Option Source := (Source.selected settings.events).find? (isUnreadable settings cwd t)

variable {settings cwd t} {source : Source} {sources : List Source}

theorem isUnreadable_of_ok {bytes : Bytes} (h : t.read cwd (settings.sourcePath source) = .ok bytes) :
    isUnreadable settings cwd t source = false := by
  rw [isUnreadable, h]
  rfl

theorem isUnreadable_of_error {e : FileError} (h : t.read cwd (settings.sourcePath source) = .error e) :
    isUnreadable settings cwd t source = true := by
  rw [isUnreadable, h]
  rfl

theorem texts_cons_of_error {e : FileError} (h : t.read cwd (settings.sourcePath source) = .error e) :
    texts settings cwd t (source :: sources) = .error (.source source.scope (settings.sourcePath source) e) := by
  rw [texts, List.mapM_cons, text, h]
  rfl

theorem texts_cons_of_ok {bytes : Bytes} (h : t.read cwd (settings.sourcePath source) = .ok bytes) :
    texts settings cwd t (source :: sources) =
      (texts settings cwd t sources).map fun rest => (source, Text.ofBytes bytes) :: rest := by
  rw [texts, List.mapM_cons, text, h]
  rfl

/-- The first source that cannot be read is the error. -/
theorem texts_of_find?_eq_some (h : sources.find? (isUnreadable settings cwd t) = some source) :
    ∃ e, t.read cwd (settings.sourcePath source) = .error e ∧
      texts settings cwd t sources = .error (.source source.scope (settings.sourcePath source) e) := by
  induction sources with
  | nil => cases h
  | cons first sources ih =>
    cases hread : t.read cwd (settings.sourcePath first) with
    | error e =>
      rw [List.find?_cons_of_pos (isUnreadable_of_error hread)] at h
      obtain rfl := Option.some.inj h
      exact ⟨e, hread, texts_cons_of_error hread⟩
    | ok bytes =>
      rw [List.find?_cons_of_neg (by simp [isUnreadable_of_ok hread])] at h
      obtain ⟨e, hsource, hrest⟩ := ih h
      refine ⟨e, hsource, ?_⟩
      rw [texts_cons_of_ok hread, hrest]
      rfl

theorem texts_of_find?_eq_none (h : sources.find? (isUnreadable settings cwd t) = none) :
    ∃ found, texts settings cwd t sources = .ok found ∧ found.map Prod.fst = sources := by
  induction sources with
  | nil => exact ⟨[], rfl, rfl⟩
  | cons first sources ih =>
    cases hread : t.read cwd (settings.sourcePath first) with
    | error e =>
      rw [List.find?_cons_of_pos (isUnreadable_of_error hread)] at h
      cases h
    | ok bytes =>
      rw [List.find?_cons_of_neg (by simp [isUnreadable_of_ok hread])] at h
      obtain ⟨found, hfound, hsources⟩ := ih h
      refine ⟨(first, Text.ofBytes bytes) :: found, ?_, ?_⟩
      · rw [texts_cons_of_ok hread, hfound]
        rfl
      · rw [List.map_cons, hsources]

/-- If each file that was read holds the same as before, then so do the texts. -/
theorem texts_eq_ok {t' : FileTree} {found : List (Source × Text)}
    (h : ∀ source ∈ sources, ∀ bytes, t.read cwd (settings.sourcePath source) = .ok bytes →
      t'.read cwd (settings.sourcePath source) = .ok bytes)
    (htexts : texts settings cwd t sources = .ok found) : texts settings cwd t' sources = .ok found := by
  induction sources generalizing found with
  | nil => exact htexts
  | cons first sources ih =>
    obtain ⟨hfirst, hrest⟩ := List.forall_mem_cons.1 h
    cases hread : t.read cwd (settings.sourcePath first) with
    | error e =>
      rw [texts_cons_of_error hread] at htexts
      cases htexts
    | ok bytes =>
      rw [texts_cons_of_ok hread] at htexts
      rw [texts_cons_of_ok (hfirst bytes hread)]
      cases hfound : texts settings cwd t sources with
      | error e =>
        rw [hfound] at htexts
        cases htexts
      | ok rest =>
        rw [hfound] at htexts
        rw [ih hrest hfound]
        exact htexts

theorem logAll_world (es : List Log.Entry) : (FileTree.world cwd).logAll es = pure () := by
  induction es with
  | nil => rfl
  | cons e es ih => exact ih

theorem readSources_cons_of_error {e : FileError} (h : t.read cwd (settings.sourcePath source) = .error e)
    (found : Findings) :
    readSources (FileTree.world cwd) settings found (source :: sources) t =
      (.error (.source source.scope (settings.sourcePath source) e), t) := by
  have hread : (FileTree.world cwd).read (settings.sourcePath source) t = (.error e, t) :=
    congrArg (fun answer => (answer, t)) h
  rw [readSources]
  exact bind_of_eq hread

theorem readSources_cons_of_ok {bytes : Bytes} (h : t.read cwd (settings.sourcePath source) = .ok bytes)
    (found : Findings) :
    readSources (FileTree.world cwd) settings found (source :: sources) t =
      readSources (FileTree.world cwd) settings
        (found.add (Scan.ofText .known settings.events source (Text.ofBytes bytes))) sources t := by
  have hread : (FileTree.world cwd).read (settings.sourcePath source) t = (.ok bytes, t) :=
    congrArg (fun answer => (answer, t)) h
  rw [readSources]
  refine (bind_of_eq hread).trans ?_
  simp only [logAll_world]
  rfl

/-- Reading finds what the texts document together, and leaves the tree as it is. -/
theorem readSources_world (settings : Settings) (cwd : Place) (sources : List Source) (t : FileTree) :
    readSources (FileTree.world cwd) settings .empty sources t =
      ((texts settings cwd t sources).map (.ofTexts .known settings.events), t) := by
  unfold Findings.ofTexts
  generalize Findings.empty = found
  induction sources generalizing found with
  | nil => rfl
  | cons source sources ih =>
    cases hread : t.read cwd (settings.sourcePath source) with
    | error e =>
      rw [readSources_cons_of_error hread, texts_cons_of_error hread]
      rfl
    | ok bytes =>
      rw [readSources_cons_of_ok hread, ih, texts_cons_of_ok hread]
      cases texts settings cwd t sources <;> rfl

/-! ### The run around it -/

variable {d : Desk} {prepared : FileTree}

theorem run_of_prepared {σ : Type} {w : World (StateM σ)} {s s' : σ}
    (h : w.makeDirectories settings.output s = (.ok (), s')) :
    run w settings s =
      match readSources w settings .empty (Source.selected settings.events) s' with
      | (.error e, s'') => (.error e, s'')
      | (.ok found, s'') => publish w settings found s'' := by
  rw [run]
  refine (bind_of_eq h).trans ?_
  rcases hread : readSources w settings .empty (Source.selected settings.events) s' with ⟨e | found, s''⟩
  · exact bind_of_eq hread
  · exact bind_of_eq hread

theorem exists_readSources_eq (settings : Settings) (cwd : Place) (sources : List Source) (d : Desk) :
    ∃ noted : Desk, noted.tree = d.tree ∧ readSources (Desk.world cwd) settings .empty sources d =
      ((texts settings cwd d.tree sources).map (.ofTexts .known settings.events), noted) := by
  have hread := follows_readSources settings (Desk.mirrors_world cwd) .empty sources d
  rw [readSources_world] at hread
  obtain ⟨hanswer, htree⟩ := Prod.mk.inj hread
  exact ⟨_, htree.symm, Prod.ext hanswer.symm rfl⟩

/-- If the output can be prepared, the run comes to the first source that cannot be read, and adds nothing to the files
but directories on the way to the output; or it reads every source and publishes what their texts document together. -/
theorem run_reads_first (hprepare : d.tree.makeDirectories cwd settings.output = (prepared, none)) :
    let done := run (Desk.world cwd) settings d
    (∀ source, unreadable? settings cwd prepared = some source →
      (∃ e, done.1 = .error e ∧ e.chain.head? = some ("failed to read ".toList ++ source.scope ++ " file".toList)) ∧
        FileTree.Extends (FileTree.origin cwd settings.output) (Pathname.steps settings.output) d.tree done.2.tree ∧
        ∀ p content, done.2.tree.get? p = some (.file content) ↔ d.tree.get? p = some (.file content)) ∧
    (unreadable? settings cwd prepared = none →
      ∃ found noted, texts settings cwd prepared (Source.selected settings.events) = .ok found ∧
        found.map Prod.fst = Source.selected settings.events ∧ noted.tree = prepared ∧
        done = publish (Desk.world cwd) settings (.ofTexts .known settings.events found) noted) := by
  intro done
  have hready : (Desk.world cwd).makeDirectories settings.output d = (.ok (), ⟨prepared, d.log⟩) := by
    simp [Desk.world, hprepare]
  obtain ⟨noted, htree, hread⟩ := exists_readSources_eq settings cwd (Source.selected settings.events)
    ⟨prepared, d.log⟩
  have hdone : done = _ := run_of_prepared hready
  rw [hread] at hdone
  constructor
  · intro source hsource
    obtain ⟨cause, -, htexts⟩ := texts_of_find?_eq_some hsource
    have hextends := FileTree.extends_makeDirectories d.tree cwd settings.output
    rw [hprepare] at hextends
    rw [htexts] at hdone
    rw [hdone]
    dsimp only [Except.map]
    rw [htree]
    exact ⟨⟨_, rfl, rfl⟩, hextends, fun _ _ => hextends.get?_eq_file_iff⟩
  · intro hall
    obtain ⟨found, htexts, hsources⟩ := texts_of_find?_eq_none hall
    rw [htexts] at hdone
    exact ⟨found, noted, htexts, hsources, htree, hdone⟩

/-- Two sources are there, and the third one is a directory, which cannot be read. -/
theorem run_reads_first_of_two :
    let settings : Settings := ⟨"src".toList, "out/wiki".toList, "m.yml".toList, false, "T".toList⟩
    let tree : FileTree := [(["src".toList], .directory), (["src".toList, "zone".toList], .directory),
      (["src".toList, "zone".toList, "embparser_api.cpp".toList], .file []),
      (["src".toList, "zone".toList, "perl_client.cpp".toList], .file []),
      (["src".toList, "zone".toList, "perl_doors.cpp".toList], .directory)]
    let prepared := tree ++ [(["out".toList], .directory), (["out".toList, "wiki".toList], .directory)]
    tree.makeDirectories [] settings.output = (prepared, none) ∧
      ∃ e, (run (Desk.world []) settings ⟨tree, []⟩).1 = .error e ∧
        e.chain.head? = some "failed to read Doors file".toList := by
  intro settings tree prepared
  have hprepare : tree.makeDirectories [] settings.output = (prepared, none) := by decide +kernel
  have hdoors : unreadable? settings [] prepared = some (Source.file "zone/perl_doors.cpp" "Doors" (some "door")) := by
    decide +kernel
  obtain ⟨⟨e, herror, hchain⟩, -⟩ := (run_reads_first (d := ⟨tree, []⟩) hprepare).1 _ hdoors
  refine ⟨hprepare, e, herror, ?_⟩
  rw [hchain]
  decide

end Run

end BindingDocs
