import BindingDocs.Proofs.FileTrees
import BindingDocs.Proofs.WithoutLog

/-!
# What is published

Without the log, publishing is one attempt to write after the other: each page is tried whatever became of the pages
before it, and the pages of the functions are tried if the manifest is written (`writeAll_eq`).  Whether a file of a
tree can be written depends only on the directories, so it is known in advance what will be written (`writeAll_cases`).
If the manifest is written and no page fails, all files are (`writeFiles_of_writeAll`).
-/

namespace BindingDocs

namespace World

variable {m : Type → Type} [Monad m]

/-- Nothing comes of what is logged. -/
def IsSilent (w : World m) : Prop := ∀ e, w.log e = pure ()

/-- Tries to write several files, one after the other, whatever becomes of each. -/
def writeEach (w : World m) : List (Text × Bytes) → m (List (Except FileError Unit))
  | [] => pure []
  | file :: files => do
    let answer ← w.write file.1 file.2
    let answers ← w.writeEach files
    pure (answer :: answers)

theorem writeEach_append [LawfulMonad m] (w : World m) (files files' : List (Text × Bytes)) :
    w.writeEach (files ++ files') =
      w.writeEach files >>= fun answers => (fun answers' => answers ++ answers') <$> w.writeEach files' := by
  induction files with
  | nil => simp [writeEach]
  | cons file files ih => simp [writeEach, ih]

theorem writeEach_cons_eq {σ : Type} {w : World (StateM σ)} {file : Text × Bytes} {files : List (Text × Bytes)}
    {answer : Except FileError Unit} {answers : List (Except FileError Unit)} {s t u : σ}
    (hfirst : w.write file.1 file.2 s = (answer, t)) (hrest : w.writeEach files t = (answers, u)) :
    w.writeEach (file :: files) s = (answer :: answers, u) := by
  have hstep : w.writeEach (file :: files) s =
      ((w.write file.1 file.2 s).1 :: (w.writeEach files (w.write file.1 file.2 s).2).1,
        (w.writeEach files (w.write file.1 file.2 s).2).2) := rfl
  rw [hstep, hfirst, hrest]

end World

namespace Tally

/-- The tally with one more page counted, which was written or not. -/
def count (tally : Tally) : Except FileError Unit → Tally
  | .ok () => { tally with written := tally.written + 1 }
  | .error _ => { tally with failed := tally.failed + 1 }

/-- The tally with several pages counted. -/
def countAll (tally : Tally) (answers : List (Except FileError Unit)) : Tally := answers.foldl count tally

theorem countAll_cons (tally : Tally) (answer : Except FileError Unit) (answers : List (Except FileError Unit)) :
    tally.countAll (answer :: answers) = (tally.count answer).countAll answers := rfl

theorem countAll_append (tally : Tally) (answers answers' : List (Except FileError Unit)) :
    tally.countAll (answers ++ answers') = (tally.countAll answers).countAll answers' := List.foldl_append

theorem countAll_eq (tally : Tally) (answers : List (Except FileError Unit)) :
    tally.countAll answers =
      ⟨tally.written + answers.countP Except.isOk, tally.failed + answers.countP fun answer => !answer.isOk⟩ := by
  induction answers generalizing tally with
  | nil => rfl
  | cons answer answers ih =>
    rw [countAll_cons, ih, List.countP_cons, List.countP_cons]
    cases answer with
    | ok =>
      have hok : (Except.ok () : Except FileError Unit).isOk = true := rfl
      simp only [count, hok, Bool.not_true, Bool.false_eq_true, if_true, if_false, Nat.add_zero]
      rw [Nat.add_right_comm, Nat.add_assoc]
    | error e =>
      have herror : (Except.error e : Except FileError Unit).isOk = false := rfl
      simp only [count, herror, Bool.not_false, Bool.false_eq_true, if_true, if_false, Nat.add_zero]
      rw [Nat.add_right_comm, Nat.add_assoc]

/-- Each page counts once. -/
theorem written_add_failed_countAll (tally : Tally) (answers : List (Except FileError Unit)) :
    (tally.countAll answers).written + (tally.countAll answers).failed =
      tally.written + tally.failed + answers.length := by
  induction answers generalizing tally with
  | nil => rfl
  | cons answer answers ih =>
    rw [countAll_cons, ih, List.length_cons]
    cases answer with
    | ok =>
      show tally.written + 1 + tally.failed + answers.length = _
      omega
    | error e =>
      show tally.written + (tally.failed + 1) + answers.length = _
      omega

end Tally

namespace Publish

/-- The file of a page in a directory. -/
def fileOf (directory : Text) (page : Page) : Text × Bytes :=
  (Pathname.join directory page.name, page.body.toBytes)

/-- Every file that is written, in order. -/
def files (directory time manifestPath : Text) (o : Outline) (es : List Event) : List (Text × Bytes) :=
  (o.indexPages time ++ Outline.eventPages es time ++ o.scopePages time).map (fileOf directory) ++
    (manifestPath, (Manifest.ofCatalog o.catalog).toBytes) :: (o.functionPages time).map (fileOf directory)

/-- The files that are written before the manifest. -/
def listFiles (directory time : Text) (o : Outline) (es : List Event) : List (Text × Bytes) :=
  (o.indexPages time ++ Outline.eventPages es time ++ o.scopePages time).map (fileOf directory)

/-- The files that are written after the manifest. -/
def detailFiles (directory time : Text) (o : Outline) : List (Text × Bytes) :=
  (o.functionPages time).map (fileOf directory)

/-! ### Attempts -/

section

variable {m : Type → Type} [Monad m] [LawfulMonad m] {w : World m} (directory time : Text)

theorem writePage_eq (hw : w.IsSilent) (tally : Tally) (page : Page) :
    writePage w directory tally page = tally.count <$> w.write (fileOf directory page).1 (fileOf directory page).2 := by
  unfold writePage
  rw [map_eq_pure_bind]
  refine bind_congr fun answer => ?_
  cases answer <;> simp [hw _, Tally.count]

theorem writePages_eq (hw : w.IsSilent) (tally : Tally) (pages : List Page) :
    writePages w directory tally pages = tally.countAll <$> w.writeEach (pages.map (fileOf directory)) := by
  induction pages generalizing tally with
  | nil => simp [writePages, World.writeEach, Tally.countAll]
  | cons page pages ih => simp [writePages, World.writeEach, writePage_eq directory hw, ih, Tally.countAll_cons]

theorem writeScopes_eq (hw : w.IsSilent) (tally : Tally) (scopes : List ScopeEntries) :
    writeScopes w directory time tally scopes =
      tally.countAll <$> w.writeEach ((scopes.flatMap fun s => Outline.entryPages s time).map (fileOf directory)) := by
  induction scopes generalizing tally with
  | nil => simp [writeScopes, World.writeEach, Tally.countAll]
  | cons scope scopes ih =>
    simp [writeScopes, hw _, writePages_eq directory hw, ih, World.writeEach_append, Tally.countAll_append]

/-- The lists and the pages of the events are tried, then the manifest, and the pages of the functions if the manifest
is written. -/
theorem writeAll_eq (hw : w.IsSilent) (manifestPath : Text) (o : Outline) (es : List Event) :
    writeAll w directory manifestPath time o es = (do
      let listed ← w.writeEach (listFiles directory time o es)
      match ← w.write manifestPath (Manifest.ofCatalog o.catalog).toBytes with
      | .error e => pure (.error (.manifest manifestPath e))
      | .ok () =>
        let detailed ← w.writeEach (detailFiles directory time o)
        pure (.ok (Tally.countAll ⟨0, 0⟩ (listed ++ detailed)))) := by
  unfold writeAll
  dsimp only
  rw [writePages_eq directory hw, bind_map_left]
  refine bind_congr fun listed => bind_congr fun answer => ?_
  cases answer with
  | error e => rfl
  | ok =>
    simp [hw _, writeScopes_eq directory time hw, Tally.countAll_append, detailFiles, Outline.functionPages]

end

section

variable {σ : Type} {w : World (StateM σ)} {directory time manifestPath : Text} {o : Outline} {es : List Event}
  {listed detailed : List (Except FileError Unit)} {s t u r : σ}

theorem writeAll_of_error (hw : w.IsSilent) {e : FileError}
    (hlisted : w.writeEach (listFiles directory time o es) s = (listed, t))
    (hmanifest : w.write manifestPath (Manifest.ofCatalog o.catalog).toBytes t = (.error e, u)) :
    writeAll w directory manifestPath time o es s = (.error (.manifest manifestPath e), u) := by
  rw [writeAll_eq directory time hw]
  exact (bind_of_eq hlisted).trans (bind_of_eq hmanifest)

theorem writeAll_of_ok (hw : w.IsSilent)
    (hlisted : w.writeEach (listFiles directory time o es) s = (listed, t))
    (hmanifest : w.write manifestPath (Manifest.ofCatalog o.catalog).toBytes t = (.ok (), u))
    (hdetailed : w.writeEach (detailFiles directory time o) u = (detailed, r)) :
    writeAll w directory manifestPath time o es s = (.ok (Tally.countAll ⟨0, 0⟩ (listed ++ detailed)), r) := by
  rw [writeAll_eq directory time hw]
  refine (bind_of_eq hlisted).trans ((bind_of_eq hmanifest).trans ?_)
  exact bind_of_eq hdetailed

end

/-! ### On a file tree -/

variable (cwd : Place) (directory time : Text)

theorem isSilent_world : (FileTree.world cwd).IsSilent := fun _ => rfl

theorem write_world_of_target? {t : FileTree} {path : Text} {p : Place} (h : t.target? cwd path = some p)
    (content : Bytes) : (FileTree.world cwd).write path content t = (.ok (), t.set p (.file content)) := by
  have hwrite := FileTree.write_of_target? h content
  simp [FileTree.world, hwrite]

theorem exists_write_world_eq_error {t : FileTree} {path : Text} (h : t.target? cwd path = none) (content : Bytes) :
    ∃ e, (FileTree.world cwd).write path content t = (.error e, t) := by
  obtain ⟨e, hwrite⟩ := FileTree.exists_write_eq_error h content
  exact ⟨e, by simp [FileTree.world, hwrite]⟩

/-- Of several files those are written that can be written at first. -/
theorem writeEach_world (files : List (Text × Bytes)) (t : FileTree) :
    ∃ answers, (FileTree.world cwd).writeEach files t = (answers, t.putFiles (t.targets cwd files)) ∧
      answers.map Except.isOk = files.map fun file => (t.target? cwd file.1).isSome := by
  induction files generalizing t with
  | nil => exact ⟨[], rfl, rfl⟩
  | cons file files ih =>
    cases htarget : t.target? cwd file.1 with
    | none =>
      obtain ⟨e, hwrite⟩ := exists_write_world_eq_error cwd htarget file.2
      obtain ⟨answers, hrest, hanswers⟩ := ih t
      rw [FileTree.targets_cons_of_eq_none htarget]
      refine ⟨.error e :: answers, World.writeEach_cons_eq hwrite hrest, ?_⟩
      rw [List.map_cons, List.map_cons, hanswers, htarget]
      rfl
    | some p =>
      have hwrite := write_world_of_target? cwd htarget file.2
      -- the file that is written is no directory, so the others can be written as before
      have hsame := FileTree.sameDirectories_set (FileTree.target?_eq_some_iff.1 htarget).2.2 file.2
      obtain ⟨answers, hrest, hanswers⟩ := ih (t.set p (.file file.2))
      rw [hsame.targets_eq] at hrest
      simp only [hsame.target?_eq] at hanswers
      rw [FileTree.targets_cons_of_eq_some htarget]
      refine ⟨.ok () :: answers, World.writeEach_cons_eq hwrite hrest, ?_⟩
      rw [List.map_cons, List.map_cons, hanswers, htarget]
      rfl

variable (manifestPath : Text) (o : Outline) (es : List Event)

/-- The manifest can be written, and all files are tried, or it cannot, which is the answer. -/
theorem writeAll_cases (t : FileTree) :
    (t.target? cwd manifestPath = none ∧
      ∃ e, writeAll (FileTree.world cwd) directory manifestPath time o es t =
        (.error (.manifest manifestPath e), t.putFiles (t.targets cwd (listFiles directory time o es)))) ∨
    (t.target? cwd manifestPath).isSome ∧
      ∃ tally, writeAll (FileTree.world cwd) directory manifestPath time o es t =
        (.ok tally, t.putFiles (t.targets cwd (files directory time manifestPath o es))) ∧
        tally.failed = (listFiles directory time o es ++ detailFiles directory time o).countP fun file =>
          !(t.target? cwd file.1).isSome := by
  let manifest : Text × Bytes := (manifestPath, (Manifest.ofCatalog o.catalog).toBytes)
  have hlists := FileTree.sameDirectories_putFiles_targets t cwd (listFiles directory time o es)
  obtain ⟨listed, hlisted, hlistAnswers⟩ := writeEach_world cwd (listFiles directory time o es) t
  cases htarget : t.target? cwd manifestPath with
  | none =>
    obtain ⟨e, hmanifest⟩ := exists_write_world_eq_error cwd ((hlists.target?_eq cwd manifestPath).trans htarget)
      manifest.2
    exact .inl ⟨rfl, e, writeAll_of_error (isSilent_world cwd) hlisted hmanifest⟩
  | some p =>
    have hmanifest := write_world_of_target? cwd ((hlists.target?_eq cwd manifestPath).trans htarget) manifest.2
    have hfiles : t.targets cwd (files directory time manifestPath o es) =
        t.targets cwd (listFiles directory time o es) ++
          (p, manifest.2) :: t.targets cwd (detailFiles directory time o) := by
      have hmanifestTarget : t.target? cwd manifest.1 = some p := htarget
      rw [← FileTree.targets_cons_of_eq_some hmanifestTarget]
      exact FileTree.targets_append t cwd (listFiles directory time o es) (manifest :: detailFiles directory time o)
    -- neither a page nor the manifest is put where a directory is, so the rest can be written as at first
    have hboth : FileTree.SameDirectories t
        ((t.putFiles (t.targets cwd (listFiles directory time o es))).set p (.file manifest.2)) :=
      hlists.trans (FileTree.sameDirectories_of_write
        (FileTree.write_of_target? ((hlists.target?_eq cwd manifestPath).trans htarget) manifest.2))
    obtain ⟨detailed, hdetailed, hdetailAnswers⟩ := writeEach_world cwd (detailFiles directory time o)
      ((t.putFiles (t.targets cwd (listFiles directory time o es))).set p (.file manifest.2))
    rw [hboth.targets_eq] at hdetailed
    simp only [hboth.target?_eq] at hdetailAnswers
    refine .inr ⟨rfl, Tally.countAll ⟨0, 0⟩ (listed ++ detailed), ?_, ?_⟩
    · rw [writeAll_of_ok (isSilent_world cwd) hlisted hmanifest hdetailed, hfiles, FileTree.putFiles_append]
      rfl
    · have hanswers : (listed ++ detailed).map Except.isOk =
          (listFiles directory time o es ++ detailFiles directory time o).map fun file =>
            (t.target? cwd file.1).isSome := by
        rw [List.map_append, List.map_append, hlistAnswers, hdetailAnswers]
      have hcount := congrArg (List.countP Bool.not) hanswers
      rw [List.countP_map, List.countP_map] at hcount
      rw [Tally.countAll_eq]
      exact (Nat.zero_add _).trans hcount

/-- If the manifest is written and no page fails, every file is written. -/
theorem writeFiles_of_writeAll {manifestPath : Text} {o : Outline} {es : List Event} {d d' : Desk} {tally : Tally}
    (h : writeAll (Desk.world cwd) directory manifestPath time o es d = (.ok tally, d'))
    (hfailed : tally.failed = 0) :
    d.tree.writeFiles cwd (files directory time manifestPath o es) = .ok d'.tree := by
  have hrun := follows_writeAll (Desk.mirrors_world cwd) directory manifestPath time o es d
  rw [h] at hrun
  rcases writeAll_cases cwd directory time manifestPath o es d.tree with
    ⟨-, e, hanswer⟩ | ⟨hmanifest, written, hanswer, hcount⟩
  · rw [hrun] at hanswer
    cases hanswer
  · rw [hrun] at hanswer
    obtain ⟨htally, htree⟩ := Prod.mk.inj hanswer
    obtain rfl := Except.ok.inj htally
    refine FileTree.writeFiles_eq_ok_iff.2 ⟨fun file hfile => ?_, htree⟩
    rw [hfailed, eq_comm, List.countP_eq_zero] at hcount
    have hpage : file ∈ listFiles directory time o es ++ detailFiles directory time o →
        (d.tree.target? cwd file.1).isSome := fun hmem => by simpa [Option.isSome_iff_ne_none] using hcount file hmem
    rcases List.mem_append.1 hfile with hlist | hrest
    · exact hpage (List.mem_append_left _ hlist)
    · rcases List.mem_cons.1 hrest with rfl | hdetail
      · exact hmanifest
      · exact hpage (List.mem_append_right _ hdetail)

end Publish

end BindingDocs
