import BindingDocs.Proofs.PageNames
import BindingDocs.Proofs.Reading

/-!
# The outcome of a run

What a run leaves behind can be told from the tree in which its output has been prepared: nothing more if it fails to
prepare or to read, else each file that it tries to write and that can be written there (`publish_world`,
`tree_run`).  Such a file is the manifest, or a page in the output directory (`exists_stem_of_mem_attempted`).
-/

namespace BindingDocs

namespace Publish

variable {directory time manifestPath : Text} {o : Outline} {es : List Event}

theorem exists_stem_of_mem_listFiles {file : Text × Bytes} (h : file ∈ listFiles directory time o es) :
    ∃ stem, file.1 = Pathname.join directory (PageName.ofStem stem) := by
  obtain ⟨page, hpage, rfl⟩ := List.mem_map.1 h
  rw [List.append_assoc] at hpage
  rcases List.mem_append.1 hpage with hindex | hpage
  · unfold Outline.indexPages at hindex
    split_ifs at hindex
    · cases hindex
    · exact ⟨"Events".toList, List.mem_singleton.1 hindex ▸ rfl⟩
  · rcases List.mem_append.1 hpage with hevent | hscope
    · obtain ⟨e, -, rfl⟩ := List.mem_map.1 hevent
      exact ⟨Title.ofText e.name, rfl⟩
    · obtain ⟨p, -, rfl⟩ := List.mem_map.1 hscope
      exact ⟨Title.ofText p.1, rfl⟩

theorem exists_stem_of_mem_detailFiles {file : Text × Bytes} (h : file ∈ detailFiles directory time o) :
    ∃ stem, file.1 = Pathname.join directory (PageName.ofStem stem) := by
  obtain ⟨page, hpage, rfl⟩ := List.mem_map.1 h
  obtain ⟨s, -, hentry⟩ := List.mem_flatMap.1 hpage
  obtain ⟨e, -, rfl⟩ := List.mem_map.1 hentry
  refine ⟨Title.ofText s.name ++ '-' :: e.name, ?_⟩
  simp [fileOf, PageName.functionPage, PageName.ofStem]

end Publish

namespace Run

variable {settings : Settings} {cwd : Place} {t t' prepared : FileTree} {found : Findings}

/-- The files that publishing tries to write: all of them, or those before the manifest if that cannot be written. -/
def attempted (settings : Settings) (cwd : Place) (found : Findings) (t : FileTree) : List (Text × Bytes) :=
  let o := found.sorted.outline .known
  if (t.target? cwd settings.manifest).isSome then
    Publish.files settings.output settings.time settings.manifest o found.sorted.events
  else Publish.listFiles settings.output settings.time o found.sorted.events

/-- Each file is the manifest or a page in the output directory. -/
theorem exists_stem_of_mem_attempted {file : Text × Bytes} (h : file ∈ attempted settings cwd found t) :
    file.1 = settings.manifest ∨ ∃ stem, file.1 = Pathname.join settings.output (PageName.ofStem stem) := by
  unfold attempted at h
  dsimp only at h
  split_ifs at h
  · rcases List.mem_append.1 h with hlist | hrest
    · exact .inr (Publish.exists_stem_of_mem_listFiles hlist)
    · rcases List.mem_cons.1 hrest with rfl | hdetail
      · exact .inl rfl
      · exact .inr (Publish.exists_stem_of_mem_detailFiles hdetail)
  · exact .inr (Publish.exists_stem_of_mem_listFiles h)

theorem attempted_congr (h : FileTree.SameDirectories t t') :
    attempted settings cwd found t' = attempted settings cwd found t := by
  unfold attempted
  rw [h.target?_eq]

/-! ### Publishing -/

/-- Publishing succeeds if writing does, whatever becomes of the pages. -/
theorem publish_eq {m : Type → Type} [Monad m] [LawfulMonad m] {w : World m} (hw : w.IsSilent) (settings : Settings)
    (found : Findings) :
    publish w settings found = Except.map (fun _ => ()) <$>
      Publish.writeAll w settings.output settings.manifest settings.time (found.sorted.outline .known)
        found.sorted.events := by
  unfold publish
  rw [hw, pure_bind, map_eq_pure_bind]
  refine bind_congr fun answer => ?_
  cases answer with
  | error e => rfl
  | ok tally =>
    simp only [hw _, pure_bind]
    split <;> rfl

variable (settings cwd found t)

/-- Publishing succeeds exactly if the manifest can be written, and each file that it tries to write and that can be
written is there in the end. -/
theorem publish_world :
    ∃ answer, publish (FileTree.world cwd) settings found t =
        (answer, t.putFiles (t.targets cwd (attempted settings cwd found t))) ∧
      (answer = .ok () ↔ (t.target? cwd settings.manifest).isSome) := by
  have hmap (x : StateM FileTree (Except RunError Tally)) :
      (Except.map (fun _ => ()) <$> x) t = ((x t).1.map fun _ => (), (x t).2) := rfl
  have hwrite := (congrFun (publish_eq (Publish.isSilent_world cwd) settings found) t).trans (hmap _)
  unfold attempted
  dsimp only
  rcases Publish.writeAll_cases cwd settings.output settings.time settings.manifest
    (found.sorted.outline .known) found.sorted.events t with ⟨hmanifest, e, h⟩ | ⟨hmanifest, tally, h, -⟩
  · refine ⟨.error (.manifest settings.manifest e), ?_, ?_⟩
    · rw [hwrite, h, hmanifest]
      rfl
    · rw [hmanifest]
      simp
  · refine ⟨.ok (), ?_, ?_⟩
    · rw [hwrite, h, if_pos hmanifest]
      rfl
    · simp [hmanifest]

/-! ### The whole run -/

variable {settings cwd found t} {e : RunError} {cause : FileError} {read : List (Source × Text)}

theorem run_world_of_unprepared (h : t.makeDirectories cwd settings.output = (prepared, some cause)) :
    run (FileTree.world cwd) settings t = (.error (.output settings.output cause), prepared) := by
  have hprepare : (FileTree.world cwd).makeDirectories settings.output t = (.error cause, prepared) := by
    simp [FileTree.world, h]
  rw [run]
  exact bind_of_eq hprepare

theorem run_world_of_prepared (h : t.makeDirectories cwd settings.output = (prepared, none)) :
    run (FileTree.world cwd) settings t =
      match texts settings cwd prepared (Source.selected settings.events) with
      | .error e => (.error e, prepared)
      | .ok read => publish (FileTree.world cwd) settings (.ofTexts .known settings.events read) prepared := by
  have hready : (FileTree.world cwd).makeDirectories settings.output t = (.ok (), prepared) := by
    simp [FileTree.world, h]
  rw [run_of_prepared hready, readSources_world]
  cases texts settings cwd prepared (Source.selected settings.events) <;> rfl

/-- After a run the tree is the prepared one, with the files that could be written of those that were attempted. -/
theorem tree_run (settings : Settings) (cwd : Place) (d : Desk) :
    let prepared := (d.tree.makeDirectories cwd settings.output).1
    (run (Desk.world cwd) settings d).2.tree = prepared ∨
      ∃ found, (run (Desk.world cwd) settings d).2.tree =
        prepared.putFiles (prepared.targets cwd (attempted settings cwd found prepared)) := by
  have hrun : (run (FileTree.world cwd) settings d.tree).2 = (run (Desk.world cwd) settings d).2.tree :=
    congrArg Prod.snd (follows_run settings (Desk.mirrors_world cwd) d)
  rw [← hrun]
  rcases hprepare : d.tree.makeDirectories cwd settings.output with ⟨prepared, _ | cause⟩
  · rw [run_world_of_prepared hprepare]
    cases texts settings cwd prepared (Source.selected settings.events) with
    | error e => exact .inl rfl
    | ok read =>
      obtain ⟨answer, hpublish, -⟩ := publish_world settings cwd prepared (.ofTexts .known settings.events read)
      exact .inr ⟨.ofTexts .known settings.events read, congrArg Prod.snd hpublish⟩
  · rw [run_world_of_unprepared hprepare]
    exact .inl rfl

/-- If every source has been read, each file that is attempted and can be written is there in the end. -/
theorem tree_run_of_texts {d : Desk} (hprepare : d.tree.makeDirectories cwd settings.output = (prepared, none))
    (hread : texts settings cwd prepared (Source.selected settings.events) = .ok read) :
    (run (Desk.world cwd) settings d).2.tree =
      prepared.putFiles (prepared.targets cwd
        (attempted settings cwd (.ofTexts .known settings.events read) prepared)) := by
  have hrun := follows_run settings (Desk.mirrors_world cwd) d
  rw [run_world_of_prepared hprepare, hread] at hrun
  obtain ⟨answer, hpublish, -⟩ := publish_world settings cwd prepared (.ofTexts .known settings.events read)
  exact (congrArg Prod.snd (hpublish.symm.trans hrun)).symm

/-! ### Trees in which one source has a text -/

theorem sorted_of_singleton {f : BoundFunction} (hfunctions : found.functions = [f]) (hevents : found.events = []) :
    found.sorted = ⟨[f], []⟩ := by
  rw [Findings.sorted, hfunctions, hevents, sortFunctions, sortEvents, List.mergeSort_singleton, List.mergeSort_nil]

/-- Each source with its text: that of the scope `Mob` has the given one, and the others have none. -/
def mobTexts (text : Text) : List (Source × Text) :=
  (Source.selected false).map fun source => (source, if source.scope = "Mob".toList then text else [])

/-- The tree with these texts. -/
def mobTree (text : Text) : FileTree :=
  (["src".toList], .directory) :: (["src".toList, "zone".toList], .directory) ::
    (mobTexts text).map fun (source, text) => ("src".toList :: Pathname.names source.path, .file text.toBytes)

end Run

end BindingDocs
