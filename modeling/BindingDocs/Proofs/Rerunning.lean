import BindingDocs.Proofs.Outcome
import BindingDocs.Proofs.Pathnames

/-!
# Running once more

A run does not change what it reads: no page is called like a source (`not_samePlace_page`).  Nor does it change where
a file can be written, since it removes no directory and makes none but those on the way to the output.  So unless the
manifest is one of the sources, a second run finds what the first one found, writes the same files once more, and
succeeds if the first one did (`run_twice`).
-/

namespace BindingDocs

namespace FileTree

/-- The two path names mean the same place. -/
def SamePlace (t : FileTree) (cwd : Place) (path path' : Text) : Prop :=
  ∃ p, t.locate cwd path = .ok p ∧ t.locate cwd path' = .ok p

instance (t : FileTree) (cwd : Place) (path path' : Text) : Decidable (t.SamePlace cwd path path') :=
  decidable_of_iff (∃ p ∈ (t.locate cwd path).toOption, (t.locate cwd path').toOption = some p) (by
    unfold SamePlace
    cases t.locate cwd path <;> cases t.locate cwd path' <;> simp [Except.toOption, eq_comm])

end FileTree

namespace Settings

/-- What the path name of a source ends with. -/
def sourceExtension : Text := ".cpp".toList

theorem isSuffix_sourcePath (settings : Settings) {source : Source} (h : source ∈ Source.selected settings.events) :
    sourceExtension <:+ settings.sourcePath source := by
  have hall : ∀ source ∈ Source.all, sourceExtension <:+ source.path := by decide
  exact Pathname.isSuffix_join (hall source (List.mem_filter.1 h).1) settings.root

end Settings

namespace Run

variable {settings : Settings} {cwd : Place} {t t' prepared : FileTree} {found : Findings}

/-- No page is in the file of a source. -/
theorem not_samePlace_page {source : Source} (h : source ∈ Source.selected settings.events) (stem : Text) :
    ¬ t.SamePlace cwd (Pathname.join settings.output (PageName.ofStem stem)) (settings.sourcePath source) := by
  rintro ⟨p, hpage, hsource⟩
  have hextension : PageName.extension <:+ Pathname.join settings.output (PageName.ofStem stem) :=
    Pathname.isSuffix_join (List.suffix_append _ _) settings.output
  obtain ⟨q, y, rfl⟩ := FileTree.exists_of_locate (by decide) (by decide) hextension hpage
  obtain ⟨q', y', hsame⟩ := FileTree.exists_of_locate (by decide) (by decide) (settings.isSuffix_sourcePath h) hsource
  have hlast := congrArg List.getLast? (List.append_inj_right' hsame rfl)
  have hname : y ++ PageName.extension = y' ++ Settings.sourceExtension := by simpa using hlast
  have hpageLast : PageName.extension.getLast? = some 'd' := rfl
  have hsourceLast : Settings.sourceExtension.getLast? = some 'p' := rfl
  have hchar := congrArg List.getLast? hname
  rw [List.getLast?_append, List.getLast?_append, hpageLast, hsourceLast] at hchar
  exact absurd (Option.some.inj hchar) (by decide)

/-- What a run attempts to write leaves each source as it is, unless that is the manifest. -/
theorem read_putFiles_attempted {source : Source} {bytes : Bytes} (h : source ∈ Source.selected settings.events)
    (hmanifest : ¬ t.SamePlace cwd settings.manifest (settings.sourcePath source))
    (hread : t.read cwd (settings.sourcePath source) = .ok bytes) :
    (t.putFiles (t.targets cwd (attempted settings cwd found t))).read cwd (settings.sourcePath source) =
      .ok bytes := by
  refine (FileTree.sameDirectories_putFiles_targets t cwd _).read_eq_ok (fun p hlocate => ?_) hread
  refine FileTree.get?_putFiles_of_ne (fun file hfile => ?_) t
  refine ⟨FileTree.ne_nil_of_get? (FileTree.get?_of_mem_targets hfile), ?_⟩
  rintro rfl
  obtain ⟨path, hpath, htarget⟩ := FileTree.mem_targets.1 hfile
  have hplace := (FileTree.target?_eq_some_iff.1 htarget).2.1
  rcases exists_stem_of_mem_attempted hpath with rfl | ⟨stem, rfl⟩
  · exact hmanifest ⟨file.1, hplace, hlocate⟩
  · exact not_samePlace_page h stem ⟨file.1, hplace, hlocate⟩

/-- Publishing the same once more changes nothing, and succeeds if it did. -/
theorem publish_twice {first second : Except RunError Unit × FileTree}
    (hfirst : publish (FileTree.world cwd) settings found t = first)
    (hsecond : publish (FileTree.world cwd) settings found first.2 = second) :
    (∀ p, second.2.get? p = first.2.get? p) ∧ (second.1 = .ok () ↔ first.1 = .ok ()) := by
  obtain ⟨answer, hwritten, hanswer⟩ := publish_world settings cwd t found
  obtain rfl := hwritten.symm.trans hfirst
  have hsame := FileTree.sameDirectories_putFiles_targets t cwd (attempted settings cwd found t)
  obtain ⟨answer', hagain, hanswer'⟩ := publish_world settings cwd
    (t.putFiles (t.targets cwd (attempted settings cwd found t))) found
  rw [attempted_congr hsame, hsame.targets_eq] at hagain
  rw [hsame.target?_eq] at hanswer'
  obtain rfl := hagain.symm.trans hsecond
  refine ⟨FileTree.get?_putFiles_putFiles (fun file hfile => ?_) t, hanswer'.trans hanswer.symm⟩
  exact FileTree.ne_nil_of_get? (FileTree.get?_of_mem_targets hfile)

/-- After publishing, everything that was prepared and read can be prepared and read once more. -/
theorem run_world_of_publish {read : List (Source × Text)} {done : Except RunError Unit × FileTree}
    (hprepare : t.makeDirectories cwd settings.output = (prepared, none))
    (hread : texts settings cwd prepared (Source.selected settings.events) = .ok read)
    (hmanifest : ∀ source ∈ Source.selected settings.events,
      ¬ prepared.SamePlace cwd settings.manifest (settings.sourcePath source))
    (hdone : publish (FileTree.world cwd) settings (.ofTexts .known settings.events read) prepared = done) :
    run (FileTree.world cwd) settings done.2 =
      publish (FileTree.world cwd) settings (.ofTexts .known settings.events read) done.2 := by
  obtain ⟨answer, hwritten, -⟩ := publish_world settings cwd prepared (.ofTexts .known settings.events read)
  obtain rfl := hwritten.symm.trans hdone
  have hsame := FileTree.sameDirectories_putFiles_targets prepared cwd
    (attempted settings cwd (.ofTexts .known settings.events read) prepared)
  rw [run_world_of_prepared (FileTree.makeDirectories_of_keeps hprepare hsame.keeps)]
  rw [texts_eq_ok (fun source hsource _ => read_putFiles_attempted hsource (hmanifest source hsource)) hread]

theorem run_world_twice {first second : Except RunError Unit × FileTree}
    (hmanifest : ∀ source ∈ Source.selected settings.events,
      ¬ (t.makeDirectories cwd settings.output).1.SamePlace cwd settings.manifest (settings.sourcePath source))
    (hfirst : run (FileTree.world cwd) settings t = first)
    (hsecond : run (FileTree.world cwd) settings first.2 = second) :
    (∀ p, second.2.get? p = first.2.get? p) ∧ (second.1 = .ok () ↔ first.1 = .ok ()) := by
  rcases hprepare : t.makeDirectories cwd settings.output with ⟨prepared, _ | cause⟩
  · rw [hprepare] at hmanifest
    have hrun := run_world_of_prepared hprepare
    cases hread : texts settings cwd prepared (Source.selected settings.events) with
    | error e =>
      rw [hread] at hrun
      obtain rfl := hrun.symm.trans hfirst
      have hrerun := run_world_of_prepared (FileTree.makeDirectories_of_keeps hprepare fun _ h => h)
      rw [hread] at hrerun
      obtain rfl := hrerun.symm.trans hsecond
      exact ⟨fun _ => rfl, Iff.rfl⟩
    | ok read =>
      rw [hread] at hrun
      have hpublish : publish (FileTree.world cwd) settings (.ofTexts .known settings.events read) prepared = first :=
        hrun.symm.trans hfirst
      rw [run_world_of_publish hprepare hread hmanifest hpublish] at hsecond
      exact publish_twice hpublish hsecond
  · obtain ⟨cause', hremake⟩ := FileTree.makeDirectories_of_error hprepare
    obtain rfl := (run_world_of_unprepared hprepare).symm.trans hfirst
    obtain rfl := (run_world_of_unprepared hremake).symm.trans hsecond
    exact ⟨fun _ => rfl, by simp⟩

/-- Unless the manifest is one of the sources, a second run leaves everything as the first one left it, and succeeds if
the first one did. -/
theorem run_twice (settings : Settings) (cwd : Place) (d : Desk)
    (hmanifest : ∀ source ∈ Source.selected settings.events,
      ¬ (d.tree.makeDirectories cwd settings.output).1.SamePlace cwd settings.manifest (settings.sourcePath source)) :
    let first := run (Desk.world cwd) settings d
    let second := run (Desk.world cwd) settings first.2
    (∀ p, second.2.tree.get? p = first.2.tree.get? p) ∧ (second.1 = .ok () ↔ first.1 = .ok ()) := by
  intro first second
  have hfirst : run (FileTree.world cwd) settings d.tree = (first.1, first.2.tree) :=
    follows_run settings (Desk.mirrors_world cwd) d
  have hsecond : run (FileTree.world cwd) settings first.2.tree = (second.1, second.2.tree) :=
    follows_run settings (Desk.mirrors_world cwd) first.2
  exact run_world_twice hmanifest hfirst hsecond

/-- A source with one function. -/
def hitText : Text := "Perl_croak(aTHX_ \"Usage: Mob::Hit()\");\n".toList

/-- The pages are put beside the sources, and the manifest takes the place of the page of a scope. -/
def inPlace : Settings := ⟨"src".toList, "src/zone".toList, "src/zone/Perl-Mob.md".toList, false, "T".toList⟩

private theorem sorted_hitFound : (Findings.ofTexts .known false (mobTexts hitText)).sorted =
    ⟨[⟨"$mob->".toList, "Hit".toList, "Mob".toList, none, []⟩], []⟩ :=
  sorted_of_singleton (by decide +kernel) (by decide +kernel)

/-- The page of the scope and the manifest are one file, which is written twice in each run. -/
theorem run_twice_in_place :
    let tree := mobTree hitText
    (tree.makeDirectories [] inPlace.output = (tree, none) ∧
      texts inPlace [] tree (Source.selected inPlace.events) = .ok (mobTexts hitText) ∧
      ((attempted inPlace [] (.ofTexts .known inPlace.events (mobTexts hitText)) tree).map Prod.fst).count
        inPlace.manifest = 2) ∧
    (∀ source ∈ Source.selected inPlace.events,
      ¬ (tree.makeDirectories [] inPlace.output).1.SamePlace [] inPlace.manifest (inPlace.sourcePath source)) ∧
    (∀ p, (run (Desk.world []) inPlace (run (Desk.world []) inPlace ⟨tree, []⟩).2).2.tree.get? p =
      (run (Desk.world []) inPlace ⟨tree, []⟩).2.tree.get? p) ∧
    ((run (Desk.world []) inPlace (run (Desk.world []) inPlace ⟨tree, []⟩).2).1 = .ok () ↔
      (run (Desk.world []) inPlace ⟨tree, []⟩).1 = .ok ()) := by
  intro tree
  have hprepare : tree.makeDirectories [] inPlace.output = (tree, none) := by decide +kernel
  have hread : texts inPlace [] tree (Source.selected inPlace.events) = .ok (mobTexts hitText) := by decide +kernel
  have hshared : ((attempted inPlace [] (.ofTexts .known inPlace.events (mobTexts hitText)) tree).map Prod.fst).count
      inPlace.manifest = 2 := by
    have hevents : inPlace.events = false := rfl
    unfold attempted
    rw [hevents, sorted_hitFound]
    decide +kernel
  have hmanifest : ∀ source ∈ Source.selected inPlace.events,
      ¬ (tree.makeDirectories [] inPlace.output).1.SamePlace [] inPlace.manifest (inPlace.sourcePath source) := by
    decide +kernel
  exact ⟨⟨hprepare, hread, hshared⟩, hmanifest, run_twice inPlace [] ⟨tree, []⟩ hmanifest⟩

end Run

end BindingDocs
