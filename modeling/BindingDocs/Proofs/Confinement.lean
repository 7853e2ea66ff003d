import BindingDocs.Proofs.Outcome
import BindingDocs.Proofs.RootedTrees

/-!
# Where a run writes

A page name may hold anything that a source has as the name of a function, also slashes and ways up.  But its first part
begins like every page name, and the parts after it can only be reached through a directory of that name inside the
output directory.  As long as there is no directory inside the output directory, each page is put right there
(`HasNoSubdirectory.exists_eq_append`), and a run changes nothing but what is its own (`run_confined`).  If the path
name of the output has a way up, making it may leave a directory inside, through which a page can get out
(`exists_change_elsewhere`).
-/

namespace BindingDocs

namespace FileTree

variable {t : FileTree} {cwd p q : Place} {directory stem name : Text} {names : List Text}

/-- If there is no directory inside, nothing is reached through a name in the directory. -/
theorem HasNoSubdirectory.walk_cons_ne (h : t.HasNoSubdirectory cwd directory)
    (hwalk : t.walk (origin cwd directory) (Pathname.names directory) = .ok q) (hname : Pathname.IsPlain name)
    (hnames : names ≠ []) : t.walk q (name :: names) ≠ .ok p := by
  intro hthrough
  obtain ⟨next, rest, rfl⟩ := List.exists_cons_of_ne_nil hnames
  obtain ⟨r, henter, hbeyond⟩ := walk_cons_eq_ok_iff.1 hthrough
  obtain ⟨_, hnext, -⟩ := walk_cons_eq_ok_iff.1 hbeyond
  obtain rfl := enter_plain hname henter
  exact h q name hwalk (enter_eq_ok_iff.1 hnext).1

/-- If there is no directory inside, a page is right in the directory, whatever its name. -/
theorem HasNoSubdirectory.exists_eq_append (h : t.HasNoSubdirectory cwd directory)
    (hlocate : t.locate cwd (Pathname.join directory (PageName.ofStem stem)) = .ok p) :
    ∃ q, t.walk (origin cwd directory) (Pathname.names directory) = .ok q ∧ p = q ++ [PageName.ofStem stem] := by
  by_cases hslash : '/' ∈ stem
  · -- the part before the first slash would be a directory
    obtain ⟨first, rest, rfl, hfirst⟩ := List.eq_append_cons_of_mem hslash
    have hname : PageName.ofStem (first ++ '/' :: rest) =
        (PageName.start ++ first) ++ '/' :: (rest ++ PageName.extension) := by simp [PageName.ofStem]
    have hplain : Pathname.IsPlain (PageName.start ++ first) := by
      refine PageName.isPlain_of_notMem (List.prefix_append _ _) ?_
      rw [List.mem_append, not_or]
      exact ⟨by decide, hfirst⟩
    have hextension : '/' ∉ PageName.extension := by decide
    obtain ⟨front, y, hrest⟩ := Pathname.exists_names_append hextension (by decide) rest
    obtain ⟨q, hwalk, hthrough⟩ := walk_of_locate_join rfl hlocate
    rw [hname, Pathname.names_append_slash, Pathname.names_of_notMem hplain.notMem hplain.ne_nil, hrest] at hthrough
    exact absurd hthrough (h.walk_cons_ne hwalk hplain (by simp))
  · refine locate_join_plain (PageName.isPlain_of_notMem ?_ ?_) hlocate
    · rw [PageName.ofStem, List.append_assoc]
      exact List.prefix_append _ _
    · rw [PageName.ofStem, List.mem_append, List.mem_append, not_or, not_or]
      exact ⟨⟨by decide, hslash⟩, by decide⟩

end FileTree

namespace Run

variable {settings : Settings} {cwd : Place} {before prepared after : FileTree} {found : Findings} {p : Place}

/-- The places that a run may change: the output directory and the missing ones on the way to it, pages right in it,
and the manifest. -/
inductive IsOwn (settings : Settings) (cwd : Place) (before after : FileTree) : Place → Prop
  | directory {p : Place} (hnew : before.get? p = none) (hmade : after.get? p = some .directory)
      (hway : after.OnWay (FileTree.origin cwd settings.output) (Pathname.steps settings.output) p) :
      IsOwn settings cwd before after p
  | page {q : Place} (stem : Text)
      (hwalk : after.walk (FileTree.origin cwd settings.output) (Pathname.names settings.output) = .ok q) :
      IsOwn settings cwd before after (q ++ [PageName.ofStem stem])
  | manifest {p : Place} (hlocate : after.locate cwd settings.manifest = .ok p) : IsOwn settings cwd before after p

/-- Each file that is put in the prepared tree is a page right in the output directory, or the manifest. -/
theorem isOwn_of_mem_targets (hnone : prepared.HasNoSubdirectory cwd settings.output)
    (hkeeps : FileTree.KeepsDirectories prepared after) {file : Place × Bytes}
    (hfile : file ∈ prepared.targets cwd (attempted settings cwd found prepared)) :
    IsOwn settings cwd before after file.1 := by
  obtain ⟨path, hpath, htarget⟩ := FileTree.mem_targets.1 hfile
  obtain ⟨-, hlocate, -⟩ := FileTree.target?_eq_some_iff.1 htarget
  rcases exists_stem_of_mem_attempted hpath with rfl | ⟨stem, rfl⟩
  · exact .manifest (hkeeps.locate hlocate)
  · obtain ⟨q, hwalk, hplace⟩ := hnone.exists_eq_append hlocate
    rw [hplace]
    exact .page stem (hkeeps.walk hwalk)

/-- What making the output directory changes is on the way to it. -/
theorem isOwn_of_prepared (hprepare : (before.makeDirectories cwd settings.output).1 = prepared)
    (hkeeps : FileTree.KeepsDirectories prepared after) (hsame : after.get? p = prepared.get? p)
    (hchanged : after.get? p ≠ before.get? p) : IsOwn settings cwd before after p := by
  have hextends := FileTree.extends_makeDirectories before cwd settings.output
  rw [hprepare] at hextends
  rcases hextends p with hold | ⟨hnew, hmade, way, hway, hwalk⟩
  · exact absurd (hsame.trans hold) hchanged
  · exact .directory hnew (hsame.trans hmade) ⟨way, hway, hkeeps.walk hwalk⟩

/-- A run keeps a tree rooted, whether it succeeds or not. -/
theorem isRooted_run (settings : Settings) (cwd : Place) {d : Desk} (hroot : d.tree.IsRooted) :
    (run (Desk.world cwd) settings d).2.tree.IsRooted := by
  have hprepared := FileTree.isRooted_makeDirectories hroot cwd settings.output
  rcases tree_run settings cwd d with hafter | ⟨found, hafter⟩
  · rw [hafter]
    exact hprepared
  · rw [hafter]
    exact FileTree.isRooted_putFiles_targets hprepared cwd _

/-- The tree after a run. -/
def afterRun (settings : Settings) (cwd : Place) (t : RootedTree) (log : List Log.Entry) : RootedTree where
  tree := (run (Desk.world cwd) settings ⟨t.tree, log⟩).2.tree
  isRooted := isRooted_run settings cwd t.isRooted

theorem tree_afterRun (settings : Settings) (cwd : Place) (t : RootedTree) (log : List Log.Entry) :
    (afterRun settings cwd t log).tree = (run (Desk.world cwd) settings ⟨t.tree, log⟩).2.tree := rfl

/-- Unless there is a directory inside the output directory, a run changes nothing but its own places.  Without a way up
in the path name of the output, it is enough that there is none at first. -/
theorem run_confined (settings : Settings) (cwd : Place) (t : RootedTree) (log : List Log.Entry)
    (hnone : t.tree.HasNoSubdirectory cwd settings.output)
    (hmade : Pathname.above ∈ Pathname.names settings.output →
      (t.tree.makeDirectories cwd settings.output).1.HasNoSubdirectory cwd settings.output) :
    let after := afterRun settings cwd t log
    ∀ p, after.tree.get? p ≠ t.tree.get? p → IsOwn settings cwd t.tree after.tree p := by
  intro after p hchanged
  have hprepared : (t.tree.makeDirectories cwd settings.output).1.HasNoSubdirectory cwd settings.output := by
    by_cases hup : Pathname.above ∈ Pathname.names settings.output
    · exact hmade hup
    · exact FileTree.hasNoSubdirectory_makeDirectories t.isRooted hup hnone
  have htree := tree_run settings cwd ⟨t.tree, log⟩
  rw [← tree_afterRun] at htree
  generalize hprepare : (t.tree.makeDirectories cwd settings.output).1 = prepared at hprepared htree
  rcases htree with hafter | ⟨found, hafter⟩
  · exact isOwn_of_prepared hprepare (fun q hq => hafter ▸ hq) (hafter ▸ rfl) hchanged
  · have hkeeps : FileTree.KeepsDirectories prepared after.tree := by
      rw [hafter]
      exact (FileTree.sameDirectories_putFiles_targets prepared cwd _).keeps
    by_cases hfile : ∃ file ∈ prepared.targets cwd (attempted settings cwd found prepared), file.1 = p
    · obtain ⟨file, hmem, rfl⟩ := hfile
      exact isOwn_of_mem_targets hprepared hkeeps hmem
    · refine isOwn_of_prepared hprepare hkeeps ?_ hchanged
      rw [hafter]
      refine FileTree.get?_putFiles_of_ne (fun file hmem => ?_) prepared
      exact ⟨FileTree.ne_nil_of_get? (FileTree.get?_of_mem_targets hmem), fun hp => hfile ⟨file, hmem, hp⟩⟩

/-! ### A way out -/

/-- The name of the function leads out of a directory. -/
def climbingText : Text := "Perl_croak(aTHX_ \"Usage: Mob::x/../../evil()\");\n".toList

/-- The tree of the sources. -/
def climbing : RootedTree where
  tree := mobTree climbingText
  isRooted := FileTree.isRooted_of_forall (by decide +kernel)

/-- What a run on it is told. -/
def climbingSettings (output : String) : Settings :=
  ⟨"src".toList, output.toList, "m.yml".toList, false, "T".toList⟩

/-- The tree after the run. -/
def climbed (output : String) : RootedTree := afterRun (climbingSettings output) [] climbing []

/-- The name of the function does not lead out of a directory without subdirectories. -/
theorem run_confined_climbing :
    climbing.tree.HasNoSubdirectory [] "a".toList ∧ Pathname.above ∉ Pathname.names "a".toList ∧
      ∀ p, (climbed "a").tree.get? p ≠ climbing.tree.get? p →
        IsOwn (climbingSettings "a") [] climbing.tree (climbed "a").tree p := by
  have hnone : climbing.tree.HasNoSubdirectory [] "a".toList :=
    FileTree.hasNoSubdirectory_of_forall (by decide +kernel)
  have hup : Pathname.above ∉ Pathname.names "a".toList := by decide
  exact ⟨hnone, hup, run_confined (climbingSettings "a") [] climbing [] hnone fun h => absurd h hup⟩

/-- A path name of the output that makes a directory inside it. -/
def wayOut : String := "a/Perl-Mob-x/.."

/-- The tree in which it has been made. -/
def opened : FileTree :=
  climbing.tree ++ [(["a".toList], .directory), (["a".toList, "Perl-Mob-x".toList], .directory)]

/-- What the sources document. -/
def climbingFound : Findings := .ofTexts .known false (mobTexts climbingText)

private theorem climbed_wayOut : (climbed wayOut).tree =
    opened.putFiles (opened.targets [] (attempted (climbingSettings wayOut) [] climbingFound opened)) := by
  have hprepare : climbing.tree.makeDirectories [] (climbingSettings wayOut).output = (opened, none) := by
    decide +kernel
  have hread : texts (climbingSettings wayOut) [] opened (Source.selected (climbingSettings wayOut).events) =
      .ok (mobTexts climbingText) := by decide +kernel
  rw [climbed, tree_afterRun]
  exact tree_run_of_texts hprepare hread

private theorem sorted_climbingFound :
    climbingFound.sorted = ⟨[⟨"$mob->".toList, "x/../../evil".toList, "Mob".toList, none, []⟩], []⟩ :=
  sorted_of_singleton (by decide +kernel) (by decide +kernel)

/-- The page of the function is put beside the output directory. -/
private theorem evil_mem_targets :
    ∃ content, (["evil.md".toList], content) ∈
      opened.targets [] (attempted (climbingSettings wayOut) [] climbingFound opened) := by
  have hpath : "a/Perl-Mob-x/../Perl-Mob-x/../../evil.md".toList ∈
      (attempted (climbingSettings wayOut) [] climbingFound opened).map Prod.fst := by
    unfold attempted
    rw [sorted_climbingFound]
    decide +kernel
  have htarget : opened.target? [] "a/Perl-Mob-x/../Perl-Mob-x/../../evil.md".toList = some ["evil.md".toList] := by
    decide +kernel
  obtain ⟨file, hfile, hname⟩ := List.mem_map.1 hpath
  exact ⟨file.2, FileTree.mem_targets.2 ⟨file.1, hfile, hname ▸ htarget⟩⟩

/-- The output directory is absent at first, and yet the page of a function gets out of it. -/
theorem exists_change_elsewhere :
    climbing.tree.HasNoSubdirectory [] (climbingSettings wayOut).output ∧
      (climbed wayOut).tree.get? ["evil.md".toList] ≠ climbing.tree.get? ["evil.md".toList] ∧
      ¬ IsOwn (climbingSettings wayOut) [] climbing.tree (climbed wayOut).tree ["evil.md".toList] := by
  obtain ⟨content, hcontent⟩ : ∃ content, (climbed wayOut).tree.get? ["evil.md".toList] = some (.file content) := by
    obtain ⟨content, hmem⟩ := evil_mem_targets
    rw [climbed_wayOut]
    exact FileTree.exists_get?_putFiles (fun file hfile => FileTree.ne_nil_of_get? (FileTree.get?_of_mem_targets hfile))
      opened hmem
  have hold : climbing.tree.get? ["evil.md".toList] = none := by decide +kernel
  have hsame : FileTree.SameDirectories opened (climbed wayOut).tree := by
    rw [climbed_wayOut]
    exact FileTree.sameDirectories_putFiles_targets opened [] _
  have hmanifest : opened.locate [] (climbingSettings wayOut).manifest = .ok ["m.yml".toList] := by decide +kernel
  refine ⟨FileTree.hasNoSubdirectory_of_forall (by decide +kernel), ?_, ?_⟩
  · rw [hcontent, hold]
    nofun
  · generalize hp : ["evil.md".toList] = p at hcontent
    rintro (⟨-, hmade, -⟩ | ⟨stem, -⟩ | hlocate)
    · rw [hcontent] at hmade
      cases hmade
    · have hname : "evil.md".toList = PageName.ofStem stem := by simpa using congrArg List.getLast? hp
      have hfirst : some 'e' = some 'P' := congrArg List.head? hname
      exact absurd hfirst (by decide)
    · rw [← hsame.locate_eq_ok_iff, hmanifest] at hlocate
      exact absurd (hp.trans (Except.ok.inj hlocate).symm) (by decide)

end Run

end BindingDocs
