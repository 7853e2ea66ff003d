import BindingDocs.Proofs.Pathnames
import BindingDocs.Proofs.Preparing

/-!
# Rooted trees

In a file system everything is in a directory, up to the root.  A `RootedTree` is a file tree with this property.
Making directories (`isRooted_makeDirectories`) and writing files (`isRooted_putFiles_targets`) keep it, since a place
that can be reached by names is in a directory (`IsRooted.parent_of_walk`).  In a rooted tree no directory is made
inside the one that is wanted, unless its path name has a way up (`hasNoSubdirectory_makeDirectories`).
-/

namespace BindingDocs

namespace FileTree

/-- Nothing is at a place unless the place is in a directory. -/
def IsRooted (t : FileTree) : Prop := ∀ p name, (t.get? (p ++ [name])).isSome → t.get? p = some .directory

end FileTree

/-- A file tree in which everything is in a directory. -/
structure RootedTree where
  tree : FileTree
  isRooted : tree.IsRooted

namespace Pathname

/-- A path name without names is that of the root. -/
theorem isAbsolute_of_names_eq_nil {path : Text} (hne : path ≠ []) (h : names path = []) : isAbsolute path = true := by
  obtain ⟨c, rest, rfl⟩ := List.exists_cons_of_ne_nil hne
  by_cases hc : c = '/'
  · simp [isAbsolute, hc]
  · obtain ⟨first, pieces, hsplit⟩ := List.exists_cons_of_ne_nil (List.splitOn_ne_nil '/' rest)
    have hpieces : (c :: rest).splitOn '/' = (c :: first) :: pieces := by
      rw [List.splitOn_eq_splitOnP] at hsplit ⊢
      rw [List.splitOnP_cons_eq_if_modifyHead, if_neg (by simpa using hc), hsplit]
      rfl
    rw [names, hpieces] at h
    simp at h

end Pathname

namespace FileTree

variable {start cwd p q : Place} {names : List Text} {name path : Text} {t t' : FileTree} {n : Node}

/-! ### What keeps a tree rooted -/

theorem origin_eq_nil (hne : path ≠ []) (h : Pathname.names path = []) : origin cwd path = [] :=
  if_pos (Pathname.isAbsolute_of_names_eq_nil hne h)

theorem IsRooted.parent (hroot : t.IsRooted) (h : t.get? (p ++ [name]) = some n) : t.get? p = some .directory :=
  hroot p name (Option.isSome_of_eq_some h)

/-- What is reached by names is in a directory. -/
theorem IsRooted.parent_of_walk (hroot : t.IsRooted) (hstart : names = [] → start = [])
    (h : t.walk start names = .ok (q ++ [name])) : t.get? q = some .directory := by
  cases names using List.reverseRecOn with
  | nil =>
    obtain rfl := hstart rfl
    exact absurd (Except.ok.inj h).symm (by simp)
  | append_singleton names last =>
    obtain ⟨r, -, henter⟩ := walk_concat_eq_ok_iff.1 h
    obtain ⟨hr, hstep⟩ := enter_eq_ok_iff.1 henter
    -- the last name stays in `r`, goes up from there, or is the name of the place in `r`
    rcases hstep with ⟨-, rfl⟩ | ⟨-, hup⟩ | ⟨-, hdown⟩
    · exact hroot.parent hr
    · obtain ⟨outer, inner, rfl⟩ : ∃ outer inner, r = outer ++ [inner] := by
        refine (List.eq_nil_or_concat' r).resolve_left ?_
        rintro rfl
        simp at hup
      rw [List.dropLast_concat] at hup
      subst hup
      exact hroot.parent (hroot.parent hr)
    · obtain ⟨rfl, -⟩ := List.append_inj' hdown rfl
      exact hr

/-- A node that is put into a directory, where none was, keeps the tree rooted. -/
theorem IsRooted.set (hroot : t.IsRooted) (hp : t.get? p ≠ some .directory)
    (hparent : ∀ q name, p = q ++ [name] → t.get? q = some .directory) (n : Node) : (t.set p n).IsRooted := by
  intro q name hsome
  rw [get?_set (ne_nil_of_get? hp)] at hsome ⊢
  have hq : t.get? q = some .directory := by
    split at hsome
    · exact hparent q name (Eq.symm ‹_›)
    · exact hroot q name hsome
  have hqp : q ≠ p := fun h => hp (h ▸ hq)
  rw [if_neg hqp, hq]

theorem isRooted_settleDirectory (hroot : t.IsRooted) (hstart : names = [] → start = []) :
    (t.settleDirectory start names).1.IsRooted := by
  rcases settleDirectory_cases t start names with ⟨p, hwalk, hp, h⟩ | ⟨-, h⟩ | ⟨-, e, h⟩
  · rw [h]
    refine hroot.set (by simp [hp]) ?_ _
    rintro q name rfl
    exact hroot.parent_of_walk hstart hwalk
  · rw [h]
    exact hroot
  · rw [h]
    exact hroot

theorem isRooted_makeDirectoryAfter {outer : FileTree → FileTree × Option FileError} (hroot : t.IsRooted)
    (hstart : names = [] → start = []) (houter : (outer t).1.IsRooted) :
    (t.makeDirectoryAfter start names outer).1.IsRooted := by
  rcases makeDirectoryAfter_cases t start names outer with ⟨-, h⟩ | ⟨-, e, -, h⟩ | ⟨-, -, h⟩
  · rw [h]
    exact isRooted_settleDirectory hroot hstart
  · rw [h]
    exact houter
  · rw [h]
    exact isRooted_settleDirectory houter hstart

theorem isRooted_makeWay (hroot : t.IsRooted) (start : Place) (names : List Text) :
    (makeWay start names t).1.IsRooted := by
  induction names with
  | nil => exact hroot
  | cons name outer ih => exact isRooted_makeDirectoryAfter hroot (by simp) ih

theorem isRooted_makeDirectories (hroot : t.IsRooted) (cwd : Place) (path : Text) :
    (t.makeDirectories cwd path).1.IsRooted := by
  unfold makeDirectories
  split_ifs with hempty
  · exact hroot
  · exact hroot
  · exact hroot
  · exact isRooted_makeDirectoryAfter hroot (origin_eq_nil hempty) (isRooted_makeWay hroot _ _)

/-- Files that are written keep the tree rooted. -/
theorem isRooted_putFiles_targets (hroot : t.IsRooted) (cwd : Place) (files : List (Text × Bytes)) :
    (t.putFiles (t.targets cwd files)).IsRooted := by
  have hsame := sameDirectories_putFiles_targets t cwd files
  intro q name hsome
  rw [← hsame q]
  by_cases hfile : ∃ file ∈ t.targets cwd files, file.1 = q ++ [name]
  · obtain ⟨file, hmem, hplace⟩ := hfile
    obtain ⟨path, -, htarget⟩ := mem_targets.1 hmem
    obtain ⟨-, hlocate, -⟩ := target?_eq_some_iff.1 htarget
    rw [hplace] at hlocate
    exact hroot.parent_of_walk (origin_eq_nil (ne_nil_of_locate hlocate)) (walk_of_locate hlocate)
  · have hold : (t.putFiles (t.targets cwd files)).get? (q ++ [name]) = t.get? (q ++ [name]) := by
      refine get?_putFiles_of_ne (fun file hmem => ⟨ne_nil_of_get? (get?_of_mem_targets hmem), fun hplace => ?_⟩) t
      exact hfile ⟨file, hmem, hplace⟩
    rw [hold] at hsome
    exact hroot q name hsome

/-! ### Trees that are given entry by entry -/

theorem mem_of_get? {node : Node} (h : t.get? (p ++ [name]) = some node) : (p ++ [name], node) ∈ t := by
  unfold get? at h
  rw [if_neg (List.append_ne_nil_of_right_ne_nil p (List.cons_ne_nil name []))] at h
  obtain ⟨before, after, hsplit, -⟩ := List.lookup_eq_some_iff.1 h
  rw [hsplit]
  exact List.mem_append_right _ List.mem_cons_self

theorem isRooted_of_forall (h : ∀ entry ∈ t, t.get? entry.1.dropLast = some .directory) : t.IsRooted := by
  intro p name hp
  obtain ⟨node, hnode⟩ := Option.isSome_iff_exists.1 hp
  simpa using h _ (mem_of_get? hnode)

/-! ### What is inside the directory -/

/-- There is no directory inside the one that the path name means; there may be none at all. -/
def HasNoSubdirectory (t : FileTree) (cwd : Place) (path : Text) : Prop :=
  ∀ q name, t.walk (origin cwd path) (Pathname.names path) = .ok q → t.get? (q ++ [name]) ≠ some .directory

theorem hasNoSubdirectory_of_forall
    (h : ∀ entry ∈ t, entry.2 = .directory →
      t.walk (origin cwd path) (Pathname.names path) ≠ .ok entry.1.dropLast) : t.HasNoSubdirectory cwd path := by
  intro q name hwalk hdirectory
  refine h _ (mem_of_get? hdirectory) rfl ?_
  rw [hwalk, List.dropLast_concat]

/-- Without a way up, each name leads further down or stays where it is. -/
theorem eq_append_of_walk (hup : Pathname.above ∉ names) (h : t.walk p names = .ok q) :
    q = p ++ names.filter fun name => name != Pathname.here := by
  induction names using List.reverseRecOn generalizing q with
  | nil =>
    obtain rfl := Except.ok.inj h
    exact (List.append_nil p).symm
  | append_singleton names name ih =>
    rw [List.mem_append, not_or] at hup
    obtain ⟨r, hwalk, henter⟩ := walk_concat_eq_ok_iff.1 h
    obtain rfl := ih hup.1 hwalk
    rcases (enter_eq_ok_iff.1 henter).2 with ⟨rfl, rfl⟩ | ⟨rfl, -⟩ | ⟨⟨hname, -, -⟩, rfl⟩
    · simp
    · exact absurd List.mem_cons_self hup.2
    · simp [hname]

/-- If a directory was there already, the way that leads to it now led to it then. -/
theorem walk_of_isRooted (hroot : t.IsRooted) (hup : Pathname.above ∉ names) (h : t'.walk p names = .ok q)
    (hq : t.get? q = some .directory) : t.walk p names = .ok q := by
  induction names using List.reverseRecOn generalizing q with
  | nil => exact h
  | append_singleton names name ih =>
    rw [List.mem_append, not_or] at hup
    obtain ⟨r, hwalk, henter⟩ := walk_concat_eq_ok_iff.1 h
    have hstep := (enter_eq_ok_iff.1 henter).2
    have hr : t.get? r = some .directory := by
      rcases hstep with ⟨-, rfl⟩ | ⟨rfl, -⟩ | ⟨-, rfl⟩
      · exact hq
      · exact absurd List.mem_cons_self hup.2
      · exact hroot.parent hq
    exact walk_concat_eq_ok_iff.2 ⟨r, ih hup.1 hwalk hr, enter_eq_ok_iff.2 ⟨hr, hstep⟩⟩

theorem filter_here_steps (path : Text) :
    ((Pathname.steps path).filter fun name => name != Pathname.here) =
      (Pathname.names path).filter fun name => name != Pathname.here := by
  unfold Pathname.steps
  split
  · rename_i hnames
    rw [hnames]
  · rename_i name rest hnames
    rw [hnames]
    split_ifs with hfirst
    · have hname : name = Pathname.here := by simpa using (Bool.and_eq_true_iff.1 hfirst).2
      simp [hname]
    · simp [List.filter_cons, List.filter_filter]

theorem above_notMem_steps (hup : Pathname.above ∉ Pathname.names path) :
    Pathname.above ∉ Pathname.steps path := by
  have hfilter : Pathname.above ∉ (Pathname.steps path).filter fun name => name != Pathname.here := by
    rw [filter_here_steps]
    exact fun hmem => hup (List.mem_filter.1 hmem).1
  exact fun hmem => hfilter (List.mem_filter.2 ⟨hmem, by decide⟩)

/-- Without a way up, no directory is made inside the one that is wanted. -/
theorem hasNoSubdirectory_makeDirectories (hroot : t.IsRooted) (hup : Pathname.above ∉ Pathname.names path)
    (h : t.HasNoSubdirectory cwd path) : (t.makeDirectories cwd path).1.HasNoSubdirectory cwd path := by
  intro q name hwalk hdirectory
  rcases extends_makeDirectories t cwd path (q ++ [name]) with hsame | ⟨-, -, way, hway, hreach⟩
  · rw [hdirectory] at hsame
    have hq : t.get? q = some .directory := hroot.parent hsame.symm
    exact h q name (walk_of_isRooted hroot hup hwalk hq) hsame.symm
  · -- what is made is no deeper than the directory itself
    have hq := eq_append_of_walk hup hwalk
    have hmade := eq_append_of_walk (fun hmem => above_notMem_steps hup (hway.mem hmem)) hreach
    have hlength := (hway.filter fun name => name != Pathname.here).length_le
    rw [filter_here_steps] at hlength
    have hlong := congrArg List.length hmade
    rw [List.length_append, List.length_append, List.length_singleton] at hlong
    have hshort := congrArg List.length hq
    rw [List.length_append] at hshort
    omega

end FileTree

end BindingDocs
