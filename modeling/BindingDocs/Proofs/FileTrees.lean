import BindingDocs.FileTree
import Mathlib.Data.List.Basic

/-!
# Writing files

Writing a file puts its content at the place to which its path name leads, and changes nothing elsewhere
(`write_eq_ok_iff`, `get?_set`).  Where a path name leads depends only on which places are directories
(`SameDirectories.locate_eq_ok_iff`), and no file makes or removes one.  So of several files written one after the
other, the last one that leads to a place is what is there in the end (`read_of_writeFiles`).
-/

namespace BindingDocs.FileTree

theorem lookup_set (p q : Place) (n : Node) (t : FileTree) :
    (t.set p n).lookup q = if q = p then some n else t.lookup q := by
  induction t with
  | nil =>
    by_cases h : q = p
    · simp [set, h]
    · simp [set, h, List.lookup_cons, beq_eq_false_iff_ne.2 h]
  | cons entry t ih =>
    obtain ⟨r, m⟩ := entry
    by_cases hr : r = p
    · subst hr
      by_cases h : q = r
      · simp [set, h]
      · simp [set, h, List.lookup_cons, beq_eq_false_iff_ne.2 h]
    · have hset : set p n ((r, m) :: t) = (r, m) :: set p n t := if_neg hr
      rw [hset, List.lookup_cons, List.lookup_cons, ih]
      by_cases h : q = r
      · subst h
        simp [hr]
      · simp [beq_eq_false_iff_ne.2 h]

theorem ne_nil_of_get? {t : FileTree} {p : Place} (hp : t.get? p ≠ some .directory) : p ≠ [] := by
  rintro rfl
  exact hp rfl

theorem get?_set {p : Place} (hp : p ≠ []) (q : Place) (n : Node) (t : FileTree) :
    (t.set p n).get? q = if q = p then some n else t.get? q := by
  unfold get?
  rw [lookup_set]
  by_cases h : q = []
  · subst h
    rw [if_pos rfl, if_pos rfl, if_neg hp.symm]
  · rw [if_neg h, if_neg h]

/-! ### Ways -/

theorem enter_eq_ok_iff {t : FileTree} {p q : Place} {name : Text} :
    t.enter p name = .ok q ↔ t.get? p = some .directory ∧
      (name = Pathname.here ∧ q = p ∨ name = Pathname.above ∧ q = p.dropLast ∨
        (name ≠ Pathname.here ∧ name ≠ Pathname.above ∧ Pathname.size name ≤ nameLimit) ∧ q = p ++ [name]) := by
  have hother : Pathname.above ≠ Pathname.here := by decide
  unfold enter
  split
  · simp [*]
  · simp [*]
  · by_cases hhere : name = Pathname.here
    · subst hhere
      simp [*, hother.symm, eq_comm]
    · by_cases habove : name = Pathname.above
      · subst habove
        simp [*, eq_comm]
      · by_cases hsize : Pathname.size name ≤ nameLimit
        · simp [*, Nat.not_lt.2 hsize, eq_comm]
        · simp [*, Nat.lt_of_not_le hsize]

theorem walk_append_eq_ok_iff {t : FileTree} {p r : Place} {names names' : List Text} :
    t.walk p (names ++ names') = .ok r ↔ ∃ q, t.walk p names = .ok q ∧ t.walk q names' = .ok r := by
  have hsplit : t.walk p (names ++ names') = (t.walk p names).bind fun q => t.walk q names' := List.foldlM_append ..
  rw [hsplit]
  cases t.walk p names with
  | error e => simp [Except.bind]
  | ok q => simp [Except.bind]

theorem walk_concat_eq_ok_iff {t : FileTree} {p r : Place} {names : List Text} {name : Text} :
    t.walk p (names ++ [name]) = .ok r ↔ ∃ q, t.walk p names = .ok q ∧ t.enter q name = .ok r := by
  have hone (q : Place) : t.walk q [name] = t.enter q name := bind_pure (t.enter q name)
  simp only [walk_append_eq_ok_iff, hone]

theorem walk_cons_eq_ok_iff {t : FileTree} {p r : Place} {name : Text} {names : List Text} :
    t.walk p (name :: names) = .ok r ↔ ∃ q, t.enter p name = .ok q ∧ t.walk q names = .ok r := by
  have hone : t.walk p [name] = t.enter p name := bind_pure (t.enter p name)
  rw [← hone, ← List.singleton_append, walk_append_eq_ok_iff]

theorem ne_nil_of_locate {t : FileTree} {cwd p : Place} {path : Text} (h : t.locate cwd path = .ok p) : path ≠ [] := by
  unfold locate locateNames at h
  split_ifs at h with _ hempty
  exact hempty

theorem walk_of_locate {t : FileTree} {cwd p : Place} {path : Text} (h : t.locate cwd path = .ok p) :
    t.walk (origin cwd path) (Pathname.names path) = .ok p := by
  unfold locate locateNames at h
  split_ifs at h
  exact h

/-! ### Directories -/

/-- Every directory of the first tree is a directory of the second one. -/
def KeepsDirectories (t t' : FileTree) : Prop :=
  ∀ p : Place, t.get? p = some .directory → t'.get? p = some .directory

theorem KeepsDirectories.walk {t t' : FileTree} (h : KeepsDirectories t t') {p q : Place} {names : List Text}
    (hwalk : t.walk p names = .ok q) : t'.walk p names = .ok q := by
  induction names generalizing p with
  | nil => exact hwalk
  | cons name names ih =>
    obtain ⟨r, henter, hrest⟩ := walk_cons_eq_ok_iff.1 hwalk
    obtain ⟨hdirectory, hstep⟩ := enter_eq_ok_iff.1 henter
    exact walk_cons_eq_ok_iff.2 ⟨r, enter_eq_ok_iff.2 ⟨h p hdirectory, hstep⟩, ih hrest⟩

theorem KeepsDirectories.locate {t t' : FileTree} (h : KeepsDirectories t t') {cwd p : Place} {path : Text}
    (hlocate : t.locate cwd path = .ok p) : t'.locate cwd path = .ok p := by
  unfold FileTree.locate locateNames at hlocate ⊢
  split_ifs at hlocate ⊢
  exact h.walk hlocate

/-- The two trees have directories at the same places. -/
def SameDirectories (t t' : FileTree) : Prop :=
  ∀ p : Place, t.get? p = some .directory ↔ t'.get? p = some .directory

theorem SameDirectories.trans {t t' t'' : FileTree} (h : SameDirectories t t') (h' : SameDirectories t' t'') :
    SameDirectories t t'' := fun p => (h p).trans (h' p)

theorem SameDirectories.symm {t t' : FileTree} (h : SameDirectories t t') : SameDirectories t' t :=
  fun p => (h p).symm

theorem SameDirectories.keeps {t t' : FileTree} (h : SameDirectories t t') : KeepsDirectories t t' :=
  fun p => (h p).1

/-- Where a path name leads depends only on the directories. -/
theorem SameDirectories.locate_eq_ok_iff {t t' : FileTree} (h : SameDirectories t t') {cwd p : Place} {path : Text} :
    t.locate cwd path = .ok p ↔ t'.locate cwd path = .ok p := ⟨h.keeps.locate, h.symm.keeps.locate⟩

theorem sameDirectories_set {t : FileTree} {p : Place} (hp : t.get? p ≠ some .directory) (content : Bytes) :
    SameDirectories t (t.set p (.file content)) := by
  intro q
  rw [get?_set (ne_nil_of_get? hp)]
  split_ifs with hq
  · subst hq
    simp [hp]
  · exact Iff.rfl

/-! ### Reading and writing -/

theorem write_eq_ok_iff {t t' : FileTree} {cwd : Place} {path : Text} {content : Bytes} :
    t.write cwd path content = .ok t' ↔
      meansDirectory path = false ∧
        ∃ p, t.locate cwd path = .ok p ∧ t.get? p ≠ some .directory ∧ t' = t.set p (.file content) := by
  unfold FileTree.write
  cases hmeans : meansDirectory path with
  | true => cases t.locateParent cwd path <;> simp
  | false =>
    cases hlocate : t.locate cwd path with
    | error e => simp
    | ok p =>
      by_cases hp : t.get? p = some .directory
      · simp [hp]
      · simpa [hp] using eq_comm

theorem read_eq_ok_iff {t : FileTree} {cwd : Place} {path : Text} {content : Bytes} :
    t.read cwd path = .ok content ↔
      meansDirectory path = false ∧ ∃ p, t.locate cwd path = .ok p ∧ t.get? p = some (.file content) := by
  unfold FileTree.read
  cases hlocate : t.locate cwd path with
  | error e => simp
  | ok p =>
    cases hget : t.get? p with
    | none => simp [hget]
    | some node =>
      cases node with
      | directory => simp [hget]
      | file found => cases hmeans : meansDirectory path <;> simp [hget]

/-- A file that is left as it is can still be read if the directories are the same. -/
theorem SameDirectories.read_eq_ok {t t' : FileTree} (h : SameDirectories t t') {cwd : Place} {path : Text}
    {content : Bytes} (hsame : ∀ p, t.locate cwd path = .ok p → t'.get? p = t.get? p)
    (hread : t.read cwd path = .ok content) : t'.read cwd path = .ok content := by
  obtain ⟨hmeans, p, hlocate, hp⟩ := read_eq_ok_iff.1 hread
  exact read_eq_ok_iff.2 ⟨hmeans, p, h.keeps.locate hlocate, (hsame p hlocate).trans hp⟩

/-- The place of the file that can be written under a path name. -/
def target? (t : FileTree) (cwd : Place) (path : Text) : Option Place :=
  if meansDirectory path then none
  else
    match t.locate cwd path with
    | .error _ => none
    | .ok p => if t.get? p = some .directory then none else some p

theorem target?_eq_some_iff {t : FileTree} {cwd p : Place} {path : Text} :
    t.target? cwd path = some p ↔
      meansDirectory path = false ∧ t.locate cwd path = .ok p ∧ t.get? p ≠ some .directory := by
  unfold target?
  cases meansDirectory path with
  | true => simp
  | false =>
    cases t.locate cwd path with
    | error e => simp
    | ok q =>
      simp only [Bool.false_eq_true, if_false, true_and, Except.ok.injEq]
      rw [Option.ite_none_left_eq_some, Option.some_inj]
      constructor
      · rintro ⟨hq, rfl⟩
        exact ⟨rfl, hq⟩
      · rintro ⟨rfl, hq⟩
        exact ⟨hq, rfl⟩

/-- Where files can be written depends only on the directories. -/
theorem SameDirectories.target?_eq {t t' : FileTree} (h : SameDirectories t t') (cwd : Place) (path : Text) :
    t'.target? cwd path = t.target? cwd path := by
  ext p
  rw [target?_eq_some_iff, target?_eq_some_iff, h.locate_eq_ok_iff, ne_eq, ne_eq, h p]

theorem write_of_target? {t : FileTree} {cwd p : Place} {path : Text} (h : t.target? cwd path = some p)
    (content : Bytes) : t.write cwd path content = .ok (t.set p (.file content)) := by
  obtain ⟨hmeans, hlocate, hp⟩ := target?_eq_some_iff.1 h
  exact write_eq_ok_iff.2 ⟨hmeans, p, hlocate, hp, rfl⟩

theorem exists_write_eq_error {t : FileTree} {cwd : Place} {path : Text} (h : t.target? cwd path = none)
    (content : Bytes) : ∃ e, t.write cwd path content = .error e := by
  cases hwrite : t.write cwd path content with
  | error e => exact ⟨e, rfl⟩
  | ok t' =>
    obtain ⟨hmeans, p, hlocate, hp, -⟩ := write_eq_ok_iff.1 hwrite
    rw [target?_eq_some_iff.2 ⟨hmeans, hlocate, hp⟩] at h
    cases h

/-! ### Files at their places -/

/-- The tree with several files put at their places, one after the other. -/
def putFiles (t : FileTree) (files : List (Place × Bytes)) : FileTree :=
  files.foldl (fun t file => t.set file.1 (.file file.2)) t

/-- The last file put at a place is there, and what was there before if no file is put there. -/
theorem get?_putFiles {files : List (Place × Bytes)} (h : ∀ file ∈ files, file.1 ≠ []) (t : FileTree) (p : Place) :
    (t.putFiles files).get? p = ((files.reverse.lookup p).map Node.file).or (t.get? p) := by
  induction files generalizing t with
  | nil => rfl
  | cons file files ih =>
    obtain ⟨hfile, hfiles⟩ := List.forall_mem_cons.1 h
    obtain ⟨q, content⟩ := file
    have hstep : t.putFiles ((q, content) :: files) = (t.set q (.file content)).putFiles files := rfl
    rw [hstep, ih hfiles, get?_set hfile, List.reverse_cons, List.lookup_append]
    by_cases hp : p = q
    · subst hp
      cases files.reverse.lookup p <;> simp
    · have hnone : [(q, content)].lookup p = none := by simp [List.lookup_cons, beq_eq_false_iff_ne.2 hp]
      rw [hnone, Option.or_none, if_neg hp]

theorem exists_get?_putFiles {files : List (Place × Bytes)} (h : ∀ file ∈ files, file.1 ≠ []) (t : FileTree)
    {file : Place × Bytes} (hfile : file ∈ files) :
    ∃ content, (t.putFiles files).get? file.1 = some (.file content) := by
  rw [get?_putFiles h]
  cases hlookup : files.reverse.lookup file.1 with
  | none => exact absurd rfl (bne_iff_ne.1 (List.lookup_eq_none_iff.1 hlookup file (List.mem_reverse.2 hfile)))
  | some content => exact ⟨content, rfl⟩

theorem get?_putFiles_of_ne {files : List (Place × Bytes)} {p : Place} (h : ∀ file ∈ files, file.1 ≠ [] ∧ file.1 ≠ p)
    (t : FileTree) : (t.putFiles files).get? p = t.get? p := by
  have hnone : files.reverse.lookup p = none := by
    rw [List.lookup_eq_none_iff]
    intro file hfile
    exact bne_iff_ne.2 (h file (List.mem_reverse.1 hfile)).2.symm
  rw [get?_putFiles (fun file hfile => (h file hfile).1), hnone]
  rfl

theorem sameDirectories_putFiles {t : FileTree} {files : List (Place × Bytes)}
    (h : ∀ file ∈ files, t.get? file.1 ≠ some .directory) : SameDirectories t (t.putFiles files) := by
  intro p
  rw [get?_putFiles (fun file hfile => ne_nil_of_get? (h file hfile))]
  cases hlookup : files.reverse.lookup p with
  | none => simp
  | some content =>
    obtain ⟨later, earlier, hsplit, -⟩ := List.lookup_eq_some_iff.1 hlookup
    have hmem : (p, content) ∈ files.reverse := hsplit ▸ List.mem_append_right _ List.mem_cons_self
    simp [h _ (List.mem_reverse.1 hmem)]

theorem putFiles_append (t : FileTree) (files files' : List (Place × Bytes)) :
    t.putFiles (files ++ files') = (t.putFiles files).putFiles files' := List.foldl_append

/-- Putting the same files once more changes nothing. -/
theorem get?_putFiles_putFiles {files : List (Place × Bytes)} (h : ∀ file ∈ files, file.1 ≠ []) (t : FileTree)
    (p : Place) : ((t.putFiles files).putFiles files).get? p = (t.putFiles files).get? p := by
  rw [get?_putFiles h, get?_putFiles h]
  cases files.reverse.lookup p <;> rfl

/-- The files that can be written, with their places. -/
def targets (t : FileTree) (cwd : Place) (files : List (Text × Bytes)) : List (Place × Bytes) :=
  files.filterMap fun file => (t.target? cwd file.1).map fun p => (p, file.2)

theorem mem_targets {t : FileTree} {cwd : Place} {files : List (Text × Bytes)} {file : Place × Bytes} :
    file ∈ t.targets cwd files ↔ ∃ path, (path, file.2) ∈ files ∧ t.target? cwd path = some file.1 := by
  obtain ⟨p, content⟩ := file
  simp [targets, List.mem_filterMap, Option.map_eq_some_iff]

theorem get?_of_mem_targets {t : FileTree} {cwd : Place} {files : List (Text × Bytes)} {file : Place × Bytes}
    (h : file ∈ t.targets cwd files) : t.get? file.1 ≠ some .directory := by
  obtain ⟨path, -, htarget⟩ := mem_targets.1 h
  exact (target?_eq_some_iff.1 htarget).2.2

theorem targets_cons_of_eq_none {t : FileTree} {cwd : Place} {file : Text × Bytes}
    (h : t.target? cwd file.1 = none) (files : List (Text × Bytes)) :
    t.targets cwd (file :: files) = t.targets cwd files := by simp [targets, h]

theorem targets_cons_of_eq_some {t : FileTree} {cwd p : Place} {file : Text × Bytes}
    (h : t.target? cwd file.1 = some p) (files : List (Text × Bytes)) :
    t.targets cwd (file :: files) = (p, file.2) :: t.targets cwd files := by simp [targets, h]

theorem targets_append (t : FileTree) (cwd : Place) (files files' : List (Text × Bytes)) :
    t.targets cwd (files ++ files') = t.targets cwd files ++ t.targets cwd files' := List.filterMap_append

theorem sameDirectories_putFiles_targets (t : FileTree) (cwd : Place) (files : List (Text × Bytes)) :
    SameDirectories t (t.putFiles (t.targets cwd files)) :=
  sameDirectories_putFiles fun _ => get?_of_mem_targets

theorem SameDirectories.targets_eq {t t' : FileTree} (h : SameDirectories t t') (cwd : Place)
    (files : List (Text × Bytes)) : t'.targets cwd files = t.targets cwd files := by
  simp only [targets, h.target?_eq]

/-! ### Several files -/

/-- The tree with several files written one after the other; the first that cannot be written is the error. -/
def writeFiles (t : FileTree) (cwd : Place) (files : List (Text × Bytes)) : Except FileError FileTree :=
  files.foldlM (fun t file => t.write cwd file.1 file.2) t

theorem writeFiles_cons_eq_ok_iff {t t' : FileTree} {cwd : Place} {file : Text × Bytes}
    {files : List (Text × Bytes)} :
    t.writeFiles cwd (file :: files) = .ok t' ↔
      ∃ written, t.write cwd file.1 file.2 = .ok written ∧ written.writeFiles cwd files = .ok t' := by
  have hstep : t.writeFiles cwd (file :: files) =
      (t.write cwd file.1 file.2).bind fun written => written.writeFiles cwd files := rfl
  rw [hstep]
  cases t.write cwd file.1 file.2 with
  | error e => simp [Except.bind]
  | ok written => simp [Except.bind]

theorem writeFiles_append_eq_ok_iff {t t' : FileTree} {cwd : Place} {files files' : List (Text × Bytes)} :
    t.writeFiles cwd (files ++ files') = .ok t' ↔
      ∃ written, t.writeFiles cwd files = .ok written ∧ written.writeFiles cwd files' = .ok t' := by
  have happend : t.writeFiles cwd (files ++ files') =
      (t.writeFiles cwd files).bind fun written => written.writeFiles cwd files' := List.foldlM_append ..
  rw [happend]
  cases t.writeFiles cwd files with
  | error e => simp [Except.bind]
  | ok written => simp [Except.bind]

theorem sameDirectories_of_write {t t' : FileTree} {cwd : Place} {path : Text} {content : Bytes}
    (h : t.write cwd path content = .ok t') : SameDirectories t t' := by
  obtain ⟨-, p, -, hp, rfl⟩ := write_eq_ok_iff.1 h
  exact sameDirectories_set hp content

/-- If each file can be written, and only then, they are all put at their places. -/
theorem writeFiles_eq_ok_iff {t t' : FileTree} {cwd : Place} {files : List (Text × Bytes)} :
    t.writeFiles cwd files = .ok t' ↔
      (∀ file ∈ files, (t.target? cwd file.1).isSome) ∧ t' = t.putFiles (t.targets cwd files) := by
  induction files generalizing t with
  | nil =>
    constructor
    · intro h
      exact ⟨nofun, (Except.ok.inj h).symm⟩
    · rintro ⟨-, rfl⟩
      rfl
  | cons file files ih =>
    rw [writeFiles_cons_eq_ok_iff, List.forall_mem_cons]
    constructor
    · rintro ⟨written, hwrite, hrest⟩
      have hsame := sameDirectories_of_write hwrite
      obtain ⟨hmeans, p, hlocate, hp, rfl⟩ := write_eq_ok_iff.1 hwrite
      have htarget := target?_eq_some_iff.2 ⟨hmeans, hlocate, hp⟩
      obtain ⟨hfiles, rfl⟩ := ih.1 hrest
      simp only [hsame.target?_eq] at hfiles
      refine ⟨⟨by rw [htarget]; rfl, hfiles⟩, ?_⟩
      rw [hsame.targets_eq, targets_cons_of_eq_some htarget]
      rfl
    · rintro ⟨⟨hfile, hfiles⟩, rfl⟩
      obtain ⟨p, htarget⟩ := Option.isSome_iff_exists.1 hfile
      have hsame := sameDirectories_of_write (write_of_target? htarget file.2)
      refine ⟨_, write_of_target? htarget file.2, ih.2 ⟨fun other hother => ?_, ?_⟩⟩
      · rw [hsame.target?_eq]
        exact hfiles other hother
      · rw [hsame.targets_eq, targets_cons_of_eq_some htarget]
        rfl

theorem sameDirectories_of_writeFiles {t t' : FileTree} {cwd : Place} {files : List (Text × Bytes)}
    (h : t.writeFiles cwd files = .ok t') : SameDirectories t t' := by
  obtain ⟨-, rfl⟩ := writeFiles_eq_ok_iff.1 h
  exact sameDirectories_putFiles_targets t cwd files

/-- Files that lead elsewhere leave a place as it is. -/
theorem get?_of_writeFiles {t t' : FileTree} {cwd : Place} {files : List (Text × Bytes)}
    (h : t.writeFiles cwd files = .ok t') {p : Place} (hp : ∀ file ∈ files, t.locate cwd file.1 ≠ .ok p) :
    t'.get? p = t.get? p := by
  obtain ⟨-, rfl⟩ := writeFiles_eq_ok_iff.1 h
  refine get?_putFiles_of_ne (fun file hfile => ⟨ne_nil_of_get? (get?_of_mem_targets hfile), ?_⟩) t
  rintro rfl
  obtain ⟨path, hpath, htarget⟩ := mem_targets.1 hfile
  exact hp _ hpath (target?_eq_some_iff.1 htarget).2.1

theorem exists_locate_of_writeFiles {t t' : FileTree} {cwd : Place} {files : List (Text × Bytes)}
    (h : t.writeFiles cwd files = .ok t') {file : Text × Bytes} (hfile : file ∈ files) :
    ∃ p, t.locate cwd file.1 = .ok p := by
  obtain ⟨p, htarget⟩ := Option.isSome_iff_exists.1 ((writeFiles_eq_ok_iff.1 h).1 file hfile)
  exact ⟨p, (target?_eq_some_iff.1 htarget).2.1⟩

/-- Of the files that lead to a place, the last one is there in the end. -/
theorem read_of_writeFiles {t t' : FileTree} {cwd : Place} {before after : List (Text × Bytes)} {file : Text × Bytes}
    (h : t.writeFiles cwd (before ++ file :: after) = .ok t')
    (hafter : ∀ f ∈ after, t.locate cwd f.1 ≠ t.locate cwd file.1) : t'.read cwd file.1 = .ok file.2 := by
  obtain ⟨s, hbefore, hrest⟩ := writeFiles_append_eq_ok_iff.1 h
  obtain ⟨written, hwrite, hrest⟩ := writeFiles_cons_eq_ok_iff.1 hrest
  -- no write changes the directories, so each path name leads where it led at first
  have hstart := sameDirectories_of_writeFiles hbefore
  have hsame := hstart.trans (sameDirectories_of_write hwrite)
  have hend := hsame.trans (sameDirectories_of_writeFiles hrest)
  obtain ⟨hmeans, p, hlocate, hp, rfl⟩ := write_eq_ok_iff.1 hwrite
  have hlocate := hstart.locate_eq_ok_iff.2 hlocate
  refine read_eq_ok_iff.2 ⟨hmeans, p, hend.locate_eq_ok_iff.1 hlocate, ?_⟩
  have hkept : ∀ f ∈ after, (s.set p (.file file.2)).locate cwd f.1 ≠ .ok p := fun f hf hf' =>
    hafter f hf (hlocate ▸ hsame.locate_eq_ok_iff.2 hf')
  rw [get?_of_writeFiles hrest hkept, get?_set (ne_nil_of_get? hp), if_pos rfl]

end BindingDocs.FileTree
