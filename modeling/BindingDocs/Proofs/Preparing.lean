import Mathlib.Data.List.Induction
import BindingDocs.Proofs.FileTrees

/-!
# Making directories

Making a directory and those on the way to it adds directories where nothing was, at places on the way, and nothing
else (`extends_makeDirectories`).  Once it has been tried, trying it again changes nothing, and succeeds if it did
(`makeDirectories_again`).
-/

namespace BindingDocs.FileTree

/-- The place is on the way from `start`: the first ones of the steps lead there. -/
def OnWay (t : FileTree) (start : Place) (steps : List Text) (p : Place) : Prop :=
  ∃ names, names <+: steps ∧ t.walk start names = .ok p

/-- The second tree is the first one with directories added on the way, where nothing was. -/
def Extends (start : Place) (steps : List Text) (t t' : FileTree) : Prop :=
  ∀ p, t'.get? p = t.get? p ∨ t.get? p = none ∧ t'.get? p = some .directory ∧ t'.OnWay start steps p

variable {start p q : Place} {steps names way : List Text} {name : Text} {t t' t'' : FileTree}

theorem Extends.refl : Extends start steps t t := fun _ => .inl rfl

theorem Extends.keeps (h : Extends start steps t t') : KeepsDirectories t t' := by
  intro p hp
  rcases h p with hsame | ⟨hnone, -, -⟩
  · rw [hsame, hp]
  · rw [hnone] at hp
    cases hp

/-- No file is added, changed or lost. -/
theorem Extends.get?_eq_file_iff (h : Extends start steps t t') {content : Bytes} :
    t'.get? p = some (.file content) ↔ t.get? p = some (.file content) := by
  rcases h p with hsame | ⟨hnone, hmade, -⟩
  · rw [hsame]
  · rw [hnone, hmade]
    simp

theorem Extends.mono (hsteps : way <+: steps) (h : Extends start way t t') : Extends start steps t t' := by
  intro p
  rcases h p with hsame | ⟨hnone, hmade, names, hnames, hwalk⟩
  · exact .inl hsame
  · exact .inr ⟨hnone, hmade, names, hnames.trans hsteps, hwalk⟩

theorem Extends.trans (h : Extends start steps t t') (h' : Extends start steps t' t'') :
    Extends start steps t t'' := by
  intro p
  rcases h' p with hsame' | ⟨hnone', hmade', hway'⟩
  · rcases h p with hsame | ⟨hnone, hmade, names, hnames, hwalk⟩
    · exact .inl (hsame'.trans hsame)
    · exact .inr ⟨hnone, hsame'.trans hmade, names, hnames, h'.keeps.walk hwalk⟩
  · rcases h p with hsame | ⟨-, hmade, -⟩
    · exact .inr ⟨hsame ▸ hnone', hmade', hway'⟩
    · rw [hmade] at hnone'
      cases hnone'

/-! ### One directory -/

theorem leadsToDirectory_iff :
    t.leadsToDirectory start names = true ↔ ∃ p, t.walk start names = .ok p ∧ t.get? p = some .directory := by
  unfold leadsToDirectory
  cases t.walk start names with
  | error e => simp
  | ok p => simp

theorem KeepsDirectories.leads (h : KeepsDirectories t t') (hleads : t.leadsToDirectory start names = true) :
    t'.leadsToDirectory start names = true := by
  obtain ⟨p, hwalk, hp⟩ := leadsToDirectory_iff.1 hleads
  exact leadsToDirectory_iff.2 ⟨p, h.walk hwalk, h p hp⟩

/-- A directory must be there for a name in it to be reached. -/
theorem leads_of_walk_concat (h : t.walk start (names ++ [name]) = .ok p) :
    t.leadsToDirectory start names = true := by
  obtain ⟨q, hwalk, henter⟩ := walk_concat_eq_ok_iff.1 h
  exact leadsToDirectory_iff.2 ⟨q, hwalk, (enter_eq_ok_iff.1 henter).1⟩

theorem makeDirectory_eq_ok_iff :
    t.makeDirectory start names = .ok t' ↔
      ∃ p, t.walk start names = .ok p ∧ t.get? p = none ∧ t' = t.set p .directory := by
  unfold makeDirectory
  cases t.walk start names with
  | error e => simp
  | ok p =>
    cases hp : t.get? p with
    | none => simp [hp, eq_comm]
    | some n => simp [hp]

theorem makeDirectory_of_leads (h : t.leadsToDirectory start names = true) :
    t.makeDirectory start names = .error .alreadyExists := by
  obtain ⟨p, hwalk, hp⟩ := leadsToDirectory_iff.1 h
  simp [makeDirectory, hwalk, hp]

/-- The tree with a new directory, or the error unless the directory is there already. -/
def settleDirectory (t : FileTree) (start : Place) (names : List Text) : FileTree × Option FileError :=
  match t.makeDirectory start names with
  | .ok made => (made, none)
  | .error e => (t, if t.leadsToDirectory start names then none else some e)

theorem get?_set_directory (hp : t.get? p = none) (q : Place) :
    (t.set p .directory).get? q = if q = p then some .directory else t.get? q := by
  refine get?_set ?_ q .directory t
  rintro rfl
  cases hp

theorem extends_set (hp : t.get? p = none) (hwalk : t.walk start steps = .ok p) :
    Extends start steps t (t.set p .directory) := by
  have hkeeps : KeepsDirectories t (t.set p .directory) := by
    intro q hq
    rw [get?_set_directory hp]
    split
    · rfl
    · exact hq
  intro q
  rw [get?_set_directory hp]
  split_ifs with hq
  · subst hq
    exact .inr ⟨hp, rfl, steps, List.prefix_rfl, hkeeps.walk hwalk⟩
  · exact .inl rfl

/-- A directory is made, or is there already, or it is neither. -/
theorem settleDirectory_cases (t : FileTree) (start : Place) (names : List Text) :
    (∃ p, t.walk start names = .ok p ∧ t.get? p = none ∧
      t.settleDirectory start names = (t.set p .directory, none)) ∨
    (t.leadsToDirectory start names = true ∧ t.settleDirectory start names = (t, none)) ∨
    t.leadsToDirectory start names = false ∧ ∃ e, t.settleDirectory start names = (t, some e) := by
  unfold settleDirectory
  cases hmake : t.makeDirectory start names with
  | ok made =>
    obtain ⟨p, hwalk, hp, rfl⟩ := makeDirectory_eq_ok_iff.1 hmake
    exact .inl ⟨p, hwalk, hp, rfl⟩
  | error e =>
    cases hleads : t.leadsToDirectory start names with
    | true => exact .inr (.inl ⟨rfl, rfl⟩)
    | false => exact .inr (.inr ⟨rfl, e, rfl⟩)

theorem leads_set (hp : t.get? p = none) (hwalk : t.walk start names = .ok p) :
    (t.set p .directory).leadsToDirectory start names = true := by
  refine leadsToDirectory_iff.2 ⟨p, (extends_set hp hwalk).keeps.walk hwalk, ?_⟩
  rw [get?_set_directory hp, if_pos rfl]

theorem leads_settleDirectory :
    (t.settleDirectory start names).1.leadsToDirectory start names =
      (t.settleDirectory start names).2.isNone := by
  rcases settleDirectory_cases t start names with ⟨p, hwalk, hp, h⟩ | ⟨hleads, h⟩ | ⟨hleads, e, h⟩
  · rw [h]
    exact leads_set hp hwalk
  · rw [h]
    exact hleads
  · rw [h]
    exact hleads

theorem extends_settleDirectory (hsteps : ∀ p, t.walk start names = .ok p → t.walk start steps = .ok p) :
    Extends start steps t (t.settleDirectory start names).1 := by
  rcases settleDirectory_cases t start names with ⟨p, hwalk, hp, h⟩ | ⟨-, h⟩ | ⟨-, e, h⟩
  · rw [h]
    exact extends_set hp (hsteps p hwalk)
  · rw [h]
    exact .refl
  · rw [h]
    exact .refl

theorem settleDirectory_of_leads (h : t.leadsToDirectory start names = true) :
    t.settleDirectory start names = (t, none) := by
  simp [settleDirectory, makeDirectory_of_leads h, h]

theorem settleDirectory_again :
    (t.settleDirectory start names).1.settleDirectory start names = t.settleDirectory start names := by
  rcases settleDirectory_cases t start names with ⟨p, hwalk, hp, h⟩ | ⟨-, h⟩ | ⟨-, e, h⟩
  · rw [h]
    exact settleDirectory_of_leads (leads_set hp hwalk)
  · rw [h]
    exact h
  · rw [h]
    exact h

/-! ### A directory after those on the way -/

variable {outer : FileTree → FileTree × Option FileError}

/-- The directory is settled at once, or after the way is made, or the way cannot be made. -/
theorem makeDirectoryAfter_cases (t : FileTree) (start : Place) (names : List Text)
    (outer : FileTree → FileTree × Option FileError) :
    (t.makeDirectory start names ≠ .error .notFound ∧
      t.makeDirectoryAfter start names outer = t.settleDirectory start names) ∨
    (t.makeDirectory start names = .error .notFound ∧
      ∃ e, (outer t).2 = some e ∧ t.makeDirectoryAfter start names outer = outer t) ∨
    t.makeDirectory start names = .error .notFound ∧
      (outer t).2 = none ∧ t.makeDirectoryAfter start names outer = (outer t).1.settleDirectory start names := by
  unfold makeDirectoryAfter settleDirectory
  cases hmake : t.makeDirectory start names with
  | ok made => exact .inl ⟨nofun, rfl⟩
  | error e =>
    by_cases he : e = .notFound
    · subst he
      rcases outer t with ⟨made, error?⟩
      cases error? with
      | some e => exact .inr (.inl ⟨rfl, e, rfl, rfl⟩)
      | none =>
        exact .inr (.inr ⟨rfl, rfl, rfl⟩)
    · refine .inl ⟨fun h => he (Except.error.inj h), ?_⟩
      cases e <;> first | rfl | exact absurd rfl he

theorem extends_makeDirectoryAfter (hsteps : ∀ t p, walk t start names = .ok p → walk t start steps = .ok p)
    (houter : Extends start steps t (outer t).1) :
    Extends start steps t (t.makeDirectoryAfter start names outer).1 := by
  rcases makeDirectoryAfter_cases t start names outer with ⟨-, h⟩ | ⟨-, e, -, h⟩ | ⟨-, -, h⟩
  · rw [h]
    exact extends_settleDirectory (hsteps t)
  · rw [h]
    exact houter
  · rw [h]
    exact houter.trans (extends_settleDirectory (hsteps _))

/-- If the way cannot be made, nothing beyond it can be reached. -/
def BlocksBeyond (start : Place) (names : List Text) (answer : FileTree × Option FileError) : Prop :=
  answer.2.isSome → ∀ p, answer.1.walk start names ≠ .ok p

theorem leads_makeDirectoryAfter (hbeyond : BlocksBeyond start names (outer t)) :
    (t.makeDirectoryAfter start names outer).1.leadsToDirectory start names =
      (t.makeDirectoryAfter start names outer).2.isNone := by
  rcases makeDirectoryAfter_cases t start names outer with ⟨-, h⟩ | ⟨-, e, he, h⟩ | ⟨-, -, h⟩
  · rw [h]
    exact leads_settleDirectory
  · rw [h, he, Option.isNone_some, ← Bool.not_eq_true]
    intro hleads
    obtain ⟨p, hwalk, -⟩ := leadsToDirectory_iff.1 hleads
    exact hbeyond (by rw [he]; rfl) p hwalk
  · rw [h]
    exact leads_settleDirectory

theorem makeDirectoryAfter_of_leads (h : t.leadsToDirectory start names = true) :
    t.makeDirectoryAfter start names outer = (t, none) := by
  have hmake := makeDirectory_of_leads h
  rcases makeDirectoryAfter_cases t start names outer with ⟨-, h'⟩ | ⟨hmissing, -⟩ | ⟨hmissing, -⟩
  · rw [h', settleDirectory_of_leads h]
  · rw [hmake] at hmissing
    cases hmissing
  · rw [hmake] at hmissing
    cases hmissing

/-- The same done once more changes nothing, and succeeds if it did. -/
def Again (f : FileTree → FileTree × Option FileError) (t : FileTree) : Prop :=
  (f (f t).1).1 = (f t).1 ∧ (f (f t).1).2.isSome = (f t).2.isSome

theorem makeDirectory_settleDirectory_ne (h : t.makeDirectory start names ≠ .error .notFound) :
    (t.settleDirectory start names).1.makeDirectory start names ≠ .error .notFound := by
  rcases settleDirectory_cases t start names with ⟨p, hwalk, hp, hsettle⟩ | ⟨-, hsettle⟩ | ⟨-, e, hsettle⟩
  · rw [hsettle, makeDirectory_of_leads (leads_set hp hwalk)]
    nofun
  · rwa [hsettle]
  · rwa [hsettle]

theorem settleDirectory_eq_self
    (h : (t.settleDirectory start names).1.makeDirectory start names = .error .notFound) :
    (t.settleDirectory start names).1 = t := by
  rcases settleDirectory_cases t start names with ⟨p, hwalk, hp, hsettle⟩ | ⟨-, hsettle⟩ | ⟨-, e, hsettle⟩
  · rw [hsettle, makeDirectory_of_leads (leads_set hp hwalk)] at h
    cases h
  · rw [hsettle]
  · rw [hsettle]

theorem again_makeDirectoryAfter (houter : Again outer t) (hbeyond : BlocksBeyond start names (outer t)) :
    Again (fun t => t.makeDirectoryAfter start names outer) t := by
  unfold Again
  dsimp only
  rcases makeDirectoryAfter_cases t start names outer with ⟨hmake, h⟩ | ⟨-, e, he, h⟩ | ⟨-, hnone, h⟩
  · -- the second time, too, the way is not missing
    rcases makeDirectoryAfter_cases (t.settleDirectory start names).1 start names outer with
      ⟨-, h'⟩ | ⟨hmissing, -⟩ | ⟨hmissing, -⟩
    · rw [h, h', settleDirectory_again]
      exact ⟨rfl, rfl⟩
    · exact absurd hmissing (makeDirectory_settleDirectory_ne hmake)
    · exact absurd hmissing (makeDirectory_settleDirectory_ne hmake)
  · -- the way is as it was, so nothing beyond it can be reached
    rw [h]
    have hblocked := hbeyond (by rw [he]; rfl)
    rcases makeDirectoryAfter_cases (outer t).1 start names outer with ⟨-, h'⟩ | ⟨-, e', -, h'⟩ | ⟨-, hnone, -⟩
    · rw [h']
      rcases settleDirectory_cases (outer t).1 start names with
        ⟨p, hwalk, -⟩ | ⟨hleads, -⟩ | ⟨-, e', hsettle⟩
      · exact absurd hwalk (hblocked p)
      · obtain ⟨p, hwalk, -⟩ := leadsToDirectory_iff.1 hleads
        exact absurd hwalk (hblocked p)
      · rw [hsettle, he]
        exact ⟨rfl, rfl⟩
    · rw [h']
      exact houter
    · have hsome := houter.2
      rw [hnone, he] at hsome
      cases hsome
  · -- the way is there, so what is settled stays
    rw [h]
    rcases makeDirectoryAfter_cases ((outer t).1.settleDirectory start names).1 start names outer with
      ⟨-, h'⟩ | ⟨hmissing, e, he, h'⟩ | ⟨hmissing, hnone', h'⟩
    · rw [h', settleDirectory_again]
      exact ⟨rfl, rfl⟩
    · have hsome := houter.2
      rw [settleDirectory_eq_self hmissing] at he
      rw [hnone, he] at hsome
      cases hsome
    · have hsame := settleDirectory_eq_self hmissing
      rw [hsame, houter.1] at h'
      rw [hsame, h']
      exact ⟨hsame, rfl⟩

/-! ### The way -/

theorem extends_makeWay (start : Place) (names : List Text) (t : FileTree) :
    Extends start names.reverse t (makeWay start names t).1 := by
  induction names generalizing t with
  | nil => exact .refl
  | cons name outer ih =>
    refine extends_makeDirectoryAfter (fun _ _ h => h) ((ih t).mono ?_)
    rw [List.reverse_cons]
    exact List.prefix_append _ _

theorem blocksBeyond_makeWay (start : Place) (names : List Text) (name : Text) (t : FileTree) :
    BlocksBeyond start (names.reverse ++ [name]) (makeWay start names t) := by
  induction names generalizing name t with
  | nil => nofun
  | cons last outer ih =>
    intro hsome p hwalk
    have hleads : (makeWay start (last :: outer) t).1.leadsToDirectory start (last :: outer).reverse =
        (makeWay start (last :: outer) t).2.isNone :=
      leads_makeDirectoryAfter (List.reverse_cons ▸ ih last t)
    rw [leads_of_walk_concat hwalk, eq_comm, Option.isNone_iff_eq_none] at hleads
    rw [hleads] at hsome
    cases hsome

theorem again_makeWay (start : Place) (names : List Text) (t : FileTree) : Again (makeWay start names) t := by
  induction names generalizing t with
  | nil => exact ⟨rfl, rfl⟩
  | cons name outer ih =>
    exact again_makeDirectoryAfter (ih t) (List.reverse_cons ▸ blocksBeyond_makeWay start outer name t)

/-! ### The whole path -/

/-- Names that stay where they are can be left out. -/
theorem walk_filter_here (h : t.walk p names = .ok q) :
    t.walk p (names.filter fun name => name != Pathname.here) = .ok q := by
  induction names generalizing p with
  | nil => exact h
  | cons name names ih =>
    obtain ⟨r, henter, hrest⟩ := walk_cons_eq_ok_iff.1 h
    by_cases hname : name = Pathname.here
    · subst hname
      have hstay : r = p := by
        rcases (enter_eq_ok_iff.1 henter).2 with ⟨-, hr⟩ | ⟨habove, -⟩ | ⟨⟨hne, -⟩, -⟩
        · exact hr
        · exact absurd habove (by decide)
        · exact absurd rfl hne
      rw [List.filter_cons_of_neg (by simp)]
      exact ih (hstay ▸ hrest)
    · rw [List.filter_cons_of_pos (by simpa using hname)]
      exact walk_cons_eq_ok_iff.2 ⟨r, henter, ih hrest⟩

theorem walk_steps {path : Text} (h : t.walk start (Pathname.names path) = .ok p) :
    t.walk start (Pathname.steps path) = .ok p := by
  unfold Pathname.steps
  split
  · rename_i hnames
    rwa [hnames] at h
  · rename_i name rest hnames
    rw [hnames] at h
    split_ifs with hfirst
    · have hname : name = Pathname.here := by simpa using (Bool.and_eq_true_iff.1 hfirst).2
      have hdrop := walk_filter_here h
      rwa [hname, List.filter_cons_of_neg (by simp)] at hdrop
    · obtain ⟨r, henter, hrest⟩ := walk_cons_eq_ok_iff.1 h
      exact walk_cons_eq_ok_iff.2 ⟨r, henter, walk_filter_here hrest⟩

theorem blocksBeyond_way (start : Place) (path : Text) (t : FileTree) :
    BlocksBeyond start (Pathname.names path) (makeWay start (Pathname.steps path).dropLast.reverse t) := by
  intro hsome p hwalk
  cases hlast : (Pathname.steps path).getLast? with
  | none =>
    rw [List.getLast?_eq_none_iff.1 hlast] at hsome
    cases hsome
  | some last =>
    have hblocks := blocksBeyond_makeWay start (Pathname.steps path).dropLast.reverse last t
    rw [List.reverse_reverse, List.dropLast_append_getLast? last hlast] at hblocks
    exact hblocks hsome p (walk_steps hwalk)

variable (t : FileTree) (cwd : Place) (path : Text)

/-- Only directories on the way are made, where nothing was. -/
theorem extends_makeDirectories :
    Extends (origin cwd path) (Pathname.steps path) t (t.makeDirectories cwd path).1 := by
  unfold makeDirectories
  split_ifs
  · exact .refl
  · exact .refl
  · exact .refl
  · refine extends_makeDirectoryAfter (fun _ _ => walk_steps) ((extends_makeWay _ _ t).mono ?_)
    rw [List.reverse_reverse]
    exact List.dropLast_prefix _

/-- Directories that have been made, or tried in vain, can be made again without effect. -/
theorem makeDirectories_again : Again (fun t => t.makeDirectories cwd path) t := by
  unfold makeDirectories
  split_ifs
  · exact ⟨rfl, rfl⟩
  · exact ⟨rfl, rfl⟩
  · exact ⟨rfl, rfl⟩
  · exact again_makeDirectoryAfter (again_makeWay _ _ t) (blocksBeyond_way _ path t)

variable {t cwd path} {prepared : FileTree}

/-- A directory that has been made is there whatever becomes of the files. -/
theorem makeDirectories_of_keeps (h : t.makeDirectories cwd path = (prepared, none))
    (hkeeps : KeepsDirectories prepared t') : t'.makeDirectories cwd path = (t', none) := by
  unfold makeDirectories at h ⊢
  split_ifs at h ⊢
  · rfl
  · cases h
  · cases h
  · refine makeDirectoryAfter_of_leads (hkeeps.leads ?_)
    have hleads := leads_makeDirectoryAfter (blocksBeyond_way (origin cwd path) path t)
    rw [h] at hleads
    exact hleads

/-- What cannot be made cannot be made by trying it again. -/
theorem makeDirectories_of_error {e : FileError} (h : t.makeDirectories cwd path = (prepared, some e)) :
    ∃ e', prepared.makeDirectories cwd path = (prepared, some e') := by
  have hagain := makeDirectories_again t cwd path
  unfold Again at hagain
  simp only [h] at hagain
  obtain ⟨htree, hsome⟩ := hagain
  obtain ⟨e', he'⟩ := Option.isSome_iff_exists.1 hsome
  exact ⟨e', Prod.ext htree he'⟩

end BindingDocs.FileTree
