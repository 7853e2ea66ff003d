import BindingDocs.PageName
import BindingDocs.Proofs.FileTrees

/-!
# Path names

The names of a path name joined to a directory are those of the directory, then those of the path name (`names_join`).
So two different names without a slash lead to two different places in a directory (`locate_join_ne`).
-/

namespace BindingDocs

namespace Pathname

theorem names_append_slash (a b : Text) : names (a ++ '/' :: b) = names a ++ names b := by
  rw [names, List.splitOn_append_cons_self, List.filter_append]
  rfl

theorem names_of_notMem {name : Text} (h : '/' ∉ name) (hne : name ≠ []) : names name = [name] := by
  have hsplit : name.splitOn '/' = [name] := by
    rw [List.splitOn_eq_splitOnP, List.splitOnP_eq_singleton]
    intro c hc
    exact beq_eq_false_iff_ne.2 fun hslash => h (hslash ▸ hc)
  simp [names, hsplit, hne]

theorem names_join {base name : Text} (h : isAbsolute name = false) :
    names (join base name) = names base ++ names name := by
  unfold join
  rw [h, Bool.false_or]
  split_ifs with hempty hslash
  · rw [List.isEmpty_iff.1 hempty]
    rfl
  · obtain ⟨front, rfl⟩ : ∃ front, base = front ++ ['/'] := by
      have hlast : base.getLast? = some '/' := by simpa [endsWithSlash] using hslash
      exact ⟨base.dropLast, (List.dropLast_append_getLast? '/' hlast).symm⟩
    have hnil : names [] = [] := rfl
    rw [List.append_assoc, List.singleton_append, names_append_slash, names_append_slash, hnil, List.append_nil]
  · exact names_append_slash base name

theorem isSuffix_join {ext path : Text} (h : ext <:+ path) (base : Text) : ext <:+ join base path := by
  unfold join
  split_ifs
  · exact h
  · exact h.trans (List.suffix_append _ _)
  · exact h.trans ((List.suffix_cons _ _).trans (List.suffix_append _ _))

/-- What a path name ends with is at the end of its last name. -/
theorem exists_names_append {ext : Text} (hslash : '/' ∉ ext) (hne : ext ≠ []) (x : Text) :
    ∃ front y, names (x ++ ext) = front ++ [y ++ ext] := by
  by_cases hx : '/' ∈ x
  · obtain ⟨after, before, hsplit, hafter⟩ := List.eq_append_cons_of_mem (List.mem_reverse.2 hx)
    have hlast : '/' ∉ after.reverse ++ ext := by simp [hafter, hslash]
    have hwhole : x ++ ext = before.reverse ++ '/' :: (after.reverse ++ ext) := by
      rw [List.reverse_eq_iff.1 hsplit]
      simp
    refine ⟨names before.reverse, after.reverse, ?_⟩
    rw [hwhole, names_append_slash, names_of_notMem hlast (by simp [hne])]
  · have hname : '/' ∉ x ++ ext := by simp [hx, hslash]
    exact ⟨[], x, names_of_notMem hname (by simp [hne])⟩

theorem isAbsolute_join {base name : Text} (h : isAbsolute name = false) :
    isAbsolute (join base name) = isAbsolute base := by
  unfold join
  rw [h, Bool.false_or]
  split_ifs with hempty hslash
  · rw [List.isEmpty_iff.1 hempty, h]
    rfl
  · cases base with
    | nil => exact absurd rfl hempty
    | cons c base => rfl
  · cases base with
    | nil => exact absurd rfl hempty
    | cons c base => rfl

/-- A name that is no way to stay or to go up, and no way through a directory. -/
structure IsPlain (name : Text) : Prop where
  notMem : '/' ∉ name
  ne_nil : name ≠ []
  ne_here : name ≠ here
  ne_above : name ≠ above

theorem IsPlain.isAbsolute {name : Text} (h : IsPlain name) : isAbsolute name = false := by
  cases name with
  | nil => rfl
  | cons c name =>
    have hc : c ≠ '/' := fun hslash => h.notMem (hslash ▸ List.mem_cons_self)
    simp [Pathname.isAbsolute, hc]

end Pathname

/-- What begins like a page name is no way to stay or to go up. -/
theorem PageName.isPlain_of_notMem {name : Text} (hstart : start <+: name) (h : '/' ∉ name) :
    Pathname.IsPlain name := by
  obtain ⟨rest, rfl⟩ := hstart
  exact ⟨h, by simp [start], by simp [start, Pathname.here], by simp [start, Pathname.above]⟩

namespace FileTree

variable {t : FileTree} {cwd p : Place} {base name name' : Text}

theorem enter_plain (hname : Pathname.IsPlain name) {q : Place} (h : t.enter q name = .ok p) : p = q ++ [name] := by
  rcases (enter_eq_ok_iff.1 h).2 with ⟨hhere, -⟩ | ⟨habove, -⟩ | ⟨-, rfl⟩
  · exact absurd hhere hname.ne_here
  · exact absurd habove hname.ne_above
  · rfl

/-- What a path name ends with is what its place ends with, unless the last name could be a way to stay or to go up. -/
theorem exists_of_locate {ext path : Text} (hslash : '/' ∉ ext) (hlong : 2 < ext.length) (hext : ext <:+ path)
    (h : t.locate cwd path = .ok p) : ∃ q y, p = q ++ [y ++ ext] := by
  have hwalk := walk_of_locate h
  obtain ⟨x, rfl⟩ := hext
  obtain ⟨front, y, hnames⟩ := Pathname.exists_names_append hslash (List.ne_nil_of_length_pos (by omega)) x
  rw [hnames] at hwalk
  obtain ⟨q, -, henter⟩ := walk_concat_eq_ok_iff.1 hwalk
  have hlength : 2 < (y ++ ext).length := by
    rw [List.length_append]
    omega
  rcases (enter_eq_ok_iff.1 henter).2 with ⟨hhere, -⟩ | ⟨habove, -⟩ | ⟨-, rfl⟩
  · rw [hhere] at hlength
    exact absurd hlength (by decide)
  · rw [habove] at hlength
    exact absurd hlength (by decide)
  · exact ⟨q, y, rfl⟩

/-- A path name joined to a directory leads there first. -/
theorem walk_of_locate_join (hname : Pathname.isAbsolute name = false)
    (h : t.locate cwd (Pathname.join base name) = .ok p) :
    ∃ q, t.walk (origin cwd base) (Pathname.names base) = .ok q ∧ t.walk q (Pathname.names name) = .ok p := by
  have horigin : origin cwd (Pathname.join base name) = origin cwd base := by
    rw [origin, Pathname.isAbsolute_join hname, origin]
  have hwalk := walk_of_locate h
  rw [Pathname.names_join hname, horigin] at hwalk
  exact walk_append_eq_ok_iff.1 hwalk

/-- A plain name leads to a place in the directory to which the rest of the path name leads. -/
theorem locate_join_plain (hname : Pathname.IsPlain name) (h : t.locate cwd (Pathname.join base name) = .ok p) :
    ∃ q, t.walk (origin cwd base) (Pathname.names base) = .ok q ∧ p = q ++ [name] := by
  obtain ⟨q, hwalk, hrest⟩ := walk_of_locate_join hname.isAbsolute h
  rw [Pathname.names_of_notMem hname.notMem hname.ne_nil] at hrest
  obtain ⟨r, henter, hr⟩ := walk_cons_eq_ok_iff.1 hrest
  obtain rfl := Except.ok.inj hr
  exact ⟨q, hwalk, enter_plain hname henter⟩

/-- Different plain names lead to different places of a directory. -/
theorem locate_join_ne (hname : Pathname.IsPlain name) (hname' : Pathname.IsPlain name') (hne : name ≠ name')
    (h : t.locate cwd (Pathname.join base name) = .ok p) : t.locate cwd (Pathname.join base name') ≠ .ok p := by
  intro h'
  obtain ⟨q, hq, rfl⟩ := locate_join_plain hname h
  obtain ⟨q', hq', hsame⟩ := locate_join_plain hname' h'
  obtain rfl := Except.ok.inj (hq.symm.trans hq')
  exact hne (List.cons.inj (List.append_cancel_left hsame)).1

end FileTree

end BindingDocs
