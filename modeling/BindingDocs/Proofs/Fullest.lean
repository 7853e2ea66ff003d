import BindingDocs.Roster
import Mathlib.Data.Finset.Max

/-!
# The fullest declarations

The roster of a list of declarations holds, for each name, those declarations that have the most arguments, and
nothing else.  The earliest of them stands where the name first occurred, every other one where it was declared
itself (`place`).  Adding a declaration keeps this (`Arranges.add`).  The key fact is that all kept declarations
of one name have equally many arguments (`Arranges.arity_eq`), so one that exceeds some of them exceeds all.
Declarations of different names do not meet (`filter_ofList`).
-/

namespace BindingDocs.Roster

/-- No declaration of the same name has more arguments. -/
def Fullest (fs : List BoundFunction) (f : BoundFunction) : Prop :=
  ∀ g ∈ fs, g.name = f.name → g.arity ≤ f.arity

instance (fs : List BoundFunction) (f : BoundFunction) : Decidable (Fullest fs f) :=
  inferInstanceAs (Decidable (∀ g ∈ fs, g.name = f.name → g.arity ≤ f.arity))

/-- The place of a kept declaration `p.1` with number `p.2`: that of the first declaration of its name if no
earlier one of the name is kept, else its own. -/
def place (fs : List BoundFunction) (p : BoundFunction × Nat) : Nat :=
  if ∃ q ∈ fs.zipIdx, q.2 < p.2 ∧ q.1.name = p.1.name ∧ Fullest fs q.1 then p.2
  else fs.findIdx fun g => g.name == p.1.name

/-- The numbered declarations that are kept, in order. -/
structure Arranges (fs : List BoundFunction) (ps : List (BoundFunction × Nat)) : Prop where
  mem_iff : ∀ p, p ∈ ps ↔ p ∈ fs.zipIdx ∧ Fullest fs p.1
  pairwise : ps.Pairwise fun p q => place fs p < place fs q

/-! ### Adding to a roster -/

theorem yieldsTo_iff {f g : BoundFunction} : yieldsTo f g = true ↔ g.name = f.name ∧ g.arity < f.arity := by
  simp [yieldsTo]

theorem supersede_of_not_yieldsTo {f : BoundFunction} {r : Roster} (h : ∀ g ∈ r, ¬ yieldsTo f g = true) :
    supersede f r = r ++ [f] := by
  induction r with
  | nil => rfl
  | cons g r ih =>
    rw [List.forall_mem_cons] at h
    simp only [supersede, h.1, ↓reduceIte, Bool.false_eq_true, ih h.2, List.cons_append]

theorem supersede_of_yieldsTo {f g : BoundFunction} {r s : Roster} (h : ∀ g ∈ r, ¬ yieldsTo f g = true)
    (hg : yieldsTo f g = true) :
    supersede f (r ++ g :: s) = r ++ f :: s.filter fun h => !yieldsTo f h := by
  induction r with
  | nil => simp only [List.nil_append, supersede, hg, ↓reduceIte]
  | cons a r ih =>
    rw [List.forall_mem_cons] at h
    simp only [List.cons_append, supersede, h.1, ↓reduceIte, Bool.false_eq_true, ih h.2]

/-! ### One more declaration -/

variable {fs : List BoundFunction} {f : BoundFunction}

private theorem mem_zipIdx_concat {p : BoundFunction × Nat} :
    p ∈ (fs ++ [f]).zipIdx ↔ p ∈ fs.zipIdx ∨ p = (f, fs.length) := by
  rw [List.zipIdx_append, List.mem_append]
  simp

private theorem fst_mem_of_mem_zipIdx {p : BoundFunction × Nat} (h : p ∈ fs.zipIdx) : p.1 ∈ fs :=
  List.mem_of_getElem? (List.mem_zipIdx_iff_getElem?.1 h)

private theorem snd_lt_of_mem_zipIdx {p : BoundFunction × Nat} (h : p ∈ fs.zipIdx) : p.2 < fs.length :=
  (List.getElem?_eq_some_iff.1 (List.mem_zipIdx_iff_getElem?.1 h)).1

theorem fullest_concat {g : BoundFunction} :
    Fullest (fs ++ [f]) g ↔ Fullest fs g ∧ (f.name = g.name → f.arity ≤ g.arity) := by
  simp only [Fullest, List.forall_mem_append, List.forall_mem_singleton]

/-- Of the declarations of a name, some has the most arguments. -/
theorem exists_fullest {g : BoundFunction} (hg : g ∈ fs) :
    ∃ p ∈ fs.zipIdx, p.1.name = g.name ∧ Fullest fs p.1 := by
  obtain ⟨f, hf, hmax⟩ := (fs.filter fun f => f.name = g.name).toFinset.exists_max_image BoundFunction.arity
    ⟨g, by simp [hg]⟩
  simp only [List.mem_toFinset, List.mem_filter, decide_eq_true_eq] at hf hmax
  obtain ⟨i, hi⟩ := List.getElem?_of_mem hf.1
  refine ⟨(f, i), List.mem_zipIdx_iff_getElem?.2 hi, hf.2, ?_⟩
  intro h hh hname
  exact hmax h ⟨hh, hname.trans hf.2⟩

private theorem findIdx_name_lt {name : Text} {g : BoundFunction} (hg : g ∈ fs) (hname : g.name = name) :
    (fs.findIdx fun h => h.name == name) < fs.length :=
  List.findIdx_lt_length_of_exists ⟨g, hg, by simpa using hname⟩

theorem place_le {p : BoundFunction × Nat} (hp : p ∈ fs.zipIdx) : place fs p ≤ p.2 := by
  unfold place
  split
  · exact Nat.le_refl _
  · obtain ⟨hlt, hget⟩ := List.getElem?_eq_some_iff.1 (List.mem_zipIdx_iff_getElem?.1 hp)
    by_contra hgt
    have hne := List.not_of_lt_findIdx (Nat.lt_of_not_le hgt)
    rw [hget] at hne
    simp at hne

/-- A declaration keeps its place as long as the same declarations of its name are kept. -/
theorem place_concat {p : BoundFunction × Nat} (hp : p ∈ fs.zipIdx)
    (h : ∀ q ∈ fs, q.name = p.1.name → (Fullest (fs ++ [f]) q ↔ Fullest fs q)) :
    place (fs ++ [f]) p = place fs p := by
  have hlt := snd_lt_of_mem_zipIdx hp
  have hearlier : (∃ q ∈ (fs ++ [f]).zipIdx, q.2 < p.2 ∧ q.1.name = p.1.name ∧ Fullest (fs ++ [f]) q.1) ↔
      ∃ q ∈ fs.zipIdx, q.2 < p.2 ∧ q.1.name = p.1.name ∧ Fullest fs q.1 := by
    constructor
    · rintro ⟨q, hq, hqp, hname, hfull⟩
      rcases mem_zipIdx_concat.1 hq with hq | rfl
      · exact ⟨q, hq, hqp, hname, (h q.1 (fst_mem_of_mem_zipIdx hq) hname).1 hfull⟩
      · simp only at hqp
        omega
    · rintro ⟨q, hq, hqp, hname, hfull⟩
      exact ⟨q, mem_zipIdx_concat.2 (.inl hq), hqp, hname,
        (h q.1 (fst_mem_of_mem_zipIdx hq) hname).2 hfull⟩
  have hfirst : ((fs ++ [f]).findIdx fun g => g.name == p.1.name) = fs.findIdx fun g => g.name == p.1.name := by
    rw [List.findIdx_append, if_pos (findIdx_name_lt (fst_mem_of_mem_zipIdx hp) rfl)]
  unfold place
  rw [hfirst]
  simp only [hearlier]

/-! ### The three outcomes -/

variable {ps : List (BoundFunction × Nat)}

/-- All kept declarations of one name have equally many arguments. -/
theorem Arranges.arity_eq (h : Arranges fs ps) {p q : BoundFunction × Nat} (hp : p ∈ ps) (hq : q ∈ ps)
    (hname : p.1.name = q.1.name) : p.1.arity = q.1.arity := by
  obtain ⟨hpz, hpf⟩ := (h.mem_iff p).1 hp
  obtain ⟨hqz, hqf⟩ := (h.mem_iff q).1 hq
  exact Nat.le_antisymm (hqf p.1 (fst_mem_of_mem_zipIdx hpz) hname)
    (hpf q.1 (fst_mem_of_mem_zipIdx hqz) hname.symm)

/-- While the kept declarations of its name have at least as many arguments, a new one changes nothing about those
before it. -/
private theorem Arranges.fullest_concat_iff (h : Arranges fs ps)
    (hle : ∀ p ∈ ps, p.1.name = f.name → f.arity ≤ p.1.arity) {g : BoundFunction} (hg : g ∈ fs) :
    Fullest (fs ++ [f]) g ↔ Fullest fs g := by
  rw [fullest_concat]
  refine ⟨fun hfull => hfull.1, fun hfull => ⟨hfull, fun hname => ?_⟩⟩
  obtain ⟨i, hi⟩ := List.getElem?_of_mem hg
  exact hle (g, i) ((h.mem_iff (g, i)).2 ⟨List.mem_zipIdx_iff_getElem?.2 hi, hfull⟩) hname.symm

private theorem Arranges.pairwise_concat (h : Arranges fs ps)
    (hle : ∀ p ∈ ps, p.1.name = f.name → f.arity ≤ p.1.arity) :
    ps.Pairwise fun p q => place (fs ++ [f]) p < place (fs ++ [f]) q := by
  refine h.pairwise.imp_of_mem ?_
  intro p q hp hq hlt
  rw [place_concat ((h.mem_iff p).1 hp).1 fun g hg _ => h.fullest_concat_iff hle hg,
    place_concat ((h.mem_iff q).1 hq).1 fun g hg _ => h.fullest_concat_iff hle hg]
  exact hlt

/-- A declaration with fewer arguments than a kept one of its name is dropped. -/
private theorem Arranges.drop (h : Arranges fs ps) {p : BoundFunction × Nat} (hp : p ∈ ps)
    (hname : p.1.name = f.name) (hlt : f.arity < p.1.arity) : Arranges (fs ++ [f]) ps := by
  have hle : ∀ q ∈ ps, q.1.name = f.name → f.arity ≤ q.1.arity := by
    intro q hq hqname
    have := h.arity_eq hp hq (hname.trans hqname.symm)
    omega
  refine ⟨fun q => ?_, h.pairwise_concat hle⟩
  rw [mem_zipIdx_concat, h.mem_iff]
  constructor
  · rintro ⟨hq, hfull⟩
    exact ⟨.inl hq, (h.fullest_concat_iff hle (fst_mem_of_mem_zipIdx hq)).2 hfull⟩
  · rintro ⟨hq | rfl, hfull⟩
    · exact ⟨hq, (h.fullest_concat_iff hle (fst_mem_of_mem_zipIdx hq)).1 hfull⟩
    · have hge : p.1.arity ≤ f.arity :=
        (fullest_concat.1 hfull).1 p.1 (fst_mem_of_mem_zipIdx ((h.mem_iff p).1 hp).1) hname
      omega

section Append

variable (heq : ∀ p ∈ ps, p.1.name = f.name → p.1.arity = f.arity)
include heq

private theorem Arranges.fullest_of_eq (h : Arranges fs ps) : Fullest (fs ++ [f]) f := by
  rw [fullest_concat]
  refine ⟨fun g hg hname => ?_, fun _ => Nat.le_refl _⟩
  obtain ⟨p, hp, hpname, hpfull⟩ := exists_fullest hg
  have hge := hpfull g hg hpname.symm
  rwa [heq p ((h.mem_iff p).2 ⟨hp, hpfull⟩) (hpname.trans hname)] at hge

/-- A declaration that replaces none stands in its own place, also when it is the first of its name. -/
private theorem Arranges.place_of_eq (h : Arranges fs ps) : place (fs ++ [f]) (f, fs.length) = fs.length := by
  have hle : ∀ p ∈ ps, p.1.name = f.name → f.arity ≤ p.1.arity :=
    fun p hp hname => Nat.le_of_eq (heq p hp hname).symm
  unfold place
  split
  · rfl
  · rename_i hnone
    have hnew : ∀ g ∈ fs, ¬ g.name = f.name := by
      intro g hg hname
      obtain ⟨p, hp, hpname, hpfull⟩ := exists_fullest hg
      exact hnone ⟨p, mem_zipIdx_concat.2 (.inl hp), snd_lt_of_mem_zipIdx hp, hpname.trans hname,
        (h.fullest_concat_iff hle (fst_mem_of_mem_zipIdx hp)).2 hpfull⟩
    have hend : (fs.findIdx fun g => g.name == f.name) = fs.length := by
      rw [List.findIdx_eq_length]
      intro g hg
      simpa using hnew g hg
    rw [List.findIdx_append, hend, if_neg (Nat.lt_irrefl _)]
    simp

/-- A declaration with as many arguments as those kept of its name, if there are any, joins them at the end. -/
private theorem Arranges.append (h : Arranges fs ps) : Arranges (fs ++ [f]) (ps ++ [(f, fs.length)]) := by
  have hle : ∀ p ∈ ps, p.1.name = f.name → f.arity ≤ p.1.arity :=
    fun p hp hname => Nat.le_of_eq (heq p hp hname).symm
  refine ⟨fun q => ?_, ?_⟩
  · rw [mem_zipIdx_concat, List.mem_append, List.mem_singleton, h.mem_iff]
    constructor
    · rintro (⟨hq, hqfull⟩ | rfl)
      · exact ⟨.inl hq, (h.fullest_concat_iff hle (fst_mem_of_mem_zipIdx hq)).2 hqfull⟩
      · exact ⟨.inr rfl, h.fullest_of_eq heq⟩
    · rintro ⟨hq | rfl, hqfull⟩
      · exact .inl ⟨hq, (h.fullest_concat_iff hle (fst_mem_of_mem_zipIdx hq)).1 hqfull⟩
      · exact .inr rfl
  · rw [List.pairwise_append]
    refine ⟨h.pairwise_concat hle, List.pairwise_singleton _ _, ?_⟩
    intro p hp q hq
    obtain rfl := List.mem_singleton.1 hq
    have hpz := ((h.mem_iff p).1 hp).1
    have hnew : place (fs ++ [f]) p ≤ p.2 := place_le (mem_zipIdx_concat.2 (.inl hpz))
    have hlt := snd_lt_of_mem_zipIdx hpz
    rw [h.place_of_eq heq]
    omega

end Append

section Replace

variable {p : BoundFunction × Nat}

/-- A declaration that exceeds one kept declaration of its name exceeds every declaration of that name. -/
private theorem Arranges.yieldsTo_iff_name (h : Arranges fs ps) (hp : p ∈ ps) (hy : yieldsTo f p.1 = true)
    {g : BoundFunction} (hg : g ∈ fs) : yieldsTo f g = true ↔ g.name = f.name := by
  obtain ⟨hname, hlt⟩ := yieldsTo_iff.1 hy
  refine ⟨fun hgy => (yieldsTo_iff.1 hgy).1, fun hgname => yieldsTo_iff.2 ⟨hgname, ?_⟩⟩
  exact Nat.lt_of_le_of_lt (((h.mem_iff p).1 hp).2 g hg (hgname.trans hname.symm)) hlt

private theorem Arranges.fullest_concat_iff_of_yieldsTo (h : Arranges fs ps) (hp : p ∈ ps)
    (hy : yieldsTo f p.1 = true) {g : BoundFunction} (hg : g ∈ fs) :
    Fullest (fs ++ [f]) g ↔ Fullest fs g ∧ ¬ yieldsTo f g = true := by
  have hname := h.yieldsTo_iff_name hp hy hg
  rw [fullest_concat]
  refine and_congr_right fun _ => ⟨fun hle hgy => ?_, fun hgy hgname => absurd (hname.2 hgname.symm) hgy⟩
  obtain ⟨hgname, hlt⟩ := yieldsTo_iff.1 hgy
  have := hle hgname.symm
  omega

/-- The places of the declarations that stay do not change. -/
private theorem Arranges.place_concat_of_yieldsTo (h : Arranges fs ps) (hp : p ∈ ps)
    (hy : yieldsTo f p.1 = true) {q : BoundFunction × Nat} (hq : q ∈ ps) (hqy : ¬ yieldsTo f q.1 = true) :
    place (fs ++ [f]) q = place fs q := by
  have hqz := ((h.mem_iff q).1 hq).1
  refine place_concat hqz fun g hg hgname => ?_
  rw [h.yieldsTo_iff_name hp hy (fst_mem_of_mem_zipIdx hqz)] at hqy
  rw [h.fullest_concat_iff_of_yieldsTo hp hy hg, h.yieldsTo_iff_name hp hy hg, hgname]
  exact and_iff_left hqy

/-- The first kept declaration of a name stands where the name first occurred. -/
private theorem Arranges.place_first {A B : List (BoundFunction × Nat)} (h : Arranges fs (A ++ p :: B))
    (hA : ∀ q ∈ A, q.1.name ≠ p.1.name) : place fs p = fs.findIdx fun g => g.name == p.1.name := by
  unfold place
  split
  · rename_i hearlier
    obtain ⟨q, hq, hlt, hname, hfull⟩ := hearlier
    have hafter := (List.pairwise_cons.1 (List.pairwise_append.1 h.pairwise).2.1).1
    rcases List.mem_append.1 ((h.mem_iff q).2 ⟨hq, hfull⟩) with hqA | hqB
    · exact absurd hname (hA q hqA)
    · rcases List.mem_cons.1 hqB with rfl | hqB
      · omega
      · -- an earlier declaration cannot stand behind `p`
        have hpq := hafter q hqB
        have hle := place_le hq
        have hp : place fs p = p.2 := by
          unfold place
          exact if_pos ⟨q, hq, hlt, hname, hfull⟩
        omega
  · rfl

/-- A declaration that replaces others takes over the place of the first. -/
private theorem Arranges.place_replace {A B : List (BoundFunction × Nat)} (h : Arranges fs (A ++ p :: B))
    (hA : ∀ q ∈ A, ¬ yieldsTo f q.1 = true) (hy : yieldsTo f p.1 = true) :
    place (fs ++ [f]) (f, fs.length) = place fs p := by
  have hp : p ∈ A ++ p :: B := by simp
  have hname := (yieldsTo_iff.1 hy).1
  have hpin := fst_mem_of_mem_zipIdx ((h.mem_iff p).1 hp).1
  have hfirst : place fs p = fs.findIdx fun g => g.name == p.1.name := by
    refine h.place_first fun q hq hqname => hA q hq ?_
    have hqin := fst_mem_of_mem_zipIdx ((h.mem_iff q).1 (List.mem_append_left _ hq)).1
    exact (h.yieldsTo_iff_name hp hy hqin).2 (hqname.trans hname)
  rw [hfirst]
  unfold place
  split
  · rename_i hearlier
    obtain ⟨q, hq, hlt, hqname, hfull⟩ := hearlier
    rcases mem_zipIdx_concat.1 hq with hq | rfl
    · have hqin := fst_mem_of_mem_zipIdx hq
      exact absurd ((h.yieldsTo_iff_name hp hy hqin).2 hqname)
        ((h.fullest_concat_iff_of_yieldsTo hp hy hqin).1 hfull).2
    · exact absurd hlt (Nat.lt_irrefl _)
  · rw [List.findIdx_append, hname, if_pos (findIdx_name_lt hpin hname)]

/-- A declaration with more arguments than those kept of its name replaces them all, in the place of the first. -/
private theorem Arranges.replace {A B : List (BoundFunction × Nat)} (h : Arranges fs (A ++ p :: B))
    (hA : ∀ q ∈ A, ¬ yieldsTo f q.1 = true) (hy : yieldsTo f p.1 = true) :
    Arranges (fs ++ [f]) (A ++ (f, fs.length) :: B.filter fun q => !yieldsTo f q.1) := by
  have hp : p ∈ A ++ p :: B := by simp
  have hother := fun {g : BoundFunction} => h.fullest_concat_iff_of_yieldsTo (g := g) hp hy
  refine ⟨fun q => ?_, ?_⟩
  · have hmem : q ∈ A ++ (f, fs.length) :: B.filter (fun q => !yieldsTo f q.1) ↔
        (q ∈ A ++ p :: B ∧ ¬ yieldsTo f q.1 = true) ∨ q = (f, fs.length) := by
      simp only [List.mem_append, List.mem_cons, List.mem_filter, Bool.not_eq_true', ← Bool.not_eq_true]
      constructor
      · rintro (hq | rfl | ⟨hq, hqy⟩)
        · exact .inl ⟨.inl hq, hA q hq⟩
        · exact .inr rfl
        · exact .inl ⟨.inr (.inr hq), hqy⟩
      · rintro (⟨hq | rfl | hq, hqy⟩ | rfl)
        · exact .inl hq
        · exact absurd hy hqy
        · exact .inr (.inr ⟨hq, hqy⟩)
        · exact .inr (.inl rfl)
    rw [hmem, mem_zipIdx_concat, h.mem_iff]
    constructor
    · rintro (⟨⟨hq, hfull⟩, hqy⟩ | rfl)
      · exact ⟨.inl hq, (hother (fst_mem_of_mem_zipIdx hq)).2 ⟨hfull, hqy⟩⟩
      · refine ⟨.inr rfl, fullest_concat.2 ⟨fun g hg hname => ?_, fun _ => Nat.le_refl _⟩⟩
        exact Nat.le_of_lt (yieldsTo_iff.1 ((h.yieldsTo_iff_name hp hy hg).2 hname)).2
    · rintro ⟨hq | rfl, hfull⟩
      · obtain ⟨hfull, hqy⟩ := (hother (fst_mem_of_mem_zipIdx hq)).1 hfull
        exact .inl ⟨⟨hq, hfull⟩, hqy⟩
      · exact .inr rfl
  · -- the places are those of the old list, with the declarations that go left out
    have hA' : A.map (place (fs ++ [f])) = A.map (place fs) :=
      List.map_congr_left fun q hq =>
        h.place_concat_of_yieldsTo hp hy (List.mem_append_left _ hq) (hA q hq)
    have hB' : (B.filter fun q => !yieldsTo f q.1).map (place (fs ++ [f])) =
        (B.filter fun q => !yieldsTo f q.1).map (place fs) := by
      refine List.map_congr_left fun q hq => ?_
      obtain ⟨hq, hqy⟩ := List.mem_filter.1 hq
      exact h.place_concat_of_yieldsTo hp hy (by simp [hq]) (by simpa using hqy)
    rw [← List.pairwise_map (f := place (fs ++ [f])) (R := (· < ·)), List.map_append, List.map_cons, hA', hB',
      h.place_replace hA hy, ← List.map_cons, ← List.map_append, List.pairwise_map]
    exact h.pairwise.sublist ((List.filter_sublist.cons_cons p).append_left A)

end Replace

/-! ### The whole list -/

theorem Arranges.add (h : Arranges fs ps) (f : BoundFunction) :
    ∃ ps', Arranges (fs ++ [f]) ps' ∧ Roster.add (ps.map Prod.fst) f = ps'.map Prod.fst := by
  by_cases hout : outranks (ps.map Prod.fst) f = true
  · refine ⟨ps, ?_, by rw [Roster.add, if_pos hout]⟩
    obtain ⟨g, hg, hy⟩ := List.any_eq_true.1 hout
    obtain ⟨p, hp, rfl⟩ := List.mem_map.1 hg
    obtain ⟨hname, hlt⟩ := yieldsTo_iff.1 hy
    exact h.drop hp hname.symm hlt
  · have hadd : Roster.add (ps.map Prod.fst) f = supersede f (ps.map Prod.fst) := by
      rw [Roster.add, if_neg hout]
    rw [hadd]
    cases hfind : ps.find? fun p => yieldsTo f p.1 with
    | none =>
      have hnot : ∀ p ∈ ps, ¬ yieldsTo f p.1 = true := List.find?_eq_none.1 hfind
      have heq : ∀ p ∈ ps, p.1.name = f.name → p.1.arity = f.arity := by
        intro p hp hname
        have hge : ¬ p.1.arity < f.arity := fun hlt => hnot p hp (yieldsTo_iff.2 ⟨hname, hlt⟩)
        have hle : ¬ f.arity < p.1.arity := fun hlt =>
          hout (List.any_eq_true.2 ⟨p.1, List.mem_map_of_mem hp, yieldsTo_iff.2 ⟨hname.symm, hlt⟩⟩)
        omega
      refine ⟨ps ++ [(f, fs.length)], h.append heq, ?_⟩
      rw [supersede_of_not_yieldsTo (by simpa using hnot), List.map_append]
      rfl
    | some p =>
      obtain ⟨hy, A, B, rfl, hA⟩ := List.find?_eq_some_iff_append.1 hfind
      have hA' : ∀ q ∈ A, ¬ yieldsTo f q.1 = true := fun q hq => by simpa using hA q hq
      refine ⟨_, h.replace hA' hy, ?_⟩
      have hAfst : ∀ g ∈ A.map Prod.fst, ¬ yieldsTo f g = true := by
        intro g hg
        obtain ⟨q, hq, rfl⟩ := List.mem_map.1 hg
        exact hA' q hq
      rw [List.map_append, List.map_cons, supersede_of_yieldsTo hAfst hy, List.map_append, List.map_cons,
        List.filter_map]
      rfl

theorem exists_arranges (fs : List BoundFunction) :
    ∃ ps, Arranges fs ps ∧ ofList fs = ps.map Prod.fst := by
  induction fs using List.reverseRecOn with
  | nil => exact ⟨[], ⟨by simp, List.Pairwise.nil⟩, rfl⟩
  | append_singleton fs f ih =>
    obtain ⟨ps, hps, hofList⟩ := ih
    obtain ⟨ps', hps', hadd⟩ := hps.add f
    refine ⟨ps', hps', ?_⟩
    rw [ofList, List.foldl_append]
    show Roster.add (ofList fs) f = ps'.map Prod.fst
    rw [hofList, hadd]

/-- What is kept are the declarations with the most arguments among those of their name. -/
theorem mem_ofList : f ∈ ofList fs ↔ f ∈ fs ∧ Fullest fs f := by
  obtain ⟨ps, hps, hofList⟩ := exists_arranges fs
  rw [hofList, List.mem_map]
  constructor
  · rintro ⟨p, hp, rfl⟩
    obtain ⟨hpz, hfull⟩ := (hps.mem_iff p).1 hp
    exact ⟨fst_mem_of_mem_zipIdx hpz, hfull⟩
  · rintro ⟨hf, hfull⟩
    obtain ⟨i, hi⟩ := List.getElem?_of_mem hf
    exact ⟨(f, i), (hps.mem_iff (f, i)).2 ⟨List.mem_zipIdx_iff_getElem?.2 hi, hfull⟩, rfl⟩

/-- The declaration `f` with number `i` is the earliest of those with the most arguments among those of its name.
-/
structure FirstFullest (fs : List BoundFunction) (i : Nat) (f : BoundFunction) : Prop where
  getElem? : fs[i]? = some f
  fullest : Fullest fs f
  arity_lt : ∀ j < i, ∀ g, fs[j]? = some g → g.name = f.name → g.arity < f.arity

theorem exists_firstFullest {g : BoundFunction} (hg : g ∈ fs) :
    ∃ i f, FirstFullest fs i f ∧ f.name = g.name := by
  have hex : ∃ i : Nat, ∃ f, fs[i]? = some f ∧ f.name = g.name ∧ Fullest fs f := by
    obtain ⟨p, hp, hname, hfull⟩ := exists_fullest hg
    exact ⟨p.2, p.1, List.mem_zipIdx_iff_getElem?.1 hp, hname, hfull⟩
  classical
  obtain ⟨f, hf, hname, hfull⟩ := Nat.find_spec hex
  refine ⟨Nat.find hex, f, ⟨hf, hfull, fun j hj h hh hhname => ?_⟩, hname⟩
  have hle := hfull h (List.mem_of_getElem? hh) hhname
  -- one with as many arguments would be an earlier one with the most
  refine Nat.lt_of_le_of_ne hle fun heq => Nat.find_min hex hj ⟨h, hh, hhname.trans hname, ?_⟩
  intro k hk hkname
  exact heq ▸ hfull k hk (hkname.trans hhname)

/-- Of the kept declarations of a name, the earliest one with the most arguments stands first. -/
theorem FirstFullest.find?_ofList {i : Nat} (h : FirstFullest fs i f) :
    (ofList fs).find? (fun g => g.name == f.name) = some f := by
  obtain ⟨ps, hps, hofList⟩ := exists_arranges fs
  have hfi : (f, i) ∈ fs.zipIdx := List.mem_zipIdx_iff_getElem?.2 h.getElem?
  obtain ⟨A, B, rfl⟩ := List.append_of_mem ((hps.mem_iff (f, i)).2 ⟨hfi, h.fullest⟩)
  have hbefore : ∀ q ∈ A, q.1.name ≠ f.name := by
    intro q hq hqname
    have hplace := (List.pairwise_append.1 hps.pairwise).2.2 q hq (f, i) (by simp)
    obtain ⟨hqz, hqfull⟩ := (hps.mem_iff q).1 (List.mem_append_left _ hq)
    have hqge : ¬ q.2 < i := fun hlt =>
      Nat.not_le_of_lt (h.arity_lt q.2 hlt q.1 (List.mem_zipIdx_iff_getElem?.1 hqz) hqname)
        (hqfull f (List.mem_of_getElem? h.getElem?) hqname.symm)
    have hfplace : place fs (f, i) ≤ i := place_le hfi
    by_cases heq : q.2 = i
    · -- then it is the declaration itself, which has one place only
      have hqf : q.1 = f := by
        have hget := List.mem_zipIdx_iff_getElem?.1 hqz
        rw [heq, h.getElem?] at hget
        exact (Option.some.inj hget).symm
      rw [show q = (f, i) from Prod.ext hqf heq] at hplace
      exact Nat.lt_irrefl _ hplace
    · -- a later one keeps its own place
      have hqplace : place fs q = q.2 := by
        unfold place
        exact if_pos ⟨(f, i), hfi, by simp only; omega, hqname.symm, h.fullest⟩
      omega
  rw [hofList, List.map_append, List.map_cons, List.find?_append, List.find?_eq_none.2]
  · simp
  · intro g hg
    obtain ⟨q, hq, rfl⟩ := List.mem_map.1 hg
    simpa using hbefore q hq

/-! ### Other names -/

variable {name : Text}

private theorem filter_supersede (r : Roster) (hname : f.name = name) :
    (supersede f r).filter (fun g => g.name == name) = supersede f (r.filter fun g => g.name == name) := by
  induction r with
  | nil => simp [supersede, hname]
  | cons g r ih =>
    by_cases hy : yieldsTo f g = true
    · have hg : g.name = name := (yieldsTo_iff.1 hy).1.trans hname
      have hcomm : (fun h => h.name == name && !yieldsTo f h) = fun h => !yieldsTo f h && h.name == name :=
        funext fun h => Bool.and_comm _ _
      simp only [supersede, hy, ↓reduceIte, List.filter_cons, hname, hg, beq_self_eq_true,
        List.filter_filter, hcomm]
    · by_cases hg : g.name = name
      · simp only [supersede, hy, ↓reduceIte, List.filter_cons, hg, beq_self_eq_true, Bool.false_eq_true, ih]
      · simp only [supersede, hy, ↓reduceIte, List.filter_cons, beq_iff_eq, hg, Bool.false_eq_true, ih]

private theorem filter_supersede_of_ne (r : Roster) (hname : f.name ≠ name) :
    (supersede f r).filter (fun g => g.name == name) = r.filter fun g => g.name == name := by
  induction r with
  | nil => simp [supersede, hname]
  | cons g r ih =>
    by_cases hy : yieldsTo f g = true
    · have hg : g.name ≠ name := fun hg => hname ((yieldsTo_iff.1 hy).1.symm.trans hg)
      simp only [supersede, hy, ↓reduceIte, List.filter_cons, beq_iff_eq, hname, hg, List.filter_filter]
      refine List.filter_congr fun h _ => ?_
      by_cases hh : h.name = name
      · have hnot : yieldsTo f h = false := by
          rw [← Bool.not_eq_true, yieldsTo_iff]
          exact fun hn => hname (hn.1.symm.trans hh)
        simp [hh, hnot]
      · simp [hh]
    · simp only [supersede, hy, ↓reduceIte, List.filter_cons, Bool.false_eq_true, ih]

private theorem outranks_filter (r : Roster) (hname : f.name = name) :
    outranks (r.filter fun g => g.name == name) f = outranks r f := by
  rw [Bool.eq_iff_iff, outranks, outranks, List.any_eq_true, List.any_eq_true]
  constructor
  · rintro ⟨g, hg, hy⟩
    exact ⟨g, (List.mem_filter.1 hg).1, hy⟩
  · rintro ⟨g, hg, hy⟩
    exact ⟨g, List.mem_filter.2 ⟨hg, by simpa using (yieldsTo_iff.1 hy).1.symm.trans hname⟩, hy⟩

theorem filter_add (r : Roster) (f : BoundFunction) (name : Text) :
    (r.add f).filter (fun g => g.name == name) =
      if f.name = name then Roster.add (r.filter fun g => g.name == name) f
      else r.filter fun g => g.name == name := by
  by_cases hname : f.name = name
  · rw [if_pos hname, Roster.add, Roster.add, outranks_filter r hname]
    split
    · rfl
    · exact filter_supersede r hname
  · rw [if_neg hname, Roster.add]
    split
    · rfl
    · exact filter_supersede_of_ne r hname

/-- What is kept of a name depends on the declarations of that name alone. -/
theorem filter_ofList (fs : List BoundFunction) (name : Text) :
    (ofList fs).filter (fun g => g.name == name) = ofList (fs.filter fun g => g.name == name) := by
  induction fs using List.reverseRecOn with
  | nil => rfl
  | append_singleton fs f ih =>
    have hstep : ofList (fs ++ [f]) = (ofList fs).add f := by
      rw [ofList, List.foldl_append]
      rfl
    rw [hstep, filter_add, ih, List.filter_append]
    by_cases hname : f.name = name
    · have hone : [f].filter (fun g => g.name == name) = [f] := by simp [hname]
      rw [if_pos hname, hone, ofList, ofList, List.foldl_append]
      rfl
    · have hone : [f].filter (fun g => g.name == name) = [] := by simp [hname]
      rw [if_neg hname, hone, List.append_nil]

/-- The roster holds exactly the declarations that have the most arguments among those of their name, each once,
and in the order of their places.  What is kept of a name does not depend on the declarations of other names, and
no declaration with fewer arguments is kept. -/
theorem ofList_eq_fullest (fs : List BoundFunction) :
    (∃ ps : List (BoundFunction × Nat), (∀ p, p ∈ ps ↔ p ∈ fs.zipIdx ∧ Fullest fs p.1) ∧
      (ps.Pairwise fun p q => place fs p < place fs q) ∧ ofList fs = ps.map Prod.fst) ∧
    (∀ name, (ofList fs).filter (fun g => g.name == name) = ofList (fs.filter fun g => g.name == name)) ∧
    ∀ f ∈ ofList fs, ∀ g ∈ fs, g.name = f.name → g.arity ≤ f.arity := by
  obtain ⟨ps, hps, hofList⟩ := exists_arranges fs
  refine ⟨⟨ps, hps.mem_iff, hps.pairwise, hofList⟩, filter_ofList fs, ?_⟩
  intro f hf
  rw [hofList] at hf
  obtain ⟨p, hp, rfl⟩ := List.mem_map.1 hf
  exact ((hps.mem_iff p).1 hp).2

/-- The second declaration of `a` has more arguments, and takes the place of the first. -/
example : (ofList [⟨[], ['a'], [], none, []⟩, ⟨[], ['b'], [], none, []⟩,
    ⟨[], ['a'], [], none, [⟨['x'], none, false⟩]⟩]).map (fun f => (f.name, f.arity)) =
      [(['a'], 1), (['b'], 0)] := by decide

end BindingDocs.Roster
