import BindingDocs.Text.Order
import Mathlib.Data.List.Perm.Basic

/-!
# Lists in the order of names

Sorting by name is stable: the elements of each name keep their order (`filter_mergeSort_name`).  A list in the order
of names is known from its elements of each name (`eq_of_filter_name_eq`), so the order in which lists are joined and
then sorted does not matter if no name is in two of them (`mergeSort_flatten_eq_of_perm`).
-/

namespace BindingDocs

variable {α : Type} {name : α → Text}

private theorem name_le_trans (x y z : α) (hxy : Text.le (name x) (name y) = true)
    (hyz : Text.le (name y) (name z) = true) : Text.le (name x) (name z) = true :=
  Text.le_trans hxy hyz

private theorem name_le_total (x y : α) : (Text.le (name x) (name y) || Text.le (name y) (name x)) = true :=
  Text.le_total (name x) (name y)

theorem pairwise_mergeSort_name (xs : List α) :
    (xs.mergeSort fun x y => Text.le (name x) (name y)).Pairwise fun x y => Text.le (name x) (name y) = true :=
  List.pairwise_mergeSort name_le_trans name_le_total xs

private theorem pairwise_filter_name (xs : List α) (key : Text) :
    (xs.filter fun x => name x == key).Pairwise fun x y => Text.le (name x) (name y) = true := by
  refine List.Pairwise.imp_of_mem ?_ (List.pairwise_of_forall (R := fun _ _ => True) fun _ _ => trivial)
  intro x y hx hy _
  rw [eq_of_beq (List.mem_filter.1 hx).2, eq_of_beq (List.mem_filter.1 hy).2]
  exact Text.le_refl key

/-- Sorting leaves the elements of one name in their order. -/
theorem filter_mergeSort_name (xs : List α) (key : Text) :
    ((xs.mergeSort fun x y => Text.le (name x) (name y)).filter fun x => name x == key) =
      xs.filter fun x => name x == key := by
  have hsub : List.Sublist (xs.filter fun x => name x == key) (xs.mergeSort fun x y => Text.le (name x) (name y)) :=
    List.sublist_mergeSort name_le_trans name_le_total (pairwise_filter_name xs key) List.filter_sublist
  have hlength := ((List.mergeSort_perm xs fun x y => Text.le (name x) (name y)).filter
    fun x => name x == key).length_eq
  have hfilter := hsub.filter fun x => name x == key
  simp only [List.filter_filter, Bool.and_self] at hfilter
  exact (hfilter.eq_of_length hlength.symm).symm

private theorem mem_iff_of_filter_name_eq {xs ys : List α}
    (h : ∀ key, (xs.filter fun x => name x == key) = ys.filter fun x => name x == key) (z : α) : z ∈ xs ↔ z ∈ ys := by
  have hz := congrArg (z ∈ ·) (h (name z))
  simpa using hz

/-- Two lists in the order of names are the same if they have the same elements of each name, in the same order. -/
theorem eq_of_filter_name_eq {xs ys : List α} (hx : xs.Pairwise fun x y => Text.le (name x) (name y) = true)
    (hy : ys.Pairwise fun x y => Text.le (name x) (name y) = true)
    (h : ∀ key, (xs.filter fun x => name x == key) = ys.filter fun x => name x == key) : xs = ys := by
  induction xs generalizing ys with
  | nil =>
    cases ys with
    | nil => rfl
    | cons y ys => exact absurd ((mem_iff_of_filter_name_eq h y).2 List.mem_cons_self) List.not_mem_nil
  | cons x xs ih =>
    cases ys with
    | nil => exact absurd ((mem_iff_of_filter_name_eq h x).1 List.mem_cons_self) List.not_mem_nil
    | cons y ys =>
      have hmem := mem_iff_of_filter_name_eq h
      rw [List.pairwise_cons] at hx hy
      have hxy : name x = name y := by
        refine Text.le_antisymm ?_ ?_
        · rcases List.mem_cons.1 ((hmem y).2 List.mem_cons_self) with rfl | hm
          · exact Text.le_refl _
          · exact hx.1 y hm
        · rcases List.mem_cons.1 ((hmem x).1 List.mem_cons_self) with rfl | hm
          · exact Text.le_refl _
          · exact hy.1 x hm
      have hheads := h (name x)
      rw [List.filter_cons_of_pos (by simp), List.filter_cons_of_pos (by simp [hxy]), List.cons.injEq] at hheads
      obtain ⟨rfl, -⟩ := hheads
      have htails : ∀ key, (xs.filter fun x => name x == key) = ys.filter fun x => name x == key := by
        intro key
        have hkey := h key
        by_cases hk : name x = key
        · simpa [hk] using hkey
        · simpa [hk] using hkey
      rw [ih hx.2 hy.2 htails]

/-! ### Lists that are joined -/

/-- Of lists of which at most one has elements, the order does not matter. -/
private theorem flatten_eq_of_perm {lists lists' : List (List α)} (hperm : lists.Perm lists')
    (h : lists.Pairwise fun xs ys => xs = [] ∨ ys = []) : lists.flatten = lists'.flatten := by
  induction hperm with
  | nil => rfl
  | cons xs _ ih =>
    rw [List.pairwise_cons] at h
    rw [List.flatten_cons, List.flatten_cons, ih h.2]
  | swap xs ys lists =>
    rw [List.pairwise_cons] at h
    rcases h.1 xs List.mem_cons_self with rfl | rfl <;> simp
  | trans hperm _ ih ih' =>
    exact (ih h).trans (ih' ((hperm.pairwise_iff fun hor => hor.symm).1 h))

/-- If no name is in two of the lists, they may be joined in any order before they are sorted. -/
theorem mergeSort_flatten_eq_of_perm {lists lists' : List (List α)} (hperm : lists.Perm lists')
    (hapart : lists.Pairwise fun xs ys => ∀ x ∈ xs, ∀ y ∈ ys, name x ≠ name y) :
    (lists.flatten.mergeSort fun x y => Text.le (name x) (name y)) =
      lists'.flatten.mergeSort fun x y => Text.le (name x) (name y) := by
  refine eq_of_filter_name_eq (pairwise_mergeSort_name _) (pairwise_mergeSort_name _) fun key => ?_
  rw [filter_mergeSort_name, filter_mergeSort_name, List.filter_flatten, List.filter_flatten]
  refine flatten_eq_of_perm (hperm.map _) (List.pairwise_map.2 (hapart.imp ?_))
  intro xs ys hxy
  -- a list with an element of the name leaves none for the other
  by_cases hx : ∃ x ∈ xs, name x = key
  · obtain ⟨x, hx, hxkey⟩ := hx
    right
    rw [List.filter_eq_nil_iff]
    intro y hy hykey
    exact hxy x hx y hy (hxkey.trans (eq_of_beq hykey).symm)
  · left
    rw [List.filter_eq_nil_iff]
    intro x hm hxkey
    exact hx ⟨x, hm, eq_of_beq hxkey⟩

end BindingDocs
