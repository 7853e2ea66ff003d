import BindingDocs.Text.Basic

/-!
# The order of texts

Texts are ordered by code point, character by character, which is also the order of their bytes in UTF-8.  The
order is linear: `le_total`, `le_trans` and `le_antisymm`.
-/

namespace BindingDocs.Text

/-- Does `s` come before `t`, or are they the same? -/
def le : Text → Text → Bool
  | [], _ => true
  | _ :: _, [] => false
  | a :: s, b :: t => decide (a.toNat < b.toNat) || (a.toNat == b.toNat && le s t)

private theorem toNat_inj {a b : Char} (h : a.toNat = b.toNat) : a = b :=
  Char.ext (UInt32.toNat_inj.1 h)

theorem le_refl (s : Text) : le s s = true := by
  induction s with
  | nil => rfl
  | cons a s ih => simp [le, ih]

theorem le_total (s t : Text) : (le s t || le t s) = true := by
  induction s generalizing t with
  | nil => simp [le]
  | cons a s ih =>
    cases t with
    | nil => simp [le]
    | cons b t =>
      have h := ih t
      rcases Nat.lt_trichotomy a.toNat b.toNat with hab | hab | hab
      · simp [le, hab]
      · simpa [le, hab] using h
      · simp [le, hab]

theorem le_trans {s t u : Text} (hst : le s t = true) (htu : le t u = true) : le s u = true := by
  induction s generalizing t u with
  | nil => simp [le]
  | cons a s ih =>
    cases t with
    | nil => simp [le] at hst
    | cons b t =>
      cases u with
      | nil => simp [le] at htu
      | cons c u =>
        simp only [le, Bool.or_eq_true, Bool.and_eq_true, decide_eq_true_eq, beq_iff_eq] at hst htu ⊢
        rcases hst with h | ⟨h, hs⟩
        · omega
        · rcases htu with k | ⟨k, hu⟩
          · omega
          · exact .inr ⟨h.trans k, ih hs hu⟩

theorem le_antisymm {s t : Text} (hst : le s t = true) (hts : le t s = true) : s = t := by
  induction s generalizing t with
  | nil =>
    cases t with
    | nil => rfl
    | cons b t => simp [le] at hts
  | cons a s ih =>
    cases t with
    | nil => simp [le] at hst
    | cons b t =>
      simp only [le, Bool.or_eq_true, Bool.and_eq_true, decide_eq_true_eq, beq_iff_eq] at hst hts
      rcases hst with h | ⟨h, hs⟩
      · omega
      · rcases hts with k | ⟨_, ht⟩
        · omega
        · rw [toNat_inj h, ih hs ht]

end BindingDocs.Text
