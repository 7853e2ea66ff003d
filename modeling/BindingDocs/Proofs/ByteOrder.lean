import BindingDocs.Text.Order
import BindingDocs.Text.Utf8
import Mathlib.Data.List.Basic
import Mathlib.Tactic.SplitIfs

/-!
# The order of bytes

The order of texts by code points is the order of their bytes in UTF-8 (`toBytes_le_toBytes_iff`).  The bytes of two
different characters differ before one of them ends, and the smaller byte is that of the smaller code point
(`utf8EncodeChar_append_lt`).
-/

namespace BindingDocs.Text

private theorem ofNat_lt_ofNat {m n : Nat} (hm : m < 256) (hn : n < 256) :
    UInt8.ofNat m < UInt8.ofNat n ↔ m < n := by
  rw [UInt8.lt_iff_toNat_lt, UInt8.toNat_ofNat', UInt8.toNat_ofNat', Nat.mod_eq_of_lt hm, Nat.mod_eq_of_lt hn]

private theorem ofNat_eq_ofNat {m n : Nat} (hm : m < 256) (hn : n < 256) :
    UInt8.ofNat m = UInt8.ofNat n ↔ m = n := by
  rw [← UInt8.toNat_inj, UInt8.toNat_ofNat', UInt8.toNat_ofNat', Nat.mod_eq_of_lt hm, Nat.mod_eq_of_lt hn]

/-- Whatever follows, the bytes of the character with the smaller code point come first. -/
theorem utf8EncodeChar_append_lt {a b : Char} (h : a.toNat < b.toNat) (x y : Bytes) :
    String.utf8EncodeChar a ++ x < String.utf8EncodeChar b ++ y := by
  have hb : b.toNat < 0x110000 := by
    rcases b.valid with hv | hv
    · exact Nat.lt_trans hv (by decide)
    · exact hv.2
  simp only [String.utf8EncodeChar, ← Char.toNat.eq_1]
  generalize a.toNat = m at *
  generalize b.toNat = n at *
  -- one case for each number of bytes on either side; each byte is in its range, so none wraps around
  split_ifs <;>
    simp (disch := omega) only [List.cons_append, List.nil_append, List.cons_lt_cons_iff, ofNat_lt_ofNat,
      ofNat_eq_ofNat, Nat.mod_eq_of_lt] <;>
    omega

private theorem append_lt_append_iff (start x y : Bytes) : start ++ x < start ++ y ↔ x < y := by
  induction start with
  | nil => rfl
  | cons b start ih => simp [ih]

theorem toBytes_lt_toBytes_iff {s t : Text} : s.toBytes < t.toBytes ↔ le t s = false := by
  have hcons : ∀ (c : Char) (u : Text), toBytes (c :: u) = String.utf8EncodeChar c ++ toBytes u := fun _ _ => rfl
  induction s generalizing t with
  | nil =>
    cases t with
    | nil => simp [toBytes, le]
    | cons b t =>
      obtain ⟨first, rest, hfirst⟩ := List.exists_cons_of_ne_nil (String.utf8EncodeChar_ne_nil (c := b))
      simp [toBytes, le, hfirst]
  | cons a s ih =>
    cases t with
    | nil => simp [toBytes, le]
    | cons b t =>
      rw [hcons, hcons]
      rcases Nat.lt_trichotomy a.toNat b.toNat with hab | hab | hab
      · have hne : b.toNat ≠ a.toNat := by omega
        have hge : a.toNat ≤ b.toNat := by omega
        simp [utf8EncodeChar_append_lt hab, le, hne, hge]
      · obtain rfl := Char.toNat_inj.1 hab
        have hrest : toBytes s < toBytes t ↔ le t s = false := ih
        simp [append_lt_append_iff, hrest, le]
      · have hlater := List.lt_asymm (utf8EncodeChar_append_lt hab (toBytes t) (toBytes s))
        simp [hlater, le, hab]

theorem toBytes_le_toBytes_iff {s t : Text} : s.toBytes ≤ t.toBytes ↔ le s t = true := by
  rw [← List.not_lt, toBytes_lt_toBytes_iff, Bool.not_eq_false]

end BindingDocs.Text
