import BindingDocs.Text.Basic

/-!
# Reading back what was written

When a text is put together from parts, a part can be read back if it tells where it ends: a mark that it does not hold
follows it, or nothing at all (`append_inj_of_isMarked`).  Records that can be read back one by one can be read back
from the text of all of them, if what comes after the last is no record (`ReadsBack.flatMap`).
-/

namespace BindingDocs.Text

/-- The text is empty or begins with the mark. -/
def IsMarked (m : Char) (x : Text) : Prop := ∀ c ∈ x.head?, c = m

/-- A text that does not hold the mark ends where the first mark stands, or with everything. -/
theorem append_inj_of_isMarked {m : Char} {s t x y : Text} (hs : m ∉ s) (ht : m ∉ t) (hx : IsMarked m x)
    (hy : IsMarked m y) (h : s ++ x = t ++ y) : s = t ∧ x = y := by
  induction s generalizing t with
  | nil =>
    cases t with
    | nil => exact ⟨rfl, h⟩
    | cons d t =>
      obtain rfl : x = d :: (t ++ y) := h
      exact absurd (hx d rfl).symm (List.ne_of_not_mem_cons ht)
  | cons c s ih =>
    cases t with
    | nil =>
      obtain rfl : c :: (s ++ x) = y := h
      exact absurd (hy c rfl).symm (List.ne_of_not_mem_cons hs)
    | cons d t =>
      obtain ⟨rfl, htail⟩ := List.cons.inj h
      obtain ⟨rfl, hxy⟩ := ih (List.not_mem_of_not_mem_cons hs) (List.not_mem_of_not_mem_cons ht) htail
      exact ⟨rfl, hxy⟩

/-- The first mark ends what stands in front of it. -/
theorem append_cons_inj {m : Char} {s t x y : Text} (hs : m ∉ s) (ht : m ∉ t) (h : s ++ m :: x = t ++ m :: y) :
    s = t ∧ x = y := by
  have hmarked (x : Text) : IsMarked m (m :: x) := fun c hc => (Option.some.inj hc).symm
  obtain ⟨rfl, hxy⟩ := append_inj_of_isMarked hs ht (hmarked x) (hmarked y) h
  exact ⟨rfl, (List.cons.inj hxy).2⟩

/-- What `write` makes of good records tells the key of the record and where it ends, as long as something that
`follows` allows comes after it. -/
def ReadsBack {α β : Type} (good : α → Prop) (follows : Text → Prop) (write : α → Text) (key : α → β) : Prop :=
  ∀ ⦃a b : α⦄, good a → good b → ∀ ⦃x y : Text⦄, follows x → follows y →
    write a ++ x = write b ++ y → key a = key b ∧ x = y

/-- Records one after the other can be read back if one record may follow another, and none begins what comes after
the last. -/
theorem ReadsBack.flatMap {α β : Type} {good : α → Prop} {follows ends : Text → Prop} {write : α → Text} {key : α → β}
    (hread : ReadsBack good follows write key) (hfollows : ∀ x, ends x → follows x)
    (hwrite : ∀ a, good a → ∀ x, follows (write a ++ x)) (hends : ∀ a, good a → ∀ x, ends x → ¬ write a <+: x) :
    ReadsBack (fun as => ∀ a ∈ as, good a) ends (fun as => as.flatMap write) (List.map key) := by
  have hrecords {as : List α} (has : ∀ a ∈ as, good a) {x : Text} (hx : ends x) : follows (as.flatMap write ++ x) := by
    cases as with
    | nil => exact hfollows x hx
    | cons a as =>
      rw [List.flatMap_cons, List.append_assoc]
      exact hwrite a (has a List.mem_cons_self) _
  have hnone {a : α} (ha : good a) (as : List α) (y : Text) {x : Text} (hx : ends x) :
      x ≠ (a :: as).flatMap write ++ y := by
    rintro rfl
    refine hends a ha _ hx ?_
    rw [List.flatMap_cons, List.append_assoc]
    exact List.prefix_append _ _
  intro as bs has hbs x y hx hy h
  induction as generalizing bs with
  | nil =>
    cases bs with
    | nil => exact ⟨rfl, h⟩
    | cons b bs => exact absurd h (hnone (hbs b List.mem_cons_self) bs y hx)
  | cons a as ih =>
    cases bs with
    | nil => exact absurd h.symm (hnone (has a List.mem_cons_self) as x hy)
    | cons b bs =>
      obtain ⟨ha, has⟩ := List.forall_mem_cons.1 has
      obtain ⟨hb, hbs⟩ := List.forall_mem_cons.1 hbs
      simp only [List.flatMap_cons, List.append_assoc] at h
      obtain ⟨hkey, hrest⟩ := hread ha hb (hrecords has hx) (hrecords hbs hy) h
      obtain ⟨hkeys, hxy⟩ := ih has hbs hrest
      exact ⟨by rw [List.map_cons, List.map_cons, hkey, hkeys], hxy⟩

theorem join_cons (separator p : Text) (ps : List Text) :
    join separator (p :: ps) = p ++ ps.flatMap fun q => separator ++ q := by
  induction ps generalizing p with
  | nil => rw [join, List.intercalate_singleton, List.flatMap_nil, List.append_nil]
  | cons q ps ih =>
    have hq : separator.intercalate (q :: ps) = q ++ ps.flatMap fun q => separator ++ q := ih q
    rw [join, List.intercalate_cons_cons, hq, List.flatMap_cons]
    simp only [List.append_assoc]

/-- Pieces that are not empty and hold no mark can be read back when they are joined by a separator that begins with
the mark. -/
theorem join_inj {m : Char} {separator : Text} {ps qs : List Text} (hps : ∀ p ∈ ps, p ≠ [] ∧ m ∉ p)
    (hqs : ∀ q ∈ qs, q ≠ [] ∧ m ∉ q) (h : join (m :: separator) ps = join (m :: separator) qs) : ps = qs := by
  have hseparated : ReadsBack (fun p => m ∉ p) (IsMarked m) (fun p => m :: separator ++ p) id := by
    intro p q hp hq x y hx hy hpq
    simp only [List.cons_append, List.append_assoc, List.cons.injEq, true_and] at hpq
    exact append_inj_of_isMarked hp hq hx hy (List.append_cancel_left hpq)
  have hmarked (p x : Text) : IsMarked m (m :: separator ++ p ++ x) := fun c hc => (Option.some.inj hc).symm
  have hpieces : ReadsBack (fun ps : List Text => ∀ p ∈ ps, m ∉ p) (· = [])
      (fun ps => ps.flatMap fun p => m :: separator ++ p) (List.map id) := by
    refine hseparated.flatMap ?_ (fun p _ x => hmarked p x) fun p _ x hx => by simp [hx]
    rintro x rfl
    exact fun c hc => by cases hc
  have hempty {p : Text} {ps : List Text} (hp : p ≠ []) : join (m :: separator) (p :: ps) ≠ [] := by
    rw [join_cons]
    exact List.append_ne_nil_of_left_ne_nil hp _
  have hrest (ps : List Text) : IsMarked m (ps.flatMap fun p => m :: separator ++ p) := by
    cases ps with
    | nil => exact fun c hc => by cases hc
    | cons p ps =>
      rw [List.flatMap_cons]
      exact hmarked p _
  cases ps with
  | nil =>
    cases qs with
    | nil => rfl
    | cons q qs => exact absurd h.symm (hempty (hqs q List.mem_cons_self).1)
  | cons p ps =>
    cases qs with
    | nil => exact absurd h (hempty (hps p List.mem_cons_self).1)
    | cons q qs =>
      obtain ⟨hp, hps'⟩ := List.forall_mem_cons.1 hps
      obtain ⟨hq, hqs'⟩ := List.forall_mem_cons.1 hqs
      rw [join_cons, join_cons] at h
      obtain ⟨rfl, hpq⟩ := append_inj_of_isMarked hp.2 hq.2 (hrest ps) (hrest qs) h
      have hsame := hpieces (fun p hp => (hps' p hp).2) (fun q hq => (hqs' q hq).2) rfl rfl (congrArg (· ++ []) hpq)
      rw [← List.map_id ps, hsame.1, List.map_id]

end BindingDocs.Text
