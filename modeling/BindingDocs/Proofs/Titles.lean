import BindingDocs.Proofs.LetterCase
import BindingDocs.Title

/-!
# Titles are stable

The title of a title is that title (`ofText_ofText`), and so is the title of the title of a scope
(`ofText_ofScope`).  Where a word begins is decided on the characters before they are put in upper case.  It comes to
the same afterwards: a separator has no upper case, and nothing in the upper case of any other character is a
separator.
-/

namespace BindingDocs.Title

theorem isSeparator_of_isUpper {c : Char} (h : c.isUpper = true) : isSeparator c = false :=
  Text.forall_ascii (P := fun c => c.isUpper = true → isSeparator c = false) (by decide) (Text.toNat_lt_of_isUpper h) h

theorem upper_of_isSeparator {c : Char} (h : isSeparator c = true) : Text.upper c = [c] := by
  by_cases hc : c.toNat < 0x80
  · have hsame : c.toUpper = c :=
      Text.forall_ascii (P := fun c => isSeparator c = true → c.toUpper = c) (by decide) hc h
    rw [Text.upper_of_ascii hc, hsame]
  · rw [isSeparator, if_neg hc] at h
    exact Text.upper_of_isBlank h

/-- The upper case of a character within a word stays within the word. -/
theorem isSeparator_of_mem_upper {c u : Char} (hc : isSeparator c = false) (h : u ∈ Text.upper c) :
    isSeparator u = false := by
  rcases Text.mem_upper_cases h with rfl | hupper | ⟨hu, -, hblank⟩
  · exact hc
  · exact isSeparator_of_isUpper hupper
  · rw [isSeparator, if_neg (Nat.not_lt.2 hu), hblank]

/-- Characters within a word stay as they are. -/
theorem ofTextAfter_false_append {w : Text} (hw : ∀ c ∈ w, isSeparator c = false) (s : Text) :
    ofTextAfter false (w ++ s) = w ++ ofTextAfter false s := by
  induction w with
  | nil => rfl
  | cons c w ih =>
    have hc : isSeparator c = false := hw c List.mem_cons_self
    have hstep : ofTextAfter false (c :: (w ++ s)) = c :: ofTextAfter (isSeparator c) (w ++ s) := rfl
    rw [List.cons_append, hstep, hc, ih fun d hd => hw d (List.mem_cons_of_mem c hd), List.cons_append]

/-- The upper case of a character is its own title, and a word goes on after it exactly if one does after the
character. -/
theorem ofTextAfter_true_upper_append (c : Char) (s : Text) :
    ofTextAfter true (Text.upper c ++ s) = Text.upper c ++ ofTextAfter (isSeparator c) s := by
  cases hsep : isSeparator c with
  | true =>
    have hupper := upper_of_isSeparator hsep
    have hstep : ofTextAfter true (c :: s) = Text.upper c ++ ofTextAfter (isSeparator c) s := rfl
    rw [hupper, List.singleton_append, hstep, hupper, hsep]
  | false =>
    -- the upper case may have several characters, and the word goes on through all of them
    obtain ⟨u, us, hupper⟩ := List.exists_cons_of_ne_nil (Text.upper_ne_nil c)
    have hus : ∀ d ∈ u :: us, isSeparator d = false := fun d hd => isSeparator_of_mem_upper hsep (hupper ▸ hd)
    have hu : Text.upper u = [u] := Text.upper_of_mem_upper (hupper ▸ List.mem_cons_self)
    have hstep : ofTextAfter true (u :: (us ++ s)) = Text.upper u ++ ofTextAfter (isSeparator u) (us ++ s) := rfl
    rw [hupper, List.cons_append, hstep, hu, hus u List.mem_cons_self,
      ofTextAfter_false_append fun d hd => hus d (List.mem_cons_of_mem u hd)]
    rfl

theorem ofTextAfter_ofTextAfter (atWordStart : Bool) (s : Text) :
    ofTextAfter atWordStart (ofTextAfter atWordStart s) = ofTextAfter atWordStart s := by
  induction s generalizing atWordStart with
  | nil => rfl
  | cons c s ih =>
    cases atWordStart with
    | true =>
      have hstep : ofTextAfter true (c :: s) = Text.upper c ++ ofTextAfter (isSeparator c) s := rfl
      rw [hstep, ofTextAfter_true_upper_append, ih]
    | false =>
      have hstep (t : Text) : ofTextAfter false (c :: t) = c :: ofTextAfter (isSeparator c) t := rfl
      rw [hstep, hstep, ih]

/-- The title of a title is that title. -/
theorem ofText_ofText (s : Text) : ofText (ofText s) = ofText s := ofTextAfter_ofTextAfter true s

/-- The title of a scope has a spelling of its own or is the title of a text. -/
theorem ofScope_cases (scope : Text) :
    ofScope scope ∈ ["EntityList".toList, "HateEntry".toList, "NPC".toList] ∨ ofScope scope = ofText scope := by
  unfold ofScope
  dsimp only
  split_ifs <;> simp

/-- The title of a scope is a title. -/
theorem ofText_ofScope (scope : Text) : ofText (ofScope scope) = ofScope scope := by
  rcases ofScope_cases scope with hown | htitle
  · have hfixed : ∀ title ∈ ["EntityList".toList, "HateEntry".toList, "NPC".toList], ofText title = title := by
      decide
    exact hfixed _ hown
  · rw [htitle, ofText_ofText]

end BindingDocs.Title
