import BindingDocs.Text.Basic

/-!
# White space

The characters with the Unicode property White_Space, and what depends on them: trimming a text and splitting
it into words.
-/

namespace BindingDocs

/-- The Unicode property White_Space. -/
def isBlank (c : Char) : Bool :=
  let n := c.toNat
  (0x9 ≤ n && n ≤ 0xD) || n == 0x20 || n == 0x85 || n == 0xA0 || n == 0x1680 || (0x2000 ≤ n && n ≤ 0x200A) ||
    n == 0x2028 || n == 0x2029 || n == 0x202F || n == 0x205F || n == 0x3000

namespace Text

/-- The text without the white space at its beginning. -/
def trimStart (s : Text) : Text := s.dropWhile isBlank

/-- The text without the white space at its end. -/
def trimEnd (s : Text) : Text := (s.reverse.dropWhile isBlank).reverse

/-- The text without the white space at both ends. -/
def trim (s : Text) : Text := trimEnd (trimStart s)

theorem trimStart_eq_self {s : Text} (h : ∀ c ∈ s.head?, isBlank c = false) : trimStart s = s := by
  cases s with
  | nil => rfl
  | cons c s =>
    have hc : isBlank c = false := h c rfl
    simp [trimStart, hc]

theorem head?_trimStart {s : Text} {c : Char} (h : c ∈ (trimStart s).head?) : isBlank c = false := by
  induction s with
  | nil => cases h
  | cons a s ih =>
    by_cases ha : isBlank a = true
    · have hdrop : trimStart (a :: s) = trimStart s := by simp [trimStart, ha]
      exact ih (hdrop ▸ h)
    · have hkeep : trimStart (a :: s) = a :: s := by simp [trimStart, ha]
      rw [hkeep, List.head?_cons, Option.mem_some_iff] at h
      simpa [h] using ha

theorem trimEnd_isPrefix (s : Text) : trimEnd s <+: s := by
  have h : s.reverse.dropWhile isBlank <:+ s.reverse := List.dropWhile_suffix isBlank
  simpa [trimEnd] using List.reverse_prefix.2 h

theorem trimEnd_trimEnd (s : Text) : trimEnd (trimEnd s) = trimEnd s := by
  have h : trimStart (trimStart s.reverse) = trimStart s.reverse :=
    trimStart_eq_self fun _ => head?_trimStart
  simpa [trimEnd, trimStart] using congrArg List.reverse h

/-- A text without white space at its ends has none to lose. -/
theorem trim_trim (s : Text) : trim (trim s) = trim s := by
  have hstart : trimStart (trim s) = trim s := by
    refine trimStart_eq_self fun c hc => ?_
    obtain ⟨rest, hrest⟩ := trimEnd_isPrefix (trimStart s)
    have hhead : (trimStart s).head? = some c := by
      rw [← hrest, List.head?_append, show (trimEnd (trimStart s)).head? = some c from hc]
      rfl
    exact head?_trimStart hhead
  calc trim (trim s) = trimEnd (trim s) := by rw [trim, hstart]
    _ = trim s := trimEnd_trimEnd (trimStart s)

/-- The longest pieces without white space, in order. -/
def words (s : Text) : List Text := (s.splitOnP isBlank).filter fun word => !word.isEmpty

end Text

end BindingDocs
