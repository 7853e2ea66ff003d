/-!
# Text

Text is a list of Unicode characters.  Three operations carry the rest of the library: `after?` reads a fixed
beginning, `cut?` splits at the first occurrence of a mark, and `lines` splits a file into lines.  Each loses
nothing: what was read or cut off, put back, gives the text again (`after?_eq_some`, `cut?_eq_some`).  A cut is
the leftmost one (`cut?_eq_some_iff`) and fails only where the mark does not occur (`cut?_eq_none`).
-/

namespace BindingDocs

/-- Text as the list of its characters.  The order of texts is by code point, character by character. -/
abbrev Text := List Char

namespace Text

/-- The decimal digits of `n`. -/
def ofNat (n : Nat) : Text := Nat.toDigits 10 n

theorem isDigit_of_mem_ofNat {n : Nat} {c : Char} (h : c ∈ ofNat n) : c.isDigit :=
  Nat.isDigit_of_mem_toDigits (by omega) (by omega) h

/-- Different numbers have different digits. -/
theorem ofNat_inj {m n : Nat} : ofNat m = ofNat n ↔ m = n := by
  constructor
  · intro h
    have hread := congrArg (fun digits => Nat.ofDigitChars 10 digits 0) h
    simpa only [ofNat, Nat.ofDigitChars_ten_toDigits] using hread
  · rintro rfl
    rfl

/-- What follows `start` in a text that begins with it. -/
def after? : Text → Text → Option Text
  | [], s => some s
  | _ :: _, [] => none
  | a :: start, c :: s => if a = c then after? start s else none

theorem after?_eq_some {start s rest : Text} : after? start s = some rest ↔ s = start ++ rest := by
  induction start generalizing s with
  | nil => simp [after?, eq_comm]
  | cons a start ih =>
    cases s with
    | nil => simp [after?]
    | cons c s =>
      by_cases h : a = c
      · simp [after?, h, ih]
      · simp [after?, h, Ne.symm h]

theorem after?_eq_none {start s : Text} : after? start s = none ↔ ¬ start <+: s := by
  constructor
  · rintro h ⟨rest, hs⟩
    rw [after?_eq_some.2 hs.symm] at h
    cases h
  · intro h
    cases hs : after? start s with
    | none => rfl
    | some rest => exact absurd ⟨rest, (after?_eq_some.1 hs).symm⟩ h

/-- The text before and the text after the first occurrence of `mark`. -/
def cut? (mark : Text) : Text → Option (Text × Text)
  | [] => if mark = [] then some ([], []) else none
  | c :: s =>
    match after? mark (c :: s) with
    | some rest => some ([], rest)
    | none => (cut? mark s).map fun p => (c :: p.1, p.2)

theorem cut?_eq_some {mark s before rest : Text} (h : cut? mark s = some (before, rest)) :
    s = before ++ mark ++ rest := by
  induction s generalizing before with
  | nil =>
    by_cases hm : mark = []
    · simp [cut?, hm] at h; simp [h, hm]
    · simp [cut?, hm] at h
  | cons c s ih =>
    unfold cut? at h
    split at h
    · rename_i r hr
      simp only [Option.some.injEq, Prod.mk.injEq] at h
      obtain ⟨rfl, rfl⟩ := h
      simpa using after?_eq_some.1 hr
    · obtain ⟨⟨b, r⟩, hb, he⟩ := Option.map_eq_some_iff.1 h
      simp only [Prod.mk.injEq] at he
      obtain ⟨rfl, rfl⟩ := he
      simp [ih hb]

theorem cut?_eq_none {mark s : Text} : cut? mark s = none ↔ ¬ mark <:+: s := by
  induction s with
  | nil => simp [cut?, List.infix_nil]
  | cons c s ih =>
    rw [List.infix_cons_iff, not_or, ← ih, ← after?_eq_none]
    cases ha : after? mark (c :: s) with
    | some rest => simp [cut?, ha]
    | none => simp [cut?, ha]

/-- `s` reads `before`, `mark`, `rest`, and `mark` occurs nowhere further to the left. -/
def IsFirstCut (mark s before rest : Text) : Prop :=
  s = before ++ mark ++ rest ∧
    ∀ before' rest' : Text, s = before' ++ mark ++ rest' → before.length ≤ before'.length

private theorem cut?_leftmost {mark s before rest : Text} (h : cut? mark s = some (before, rest))
    (before' rest' : Text) (hs : s = before' ++ mark ++ rest') : before.length ≤ before'.length := by
  induction s generalizing before before' with
  | nil =>
    obtain ⟨hb, -⟩ := List.append_eq_nil_iff.1 ((List.append_eq_nil_iff.1 (cut?_eq_some h).symm).1)
    simp [hb]
  | cons c s ih =>
    unfold cut? at h
    split at h
    · simp only [Option.some.injEq, Prod.mk.injEq] at h
      simp [← h.1]
    · rename_i hn
      obtain ⟨⟨b, r⟩, hb, he⟩ := Option.map_eq_some_iff.1 h
      simp only [Prod.mk.injEq] at he
      obtain ⟨rfl, rfl⟩ := he
      cases before' with
      | nil => exact absurd ⟨rest', hs.symm⟩ (after?_eq_none.1 hn)
      | cons c' before' =>
        simp only [List.cons_append, List.cons.injEq] at hs
        exact Nat.succ_le_succ (ih hb before' hs.2)

theorem cut?_eq_some_iff {mark s before rest : Text} :
    cut? mark s = some (before, rest) ↔ IsFirstCut mark s before rest := by
  constructor
  · intro h
    exact ⟨cut?_eq_some h, cut?_leftmost h⟩
  · rintro ⟨hs, hmin⟩
    cases hc : cut? mark s with
    | none => exact absurd ⟨before, rest, hs.symm⟩ (cut?_eq_none.1 hc)
    | some p =>
      obtain ⟨b, r⟩ := p
      have hle := hmin b r (cut?_eq_some hc)
      have hge := cut?_leftmost hc before rest hs
      have he : before ++ (mark ++ rest) = b ++ (mark ++ r) := by
        rw [← List.append_assoc, ← hs, ← List.append_assoc, ← cut?_eq_some hc]
      obtain ⟨rfl, hr⟩ := List.append_inj he (by omega)
      rw [List.append_cancel_left hr]

/-- The part before the first occurrence of `mark`, or everything. -/
def before (mark s : Text) : Text := ((cut? mark s).map Prod.fst).getD s

/-- The part before the first occurrence of `mark` when that part is not empty, or everything. -/
def beforeUnlessFirst (mark s : Text) : Text :=
  if before mark s = [] then s else before mark s

/-- Does `mark` occur in `s`? -/
def includes (mark s : Text) : Bool := (cut? mark s).isSome

theorem includes_iff {mark s : Text} : includes mark s = true ↔ mark <:+: s := by
  unfold includes
  rw [Option.isSome_iff_ne_none, ne_eq, cut?_eq_none, Decidable.not_not]

/-- Every occurrence of `old`, read from the left and without overlap, becomes `new`; the first argument
counts the characters of an occurrence that are still to be passed over. -/
def replaceFrom (old new : Text) : Nat → Text → Text
  | _, [] => []
  | k + 1, _ :: s => replaceFrom old new k s
  | 0, c :: s =>
    if (after? old (c :: s)).isSome then new ++ replaceFrom old new (old.length - 1) s
    else c :: replaceFrom old new 0 s

/-- Every occurrence of `old`, read from the left and without overlap, becomes `new`.  An empty `old` changes
nothing. -/
def replace (old new s : Text) : Text := if old = [] then s else replaceFrom old new 0 s

/-- The pieces joined with `separator` between them. -/
def join (separator : Text) (pieces : List Text) : Text := separator.intercalate pieces

/-- A line without the carriage return at its end. -/
def dropReturn (line : Text) : Text := if line.getLast? = some '\r' then line.dropLast else line

/-- The lines among the pieces between line feeds: the last piece had no line feed, so it is a line only
when it is not empty, and it keeps its carriage return. -/
def linesOfPieces : List Text → List Text
  | [] => []
  | [last] => if last = [] then [] else [last]
  | piece :: pieces => dropReturn piece :: linesOfPieces pieces

/-- The lines of a file: each ends with a line feed, or a carriage return and a line feed, or with the file.
-/
def lines (s : Text) : List Text := linesOfPieces (s.splitOn '\n')

end Text

end BindingDocs
