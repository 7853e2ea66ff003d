import BindingDocs.Proofs.ReadingBack
import BindingDocs.Yaml.Scalar
import Mathlib.Algebra.Group.Nat.Defs
import Mathlib.Tactic.SplitIfs

/-!
# Reading scalars back

A text written as the value of a key can be read back, whatever its characters are (`value_readsBack`).  The first
character tells the style (`styleOfOpening`), and each style tells its end.  A plain scalar ends with its line.  Between
double quotes no escape begins another one or the closing quote (`escape_readsBack`).  Between single quotes a closing
quote is followed by the end of the line, and one that belongs to the text by another quote.  The lines of a literal
block are indented more than what follows, and its first line tells whether the last break is part of the text.
-/

namespace BindingDocs.Yaml

open Text (ReadsBack)

variable {indent : Nat} {s t x y : Text} {c d : Char}

/-- What follows a value begins a line that is neither empty nor indented like one of the value's own. -/
structure IsOutside (indent : Nat) (x : Text) : Prop where
  unindented : ¬ spaces indent <+: x
  unbroken : beginsWith isBreak x = false

/-- The spaces in front of a character.  Only at the beginning of a line are there any, and none in front of a break. -/
def margin (indent : Nat) (atLineStart : Bool) (c : Char) : Text :=
  if atLineStart && !isBreak c then spaces indent else []

theorem spaces_append_ne {n : Nat} (hd : isBreak d = false) (hc : isBreak c = true) : spaces n ++ d :: x ≠ c :: y := by
  intro h
  cases n with
  | zero =>
    obtain rfl : d = c := (List.cons.inj h).1
    rw [hc] at hd
    cases hd
  | succ n =>
    obtain rfl : ' ' = c := (List.cons.inj h).1
    exact absurd hc (by decide)

theorem margin_append_inj {atLineStart : Bool}
    (h : margin indent atLineStart c ++ c :: x = margin indent atLineStart d ++ d :: y) : c = d ∧ x = y := by
  have hmargin {c : Char} (hc : isBreak c = true) : margin indent atLineStart c = [] := by simp [margin, hc]
  have hspaces {c : Char} (hc : isBreak c = false) :
      margin indent atLineStart c = spaces (if atLineStart then indent else 0) := by
    cases atLineStart <;> simp [margin, hc, spaces]
  -- no space is a break, so there are spaces in front of both characters or of neither
  cases hc : isBreak c with
  | true =>
    cases hd : isBreak d with
    | true =>
      rw [hmargin hc, hmargin hd] at h
      exact List.cons.inj h
    | false =>
      rw [hmargin hc, hspaces hd] at h
      exact absurd h.symm (spaces_append_ne hd hc)
  | false =>
    cases hd : isBreak d with
    | true =>
      rw [hspaces hc, hmargin hd] at h
      exact absurd h (spaces_append_ne hc hd)
    | false =>
      rw [hspaces hc, hspaces hd] at h
      exact List.cons.inj (List.append_cancel_left h)

theorem IsOutside.ne (hx : IsOutside indent x) (d : Char) (y : Text) : x ≠ margin indent true d ++ d :: y := by
  rintro rfl
  cases hd : isBreak d with
  | true =>
    have hbreak : beginsWith isBreak (margin indent true d ++ d :: y) = true := by simp [margin, beginsWith, hd]
    rw [hx.unbroken] at hbreak
    cases hbreak
  | false =>
    refine hx.unindented ⟨d :: y, ?_⟩
    simp [margin, hd]

/-! ### Styles -/

/-- The style of a scalar with this first character. -/
def styleOfOpening (c : Char) : Style :=
  if c = '\'' then .singleQuoted else if c = '"' then .doubleQuoted else if c = '|' then .literal else .plain

/-- A plain scalar is not empty, does not begin like one in another style, and is a single line. -/
theorem plain_cases (h : styleOf s = .plain) : (∃ c rest, s = c :: rest ∧ styleOfOpening c = .plain) ∧ '\n' ∉ s := by
  have hplain : s.contains '\n' = false ∧ isAmbiguous s = false ∧ plainAllowed s = true := by
    unfold styleOf at h
    split_ifs at h with hbreak hliteral hplain
    rw [Bool.and_eq_true, Bool.not_eq_true'] at hplain
    exact ⟨by rwa [Bool.not_eq_true] at hbreak, hplain⟩
  obtain ⟨hbreak, hunambiguous, hallowed⟩ := hplain
  refine ⟨?_, by simpa using hbreak⟩
  cases s with
  | nil => exact absurd hunambiguous (by decide)
  | cons c rest =>
    refine ⟨c, rest, rfl, ?_⟩
    have hindicator : indicators.contains c = false := by
      have hnone : hasIndicator (c :: rest) = false := by simp_all [plainAllowed]
      unfold hasIndicator beginsWith at hnone
      simp_all
    have hne : ∀ d ∈ indicators, c ≠ d := by
      rintro d hd rfl
      simp [hd] at hindicator
    rw [styleOfOpening, if_neg (hne _ (by decide)), if_neg (hne _ (by decide)), if_neg (hne _ (by decide))]

theorem opening_scalar (indent : Nat) (s : Text) :
    ∃ c rest, scalar indent s = c :: rest ∧ styleOfOpening c = styleOf s := by
  unfold scalar
  cases h : styleOf s with
  | plain => exact (plain_cases h).1
  | singleQuoted => exact ⟨_, _, rfl, rfl⟩
  | doubleQuoted => exact ⟨_, _, rfl, rfl⟩
  | literal => exact ⟨_, _, rfl, rfl⟩

/-! ### Double quotes -/

theorem length_hexDigits (width n : Nat) : (hexDigits width n).length = width := by
  induction width generalizing n with
  | zero => rfl
  | succ width ih => rw [hexDigits, List.length_append, ih, List.length_singleton]

theorem hexDigit_inj : ∀ m < 16, ∀ n < 16, (Nat.digitChar m).toUpper = (Nat.digitChar n).toUpper → m = n := by
  decide

theorem hexDigits_inj {width m n : Nat} (hm : m < 16 ^ width) (hn : n < 16 ^ width)
    (h : hexDigits width m = hexDigits width n) : m = n := by
  induction width generalizing m n with
  | zero => omega
  | succ width ih =>
    obtain ⟨hinit, hlast⟩ := List.append_inj' h rfl
    rw [Nat.pow_succ] at hm hn
    have hdiv := ih (Nat.div_lt_of_lt_mul (by omega)) (Nat.div_lt_of_lt_mul (by omega)) hinit
    have hmod := hexDigit_inj _ (Nat.mod_lt m (by omega)) _ (Nat.mod_lt n (by omega)) (List.singleton_inj.1 hlast)
    omega

/-- The letters that announce digits, with their number. -/
def longEscapes : List (Char × Nat) := [('x', 2), ('u', 4), ('U', 8)]

/-- The character is escaped with this letter, and as many digits as the letter announces. -/
def Escapes (c letter : Char) (width : Nat) : Prop :=
  ((c, letter) ∈ shortEscapes ∧ width = 0) ∨ ((letter, width) ∈ longEscapes ∧ c.toNat < 16 ^ width)

/-- A character stands for itself, or a backslash and a letter stand in front of its digits. -/
theorem escape_cases (c : Char) :
    (escape c = [c] ∧ c ≠ '\\' ∧ c ≠ '"') ∨
      ∃ letter width, Escapes c letter width ∧ escape c = '\\' :: letter :: hexDigits width c.toNat := by
  unfold escape
  split
  · rename_i letter hletter
    obtain ⟨before, after, hsplit, -⟩ := List.lookup_eq_some_iff.1 hletter
    have hmem : (c, letter) ∈ shortEscapes := by
      rw [hsplit]
      exact List.mem_append_right _ List.mem_cons_self
    exact .inr ⟨letter, 0, .inl ⟨hmem, rfl⟩, rfl⟩
  · rename_i hnone
    split_ifs with hprintable hbyte hword
    · left
      refine ⟨rfl, ?_, ?_⟩
      · rintro rfl
        exact absurd hnone (by decide)
      · rintro rfl
        exact absurd hnone (by decide)
    · exact .inr ⟨'x', 2, .inr ⟨by decide, by omega⟩, rfl⟩
    · exact .inr ⟨'u', 4, .inr ⟨by decide, by omega⟩, rfl⟩
    · exact .inr ⟨'U', 8, .inr ⟨by decide, c.val.toNat_lt⟩, rfl⟩

/-- A letter announces the same number of digits everywhere, and tells the character if there are none. -/
theorem Escapes.width_eq {letter : Char} {width width' : Nat} (hc : Escapes c letter width)
    (hd : Escapes d letter width') : width = width' ∧ (width = 0 → c = d) := by
  have hshort : ∀ p ∈ shortEscapes, ∀ q ∈ shortEscapes, p.2 = q.2 → p.1 = q.1 := by decide
  have hlong : ∀ p ∈ longEscapes, p.2 ≠ 0 ∧ ∀ q ∈ longEscapes, p.1 = q.1 → p.2 = q.2 := by decide
  have happart : ∀ p ∈ shortEscapes, ∀ q ∈ longEscapes, p.2 ≠ q.1 := by decide
  rcases hc with ⟨hc, rfl⟩ | ⟨hc, -⟩
  · rcases hd with ⟨hd, rfl⟩ | ⟨hd, -⟩
    · exact ⟨rfl, fun _ => hshort _ hc _ hd rfl⟩
    · exact absurd rfl (happart _ hc _ hd)
  · rcases hd with ⟨hd, rfl⟩ | ⟨hd, -⟩
    · exact absurd rfl (happart _ hd _ hc)
    · exact ⟨(hlong _ hc).2 _ hd rfl, fun hwidth => absurd hwidth (hlong _ hc).1⟩

/-- No escape begins another one. -/
theorem escape_readsBack : ReadsBack (fun _ => True) (fun _ => True) escape id := by
  intro c d _ _ x y _ _ h
  rcases escape_cases c with ⟨hc, hslash, -⟩ | ⟨letter, width, hletter, hc⟩
  · rcases escape_cases d with ⟨hd, -, -⟩ | ⟨letter', width', -, hd⟩
    · rw [hc, hd] at h
      exact List.cons.inj h
    · rw [hc, hd] at h
      exact absurd (List.cons.inj h).1 hslash
  · rcases escape_cases d with ⟨hd, hslash, -⟩ | ⟨letter', width', hletter', hd⟩
    · rw [hc, hd] at h
      exact absurd (List.cons.inj h).1.symm hslash
    · rw [hc, hd] at h
      obtain ⟨-, hrest⟩ := List.cons.inj h
      obtain ⟨rfl, hdigits⟩ := List.cons.inj hrest
      obtain ⟨rfl, hshort⟩ := hletter.width_eq hletter'
      obtain ⟨hsame, hxy⟩ := List.append_inj hdigits (by rw [length_hexDigits, length_hexDigits])
      refine ⟨?_, hxy⟩
      rcases hletter with ⟨-, hwidth⟩ | ⟨-, hc⟩
      · exact hshort hwidth
      · rcases hletter' with ⟨-, hwidth⟩ | ⟨-, hd⟩
        · exact hshort hwidth
        · exact Char.toNat_inj.1 (hexDigits_inj hc hd hsame)

theorem doubleQuoted_append_inj (h : s.flatMap escape ++ '"' :: x = t.flatMap escape ++ '"' :: y) : s = t ∧ x = y := by
  have hescapes : ReadsBack (fun cs : Text => ∀ c ∈ cs, True) (fun x => ∃ rest, x = '"' :: rest)
      (fun cs => cs.flatMap escape) (List.map id) := by
    refine escape_readsBack.flatMap (fun _ _ => trivial) (fun _ _ _ => trivial) ?_
    rintro c - x ⟨rest, rfl⟩ ⟨after, hbegin⟩
    rcases escape_cases c with ⟨hc, -, hquote⟩ | ⟨letter, width, -, hc⟩
    · rw [hc] at hbegin
      exact hquote (List.cons.inj hbegin).1
    · rw [hc] at hbegin
      exact absurd (List.cons.inj hbegin).1 (by decide)
  obtain ⟨hst, hxy⟩ := hescapes (fun _ _ => trivial) (fun _ _ => trivial) ⟨x, rfl⟩ ⟨y, rfl⟩ h
  exact ⟨by rw [← List.map_id s, hst, List.map_id], (List.cons.inj hxy).2⟩

/-! ### Single quotes -/

/-- What follows a character between single quotes: a quote is doubled. -/
def doubling (c : Char) : Text := if c = '\'' then ['\''] else []

theorem singleQuotedBody_cons (afterBreak : Bool) (c : Char) (s : Text) :
    singleQuotedBody indent afterBreak (c :: s) =
      margin indent afterBreak c ++ c :: (doubling c ++ singleQuotedBody indent (isBreak c) s) := by
  rw [singleQuotedBody]
  unfold doubling margin
  cases hc : isBreak c with
  | true =>
    have hquote : c ≠ '\'' := by
      rintro rfl
      exact absurd hc (by decide)
    simp [hquote]
  | false => split_ifs <;> simp_all

theorem singleQuotedBody_nil_append (afterBreak : Bool) (x : Text) :
    singleQuotedBody indent afterBreak [] ++ '\'' :: x = margin indent afterBreak '\'' ++ '\'' :: x := by
  cases afterBreak <;> rfl

theorem singleQuoted_append_inj {afterBreak : Bool}
    (h : singleQuotedBody indent afterBreak s ++ '\'' :: '\n' :: x =
      singleQuotedBody indent afterBreak t ++ '\'' :: '\n' :: y) : s = t ∧ x = y := by
  have hclose {afterBreak : Bool} {d : Char} {t x y : Text} :
      singleQuotedBody indent afterBreak [] ++ '\'' :: '\n' :: x ≠
        singleQuotedBody indent afterBreak (d :: t) ++ y := by
    intro h
    rw [singleQuotedBody_nil_append, singleQuotedBody_cons, List.append_assoc, List.cons_append] at h
    obtain ⟨rfl, hrest⟩ := margin_append_inj h
    -- the quote is followed by the end of the line on one side and is doubled on the other
    exact absurd (List.cons.inj hrest).1 (by decide)
  induction s generalizing t afterBreak with
  | nil =>
    cases t with
    | nil => exact ⟨rfl, (List.cons.inj (List.cons.inj (List.append_cancel_left h)).2).2⟩
    | cons d t => exact absurd h hclose
  | cons c s ih =>
    cases t with
    | nil => exact absurd h.symm hclose
    | cons d t =>
      simp only [singleQuotedBody_cons, List.append_assoc, List.cons_append] at h
      obtain ⟨rfl, hrest⟩ := margin_append_inj h
      obtain ⟨rfl, hxy⟩ := ih (List.append_cancel_left hrest)
      exact ⟨rfl, hxy⟩

/-! ### Literal blocks -/

theorem literalBody_cons (atLineStart : Bool) (c : Char) (s : Text) :
    literalBody indent atLineStart (c :: s) =
      margin indent atLineStart c ++ c :: literalBody indent (isBreak c) s := by
  rw [literalBody]
  unfold margin
  cases hc : isBreak c <;> simp

theorem literalBody_concat (hc : isBreak c = true) (atLineStart : Bool) (s : Text) :
    literalBody indent atLineStart (s ++ [c]) = literalBody indent atLineStart s ++ [c] := by
  induction s generalizing atLineStart with
  | nil =>
    rw [List.nil_append, literalBody_cons, margin, hc, Bool.not_true, Bool.and_false]
    rfl
  | cons d s ih => rw [List.cons_append, literalBody_cons, literalBody_cons, ih, List.append_assoc, List.cons_append]

/-- The text goes up to the end of a line, which may be the one before the text. -/
def EndsLines : Bool → Text → Prop
  | atLineStart, [] => atLineStart = true
  | _, c :: s => EndsLines (isBreak c) s

theorem endsLines_concat (hc : isBreak c = true) (atLineStart : Bool) (s : Text) :
    EndsLines atLineStart (s ++ [c]) := by
  induction s generalizing atLineStart with
  | nil => exact hc
  | cons d s ih => exact ih (isBreak d)

/-- Whole lines end where a line comes that is not indented. -/
theorem literalBody_append_inj {atLineStart : Bool} (hs : EndsLines atLineStart s) (ht : EndsLines atLineStart t)
    (hx : IsOutside indent x) (hy : IsOutside indent y)
    (h : literalBody indent atLineStart s ++ x = literalBody indent atLineStart t ++ y) : s = t ∧ x = y := by
  induction s generalizing t atLineStart with
  | nil =>
    cases t with
    | nil => exact ⟨rfl, h⟩
    | cons d t =>
      obtain rfl : atLineStart = true := hs
      rw [literalBody_cons, List.append_assoc, List.cons_append] at h
      exact absurd h (hx.ne d _)
  | cons c s ih =>
    cases t with
    | nil =>
      obtain rfl : atLineStart = true := ht
      rw [literalBody_cons, List.append_assoc, List.cons_append] at h
      exact absurd h.symm (hy.ne c _)
    | cons d t =>
      simp only [literalBody_cons, List.append_assoc, List.cons_append] at h
      obtain ⟨rfl, hrest⟩ := margin_append_inj h
      obtain ⟨rfl, hxy⟩ := ih hs ht hrest
      exact ⟨rfl, hxy⟩

theorem mem_chomping_iff (s : Text) : '-' ∈ chomping s ↔ endsWith isBreak s = false := by
  have hlast : endsWith isBreak s = (s.reverse.head?.map isBreak).getD false := by rw [List.head?_reverse]; rfl
  rw [hlast]
  unfold chomping
  split
  · rename_i h
    rw [h]
    decide
  · rename_i c h
    rw [h]
    cases hc : isBreak c <;> simp [hc]
  · rename_i c d rest h
    rw [h]
    cases hc : isBreak c <;> cases hd : isBreak d <;> simp [hc]

/-- The text with a break at its end, added if it has none. -/
def closed (s : Text) : Text := if endsWith isBreak s then s else s ++ ['\n']

theorem endsLines_closed (s : Text) : EndsLines true (closed s) := by
  unfold closed
  split_ifs with hends
  · cases hlast : s.getLast? with
    | none => simp [endsWith, hlast] at hends
    | some c =>
      obtain ⟨init, rfl⟩ := List.getLast?_eq_some_iff.1 hlast
      exact endsLines_concat (by simpa [endsWith] using hends) true init
  · exact endsLines_concat rfl true s

theorem literalBody_closed (s : Text) :
    literalBody indent true s ++ (if endsWith isBreak s then [] else ['\n']) = literalBody indent true (closed s) := by
  unfold closed
  split_ifs
  · exact List.append_nil _
  · exact (literalBody_concat rfl true s).symm

/-- What the first line of a literal block says of the text. -/
def blockSigns (s : Text) : Text := (if beginsWith isEdge s then "2".toList else []) ++ chomping s

theorem break_notMem_blockSigns (s : Text) : '\n' ∉ blockSigns s := by
  have hchomping : '\n' ∉ chomping s := by
    unfold chomping
    split
    · decide
    · split_ifs <;> decide
    · split_ifs <;> decide
  unfold blockSigns
  rw [List.mem_append, not_or]
  exact ⟨by split_ifs <;> decide, hchomping⟩

theorem mem_blockSigns_iff (s : Text) : '-' ∈ blockSigns s ↔ endsWith isBreak s = false := by
  rw [← mem_chomping_iff, blockSigns, List.mem_append]
  split_ifs <;> simp

theorem literal_append_inj (hx : IsOutside indent x) (hy : IsOutside indent y)
    (h : blockSigns s ++ '\n' :: (literalBody indent true (closed s) ++ x) =
      blockSigns t ++ '\n' :: (literalBody indent true (closed t) ++ y)) : s = t ∧ x = y := by
  obtain ⟨hsigns, hbody⟩ := Text.append_cons_inj (break_notMem_blockSigns s) (break_notMem_blockSigns t) h
  obtain ⟨hclosed, hxy⟩ := literalBody_append_inj (endsLines_closed s) (endsLines_closed t) hx hy hbody
  -- what is left is whether the last break is part of the text, and the signs tell that
  have hends : endsWith isBreak s = false ↔ endsWith isBreak t = false := by
    rw [← mem_blockSigns_iff, ← mem_blockSigns_iff, hsigns]
  refine ⟨?_, hxy⟩
  unfold closed at hclosed
  cases hs : endsWith isBreak s with
  | true =>
    have ht : endsWith isBreak t = true := by simpa [hs] using hends
    rwa [if_pos hs, if_pos ht] at hclosed
  | false =>
    have ht := hends.1 hs
    rw [hs, ht] at hclosed
    exact List.append_cancel_right hclosed

/-! ### Values -/

theorem value_append_of_ne_literal (hs : styleOf s ≠ .literal) (x : Text) :
    value indent s ++ x = ' ' :: (scalar indent s ++ '\n' :: x) := by
  simp [value, endsLine, hs]

theorem value_append_of_literal (hs : styleOf s = .literal) (x : Text) :
    value indent s ++ x = ' ' :: '|' :: (blockSigns s ++ '\n' :: (literalBody indent true (closed s) ++ x)) := by
  rw [← literalBody_closed]
  simp [value, endsLine, scalar, hs, literalHead, blockSigns]

theorem styleOf_eq (h : value indent s ++ x = value indent t ++ y) : styleOf s = styleOf t := by
  obtain ⟨c, rest, hs, hc⟩ := opening_scalar indent s
  obtain ⟨d, rest', ht, hd⟩ := opening_scalar indent t
  rw [value, value, hs, ht] at h
  obtain rfl : c = d := (List.cons.inj (List.cons.inj h).2).1
  rw [← hc, ← hd]

/-- A value tells its text and where it ends. -/
theorem value_readsBack (indent : Nat) : ReadsBack (fun _ => True) (IsOutside indent) (value indent) id := by
  intro s t _ _ x y hx hy h
  have hstyle := styleOf_eq h
  by_cases hs : styleOf s = .literal
  · have ht : styleOf t = .literal := hstyle.symm.trans hs
    rw [value_append_of_literal hs, value_append_of_literal ht] at h
    exact literal_append_inj hx hy (List.cons.inj (List.cons.inj h).2).2
  · rw [value_append_of_ne_literal hs, value_append_of_ne_literal (hstyle ▸ hs)] at h
    have hscalars := (List.cons.inj h).2
    unfold scalar at hscalars
    rw [← hstyle] at hscalars
    cases hs : styleOf s with
    | plain =>
      rw [hs] at hscalars
      exact Text.append_cons_inj (plain_cases hs).2 (plain_cases (hstyle.symm.trans hs)).2 hscalars
    | singleQuoted =>
      simp only [hs, List.cons_append, List.append_assoc, List.nil_append] at hscalars
      exact singleQuoted_append_inj (List.cons.inj hscalars).2
    | doubleQuoted =>
      simp only [hs, List.cons_append, List.append_assoc, List.nil_append] at hscalars
      obtain ⟨hst, hrest⟩ := doubleQuoted_append_inj (List.cons.inj hscalars).2
      exact ⟨hst, (List.cons.inj hrest).2⟩
    | literal => contradiction

end BindingDocs.Yaml
