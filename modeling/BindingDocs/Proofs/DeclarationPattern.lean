import BindingDocs.Declaration
import Mathlib.Data.List.Basic
import Mathlib.Data.Nat.Find

/-!
# The pattern of a declaration

A line declares a variable if it matches `(k₁|k₂|…).+([. a-zA-Z]+=)` for the alternatives `kᵢ` in `alternatives`.  Here
the pattern is read as a backtracking reader does it: an expression gives every way to read it, the preferred way first
(`Expression.ways`), and the first way at the leftmost place counts (`captured?`).

* The ways to read an expression are the ways to split off a text that it matches (`mem_ways`).
* What follows a keyword can be read exactly if an equals sign behind a letter, a dot or a space stands far enough to
  the right (`assignment_ways_ne_nil_iff`, `completes_drop_iff`); so only the last such sign of the line matters.
* Hence the keyword is found without backtracking (`keyword?_by_position`).
-/

namespace BindingDocs

theorem Text.after?_append (w w' s : Text) : after? (w ++ w') s = (after? w s).bind (after? w') := by
  induction w generalizing s with
  | nil => rfl
  | cons a w ih =>
    cases s with
    | nil => rfl
    | cons c s =>
      by_cases h : a = c
      · simp [after?, h, ih]
      · simp [after?, h]

namespace Declaration

/-! ### Expressions -/

inductive Expression where
  | word (w : Text)
  /-- One character of a class. -/
  | one (p : Char → Bool)
  /-- One or more characters of a class, rather more than fewer. -/
  | many (p : Char → Bool)
  | seq (first second : Expression)

/-- Every way to split off one or more characters of a class, the longest first. -/
def manyWays (p : Char → Bool) : Text → List (Text × Text)
  | [] => []
  | c :: s => if p c then (manyWays p s).map (fun m => (c :: m.1, m.2)) ++ [([c], s)] else []

namespace Expression

/-- Every way to read the expression at the beginning of a text, with what is left, in the order in which a backtracking
reader tries them. -/
def ways : Expression → Text → List (Text × Text)
  | word w, s => ((Text.after? w s).map fun rest => (w, rest)).toList
  | one _, [] => []
  | one p, c :: s => if p c then [([c], s)] else []
  | many p, s => manyWays p s
  | seq first second, s =>
    (first.ways s).flatMap fun m => (second.ways m.2).map fun m' => (m.1 ++ m'.1, m'.2)

/-- The texts that the expression matches. -/
def Matches : Expression → Text → Prop
  | word w, t => t = w
  | one p, t => ∃ c, p c = true ∧ t = [c]
  | many p, t => t ≠ [] ∧ ∀ c ∈ t, p c = true
  | seq first second, t => ∃ t₁ t₂, first.Matches t₁ ∧ second.Matches t₂ ∧ t = t₁ ++ t₂

end Expression

theorem mem_manyWays {p : Char → Bool} {s t rest : Text} :
    (t, rest) ∈ manyWays p s ↔ (t ≠ [] ∧ ∀ c ∈ t, p c = true) ∧ s = t ++ rest := by
  induction s generalizing t with
  | nil =>
    simp only [manyWays, List.not_mem_nil, false_iff]
    rintro ⟨⟨hne, -⟩, hs⟩
    exact hne (List.append_eq_nil_iff.1 hs.symm).1
  | cons a s ih =>
    cases t with
    | nil =>
      unfold manyWays
      split <;> simp
    | cons c t =>
      by_cases ha : p a = true
      · simp only [manyWays, ha, ↓reduceIte, List.mem_append, List.mem_map, List.mem_singleton, Prod.exists,
          Prod.mk.injEq, List.cons.injEq]
        constructor
        · rintro (⟨t', rest', hm, ⟨rfl, rfl⟩, rfl⟩ | ⟨⟨rfl, rfl⟩, rfl⟩)
          · obtain ⟨⟨-, hp⟩, rfl⟩ := ih.1 hm
            simpa [ha] using hp
          · simpa using ha
        · rintro ⟨⟨-, hp⟩, hs⟩
          obtain ⟨rfl, rfl⟩ := List.cons.inj hs
          by_cases ht : t = []
          · subst ht
            exact Or.inr ⟨⟨rfl, rfl⟩, rfl⟩
          · have htail : ∀ d ∈ t, p d = true := fun d hd => hp d (List.mem_cons_of_mem a hd)
            exact Or.inl ⟨t, rest, ih.2 ⟨⟨ht, htail⟩, rfl⟩, ⟨rfl, rfl⟩, rfl⟩
      · simp only [manyWays, ha, Bool.false_eq_true, ↓reduceIte, List.not_mem_nil, false_iff]
        rintro ⟨⟨-, hp⟩, hs⟩
        obtain ⟨rfl, -⟩ := List.cons.inj hs
        exact ha (hp a List.mem_cons_self)

namespace Expression

/-- A way to read an expression splits off a text that it matches, and every such text can be split off. -/
theorem mem_ways {e : Expression} {s t rest : Text} : (t, rest) ∈ e.ways s ↔ e.Matches t ∧ s = t ++ rest := by
  induction e generalizing s t rest with
  | word w =>
    simp only [ways, Matches, Option.mem_toList, Option.map_eq_some_iff, Text.after?_eq_some, Prod.mk.injEq]
    constructor
    · rintro ⟨r, rfl, rfl, rfl⟩
      exact ⟨rfl, rfl⟩
    · rintro ⟨rfl, rfl⟩
      exact ⟨rest, rfl, rfl, rfl⟩
  | one p =>
    cases s with
    | nil =>
      simp only [ways, Matches, List.not_mem_nil, false_iff]
      rintro ⟨⟨c, -, rfl⟩, hs⟩
      cases hs
    | cons a s =>
      by_cases ha : p a = true
      · simp only [ways, Matches, ha, ↓reduceIte, List.mem_singleton, Prod.mk.injEq]
        constructor
        · rintro ⟨rfl, rfl⟩
          exact ⟨⟨a, ha, rfl⟩, rfl⟩
        · rintro ⟨⟨c, -, rfl⟩, hs⟩
          obtain ⟨rfl, rfl⟩ := List.cons.inj hs
          exact ⟨rfl, rfl⟩
      · simp only [ways, Matches, ha, Bool.false_eq_true, ↓reduceIte, List.not_mem_nil, false_iff]
        rintro ⟨⟨c, hc, rfl⟩, hs⟩
        obtain ⟨rfl, -⟩ := List.cons.inj hs
        exact ha hc
  | many p => exact mem_manyWays
  | seq first second ihf ihs =>
    simp only [ways, Matches, List.mem_flatMap, List.mem_map, Prod.exists, Prod.mk.injEq]
    constructor
    · rintro ⟨t₁, rest₁, h₁, t₂, rest₂, h₂, rfl, rfl⟩
      obtain ⟨hm₁, rfl⟩ := ihf.1 h₁
      obtain ⟨hm₂, rfl⟩ := ihs.1 h₂
      exact ⟨⟨t₁, t₂, hm₁, hm₂, rfl⟩, (List.append_assoc _ _ _).symm⟩
    · rintro ⟨⟨t₁, t₂, hm₁, hm₂, rfl⟩, rfl⟩
      exact ⟨t₁, t₂ ++ rest, ihf.2 ⟨hm₁, List.append_assoc _ _ _⟩, t₂, rest, ihs.2 ⟨hm₂, rfl⟩, rfl, rfl⟩

/-- Longer texts are split off first. -/
def LongestFirst (e : Expression) : Prop := ∀ s, (e.ways s).Pairwise fun m m' => m'.1.length < m.1.length

theorem longestFirst_word (w : Text) : (word w).LongestFirst := by
  intro s
  unfold ways
  cases Text.after? w s with
  | none => exact List.Pairwise.nil
  | some rest => exact List.pairwise_singleton _ _

theorem longestFirst_one (p : Char → Bool) : (one p).LongestFirst := by
  intro s
  cases s with
  | nil => exact List.Pairwise.nil
  | cons c s =>
    unfold ways
    split
    · exact List.pairwise_singleton _ _
    · exact List.Pairwise.nil

theorem longestFirst_many (p : Char → Bool) : (many p).LongestFirst := by
  intro s
  unfold ways
  induction s with
  | nil => exact List.Pairwise.nil
  | cons c s ih =>
    unfold manyWays
    split
    · rw [List.pairwise_append, List.pairwise_map]
      refine ⟨ih.imp fun h => Nat.succ_lt_succ h, List.pairwise_singleton _ _, ?_⟩
      intro m hm m' hm'
      obtain ⟨⟨t, rest⟩, ht, rfl⟩ := List.mem_map.1 hm
      obtain rfl := List.mem_singleton.1 hm'
      have hpos := List.length_pos_of_ne_nil (mem_manyWays.1 ht).1.1
      simpa using hpos
    · exact List.Pairwise.nil

theorem ways_word_seq (w : Text) (e : Expression) (s : Text) :
    (seq (word w) e).ways s =
      (Text.after? w s).toList.flatMap fun rest => (e.ways rest).map fun m => (w ++ m.1, m.2) := by
  have hword : (word w).ways s = ((Text.after? w s).map fun rest => (w, rest)).toList := rfl
  rw [ways, hword]
  cases Text.after? w s <;> rfl

theorem longestFirst_word_seq (w : Text) {e : Expression} (h : e.LongestFirst) : (seq (word w) e).LongestFirst := by
  intro s
  rw [ways_word_seq]
  cases Text.after? w s with
  | none => exact List.Pairwise.nil
  | some rest =>
    simp only [Option.toList_some, List.flatMap_singleton, List.pairwise_map, List.length_append]
    exact (h rest).imp fun hlt => Nat.add_lt_add_left hlt _

/-- Of a word with one of two characters behind it, at most one is there. -/
theorem ways_word_seq_one (w s : Text) {a b : Char} (hab : a ≠ b) :
    (seq (word w) (one fun c => c == a || c == b)).ways s =
      (word (w ++ [a])).ways s ++ (word (w ++ [b])).ways s := by
  rw [ways_word_seq]
  unfold ways
  rw [Text.after?_append, Text.after?_append]
  cases Text.after? w s with
  | none => rfl
  | some rest =>
    cases rest with
    | nil => rfl
    | cons c rest =>
      by_cases ha : c = a
      · subst ha
        simp [Text.after?, hab.symm]
      · by_cases hb : c = b
        · subst hb
          simp [Text.after?, hab]
        · simp [Text.after?, ha, hb, Ne.symm ha, Ne.symm hb]

end Expression

/-! ### The pattern -/

/-- The alternatives for the keyword, the preferred ones first. -/
def alternatives : List Expression := [
  .word "unsigned long".toList, .word "long".toList, .word "int32".toList, .word "bool".toList,
  .seq (.word "uint".toList) (.many Char.isDigit), .word "int".toList, .word "auto".toList, .word "float".toList,
  .word "unsigned int".toList, .seq (.word "char".toList) (.one fun c => c == ' ' || c == '*')]

/-- What follows the keyword: anything up to the end of the line, then letters, dots or spaces, and an equals sign. -/
def assignment : Expression := .seq (.many (· != '\n')) (.seq (.many isTargetChar) (.word "=".toList))

/-- The keyword in each way to read the pattern at the beginning of `s`. -/
def keywordsTried (s : Text) : List Text :=
  alternatives.flatMap fun alternative =>
    (alternative.ways s).flatMap fun m => (assignment.ways m.2).map fun _ => m.1

/-- The keyword in the first way to read the pattern, at the leftmost place where there is one. -/
def captured? (line : Text) : Option Text :=
  (List.range (line.length + 1)).findSome? fun start => (keywordsTried (line.drop start)).head?

theorem longestFirst_of_mem_alternatives {e : Expression} (h : e ∈ alternatives) : e.LongestFirst := by
  simp only [alternatives, List.mem_cons, List.not_mem_nil, or_false] at h
  rcases h with rfl | rfl | rfl | rfl | rfl | rfl | rfl | rfl | rfl | rfl
  case inr.inr.inr.inr.inl => exact Expression.longestFirst_word_seq _ (Expression.longestFirst_many _)
  case inr.inr.inr.inr.inr.inr.inr.inr.inr => exact Expression.longestFirst_word_seq _ (Expression.longestFirst_one _)
  all_goals exact Expression.longestFirst_word _

private theorem digitSplits_eq (s : Text) :
    digitSplits (s.takeWhile Char.isDigit) (s.dropWhile Char.isDigit) = manyWays Char.isDigit s := by
  induction s with
  | nil => rfl
  | cons c s ih =>
    by_cases hc : c.isDigit = true
    · simp only [List.takeWhile_cons, List.dropWhile_cons, hc, ↓reduceIte, digitSplits, manyWays, ih,
        List.takeWhile_append_dropWhile]
    · simp [digitSplits, manyWays, hc]

private theorem sizedAt_eq (s : Text) :
    sizedAt s = (Expression.seq (.word "uint".toList) (.many Char.isDigit)).ways s := by
  unfold sizedAt
  rw [Expression.ways_word_seq]
  cases Text.after? "uint".toList s with
  | none => rfl
  | some rest => simp only [Option.toList_some, List.flatMap_singleton, Expression.ways, digitSplits_eq]

/-- The keywords are listed in the order of the alternatives. -/
theorem keywordsAt_eq (s : Text) : keywordsAt s = alternatives.flatMap fun alternative => alternative.ways s := by
  have hchar := Expression.ways_word_seq_one "char".toList s (by decide : ' ' ≠ '*')
  simp only [alternatives, List.flatMap_cons, List.flatMap_nil, List.append_nil, hchar, ← sizedAt_eq, keywordsAt,
    List.append_assoc]
  rfl

/-! ### What follows the keyword -/

/-- An equals sign stands at position `e`, right behind a letter, a dot or a space. -/
def IsTarget (line : Text) (e : Nat) : Prop :=
  ∃ before c after, line = before ++ c :: '=' :: after ∧ isTargetChar c = true ∧ e = before.length + 1

/-- The last such equals sign of the line stands at position `e`. -/
def IsLastTarget (line : Text) (e : Nat) : Prop := IsTarget line e ∧ ∀ e', IsTarget line e' → e' ≤ e

theorem assigns_iff {s : Text} :
    assigns s = true ↔ ∃ before c after, s = before ++ c :: '=' :: after ∧ isTargetChar c = true := by
  induction s with
  | nil => simp [assigns]
  | cons a s ih =>
    cases s with
    | nil =>
      simp only [assigns, Bool.false_eq_true, false_iff]
      rintro ⟨before, c, after, hs, -⟩
      have hlength := congrArg List.length hs
      simp at hlength
      omega
    | cons b s =>
      rw [assigns, Bool.or_eq_true, ih, Bool.and_eq_true, beq_iff_eq]
      constructor
      · rintro (⟨ha, rfl⟩ | ⟨before, c, after, hs, hc⟩)
        · exact ⟨[], a, s, rfl, ha⟩
        · exact ⟨a :: before, c, after, by rw [hs]; rfl, hc⟩
      · rintro ⟨before, c, after, hs, hc⟩
        cases before with
        | nil =>
          obtain ⟨rfl, hb⟩ := List.cons.inj hs
          exact Or.inl ⟨hc, (List.cons.inj hb).1⟩
        | cons d before => exact Or.inr ⟨before, c, after, (List.cons.inj hs).2, hc⟩

theorem assigns_drop_iff {line : Text} {n : Nat} : assigns (line.drop n) = true ↔ ∃ e, IsTarget line e ∧ n < e := by
  rw [assigns_iff]
  constructor
  · rintro ⟨before, c, after, hs, hc⟩
    refine ⟨(line.take n ++ before).length + 1, ⟨line.take n ++ before, c, after, ?_, hc, rfl⟩, ?_⟩
    · rw [List.append_assoc, ← hs, List.take_append_drop]
    · have hlength := congrArg List.length hs
      simp only [List.length_drop, List.length_append, List.length_cons] at hlength
      simp only [List.length_append, List.length_take]
      omega
  · rintro ⟨-, ⟨before, c, after, rfl, hc, rfl⟩, hn⟩
    exact ⟨before.drop n, c, after, List.drop_append_of_le_length (by omega), hc⟩

theorem completes_drop_iff {line : Text} {q : Nat} :
    completes (line.drop q) = true ↔ ∃ e, IsTarget line e ∧ q + 2 ≤ e := by
  rw [completes, List.drop_drop, assigns_drop_iff]
  rfl

theorem exists_isLastTarget {line : Text} {e : Nat} (h : IsTarget line e) : ∃ e', IsLastTarget line e' := by
  classical
  have hbound : ∀ e', IsTarget line e' → e' ≤ line.length := by
    rintro e' ⟨before, c, after, rfl, -, rfl⟩
    simp only [List.length_append, List.length_cons]
    omega
  refine ⟨Nat.findGreatest (IsTarget line) line.length, Nat.findGreatest_spec (hbound e h) h, ?_⟩
  intro e' he'
  exact Nat.le_findGreatest (hbound e' he') he'

/-- What follows a keyword can be read exactly if an equals sign stands far enough to the right. -/
theorem assignment_ways_ne_nil_iff {rest : Text} (h : '\n' ∉ rest) :
    assignment.ways rest ≠ [] ↔ completes rest = true := by
  rw [completes, assigns_iff]
  constructor
  · intro hne
    obtain ⟨⟨t, after⟩, hway⟩ := List.exists_mem_of_ne_nil _ hne
    obtain ⟨⟨any, target, ⟨hany, -⟩, ⟨name, sign, ⟨hname, hclass⟩, rfl, rfl⟩, rfl⟩, rfl⟩ :=
      Expression.mem_ways.1 hway
    obtain ⟨x, any, rfl⟩ := List.exists_cons_of_ne_nil hany
    obtain ⟨name, c, rfl⟩ := List.eq_nil_or_concat name |>.resolve_left hname
    exact ⟨any ++ name, c, after, by simp, hclass c (by simp)⟩
  · rintro ⟨before, c, after, hrest, hc⟩
    cases rest with
    | nil => simp at hrest
    | cons x rest =>
      obtain rfl : rest = before ++ c :: '=' :: after := hrest
      have hany : ∀ d ∈ x :: before, (d != '\n') = true := by
        intro d hd
        rw [bne_iff_ne]
        rintro rfl
        rcases List.mem_cons.1 hd with rfl | hd
        · exact h List.mem_cons_self
        · exact h (List.mem_cons_of_mem _ (List.mem_append_left _ hd))
      have hway : ((x :: before) ++ ([c] ++ ['=']), after) ∈ assignment.ways (x :: (before ++ c :: '=' :: after)) := by
        refine Expression.mem_ways.2 ⟨⟨_, _, ⟨List.cons_ne_nil _ _, hany⟩, ⟨_, _, ⟨?_, ?_⟩, rfl, rfl⟩, rfl⟩, ?_⟩
        · exact List.cons_ne_nil _ _
        · simpa using hc
        · simp
      exact List.ne_nil_of_mem hway

/-! ### The search -/

/-- The keyword of the declaration that begins where the text does. -/
def keywordAt? (s : Text) : Option Text := ((keywordsAt s).find? fun m => completes m.2).map Prod.fst

/-- The first way to read the pattern has the first keyword behind which the rest can be read at all. -/
theorem head?_flatMap_assignment {ms : List (Text × Text)} (h : ∀ m ∈ ms, '\n' ∉ m.2) :
    (ms.flatMap fun m => (assignment.ways m.2).map fun _ => m.1).head? =
      (ms.find? fun m => completes m.2).map Prod.fst := by
  induction ms with
  | nil => rfl
  | cons m ms ih =>
    obtain ⟨hm, hms⟩ := List.forall_mem_cons.1 h
    have hrest := assignment_ways_ne_nil_iff hm
    rw [List.flatMap_cons, List.find?_cons]
    cases hways : assignment.ways m.2 with
    | nil =>
      have hfails : completes m.2 = false := by simpa [hways] using hrest
      rw [hfails, List.map_nil, List.nil_append]
      exact ih hms
    | cons way ways =>
      have hcompletes : completes m.2 = true := hrest.1 (by simp [hways])
      rw [hcompletes]
      rfl

theorem mem_keywordsAt {s keyword rest : Text} :
    (keyword, rest) ∈ keywordsAt s ↔ (∃ e ∈ alternatives, e.Matches keyword) ∧ s = keyword ++ rest := by
  rw [keywordsAt_eq, List.mem_flatMap]
  constructor
  · rintro ⟨e, he, hway⟩
    obtain ⟨hmatches, hs⟩ := Expression.mem_ways.1 hway
    exact ⟨⟨e, he, hmatches⟩, hs⟩
  · rintro ⟨⟨e, he, hmatches⟩, hs⟩
    exact ⟨e, he, Expression.mem_ways.2 ⟨hmatches, hs⟩⟩

theorem head?_keywordsTried {s : Text} (h : '\n' ∉ s) : (keywordsTried s).head? = keywordAt? s := by
  have hbreak : ∀ m ∈ keywordsAt s, '\n' ∉ m.2 := by
    rintro ⟨keyword, rest⟩ hm hbreak
    rw [(mem_keywordsAt.1 hm).2] at h
    exact h (List.mem_append_right keyword hbreak)
  unfold keywordsTried keywordAt?
  rw [← head?_flatMap_assignment hbreak, keywordsAt_eq, List.flatMap_assoc]

theorem keyword?_eq_findSome? (line : Text) :
    keyword? line = (List.range (line.length + 1)).findSome? fun start => keywordAt? (line.drop start) := by
  induction line with
  | nil => rfl
  | cons c s ih =>
    have hstep : keyword? (c :: s) = (keywordAt? (c :: s)).or (keyword? s) := by
      unfold keywordAt?
      rw [keyword?]
      cases (keywordsAt (c :: s)).find? fun m => completes m.2 <;> rfl
    have hrange : List.range ((c :: s).length + 1) = 0 :: (List.range (s.length + 1)).map Nat.succ :=
      List.range_succ_eq_map
    rw [hstep, ih, hrange, List.findSome?_cons, List.findSome?_map, List.drop_zero]
    cases keywordAt? (c :: s) <;> rfl

theorem keyword?_eq_captured? {line : Text} (h : '\n' ∉ line) : keyword? line = captured? line := by
  rw [keyword?_eq_findSome?, captured?]
  congr 1
  funext start
  rw [head?_keywordsTried fun hbreak => h (List.mem_of_mem_drop hbreak)]

/-- A declaration begins where the text does, and its keyword is one of alternative number `n`. -/
def Begins (s : Text) (n : Nat) (keyword : Text) : Prop :=
  ∃ alternative rest, alternatives[n]? = some alternative ∧ alternative.Matches keyword ∧ s = keyword ++ rest ∧
    completes rest = true

theorem exists_index_of_findSome? {α β : Type} {l : List α} {f : α → Option β} {b : β} (h : l.findSome? f = some b) :
    ∃ (n : Nat) (a : α), l[n]? = some a ∧ f a = some b ∧
      ∀ (n' : Nat) (a' : α), l[n']? = some a' → f a' ≠ none → n ≤ n' := by
  obtain ⟨l₁, a, l₂, rfl, ha, hnone⟩ := List.findSome?_eq_some_iff.1 h
  refine ⟨l₁.length, a, by simp, ha, ?_⟩
  intro n' a' hn' ha'
  by_contra hlt
  rw [List.getElem?_append_left (by omega)] at hn'
  exact ha' (hnone a' (List.mem_of_getElem? hn'))

theorem keywordAt?_ne_none {s keyword : Text} {n : Nat} (h : Begins s n keyword) : keywordAt? s ≠ none := by
  obtain ⟨e, rest, hn, hmatches, hs, hcompletes⟩ := h
  have hmem : (keyword, rest) ∈ keywordsAt s := mem_keywordsAt.2 ⟨⟨e, List.mem_of_getElem? hn, hmatches⟩, hs⟩
  intro hnone
  have hfails := List.find?_eq_none.1 (Option.map_eq_none_iff.1 hnone) _ hmem
  exact hfails hcompletes

/-- Of the keywords that can begin a declaration, the first alternative counts, and of that the longest keyword. -/
theorem begins_of_keywordAt? {s keyword : Text} (h : keywordAt? s = some keyword) :
    ∃ n, Begins s n keyword ∧
      ∀ n' keyword', Begins s n' keyword' → n < n' ∨ n = n' ∧ keyword'.length ≤ keyword.length := by
  obtain ⟨⟨keyword, rest⟩, hfind, rfl⟩ := Option.map_eq_some_iff.1 h
  rw [keywordsAt_eq, List.find?_flatMap] at hfind
  obtain ⟨n, e, hn, hfirst, hleast⟩ := exists_index_of_findSome? hfind
  obtain ⟨hcompletes, tried, later, hways, hfailed⟩ := List.find?_eq_some_iff_append.1 hfirst
  have hway : (keyword, rest) ∈ e.ways s := by rw [hways]; simp
  obtain ⟨hmatches, hs⟩ := Expression.mem_ways.1 hway
  refine ⟨n, ⟨e, rest, hn, hmatches, hs, hcompletes⟩, ?_⟩
  rintro n' keyword' ⟨e', rest', hn', hmatches', hs', hcompletes'⟩
  have hway' : (keyword', rest') ∈ e'.ways s := Expression.mem_ways.2 ⟨hmatches', hs'⟩
  have hle : n ≤ n' := by
    refine hleast n' e' hn' fun hnone => ?_
    exact List.find?_eq_none.1 hnone _ hway' hcompletes'
  rcases Nat.lt_or_eq_of_le hle with hlt | rfl
  · exact Or.inl hlt
  · right
    refine ⟨rfl, ?_⟩
    obtain rfl : e' = e := Option.some.inj (hn'.symm.trans hn)
    -- the other keyword was not tried before this one, so it is no longer
    have hlongest := longestFirst_of_mem_alternatives (List.mem_of_getElem? hn) s
    rw [hways] at hway' hlongest
    rcases List.mem_append.1 hway' with htried | hlater
    · have hfails := hfailed _ htried
      rw [hcompletes'] at hfails
      cases hfails
    · rcases List.mem_cons.1 hlater with heq | hlater
      · rw [(Prod.mk.inj heq).1]
      · exact Nat.le_of_lt ((List.pairwise_cons.1 (List.pairwise_append.1 hlongest).2.1).1 _ hlater)

/-! ### Positions -/

theorem eq_drop_of_drop_eq {line keyword rest : Text} {start : Nat} (h : line.drop start = keyword ++ rest) :
    rest = line.drop (start + keyword.length) := by
  rw [← List.drop_drop, h, List.drop_left]

/-- The keyword stands at position `start` of the line. -/
def StandsAt (line keyword : Text) (start : Nat) : Prop :=
  ∃ before after, line = before ++ keyword ++ after ∧ before.length = start

/-- A keyword of alternative number `n` stands at position `start` of the line, and at least one character is between it
and the letter, dot or space in front of the equals sign at position `e`. -/
structure IsCandidate (line : Text) (e n start : Nat) (keyword : Text) : Prop where
  isKeyword : ∃ alternative, alternatives[n]? = some alternative ∧ alternative.Matches keyword
  stands : StandsAt line keyword start
  fits : start + keyword.length + 2 ≤ e

/-- One keyword precedes another if it stands further to the left, or at the same place and is of a preferred
alternative, or of the same one and no shorter. -/
def Precedes (n start : Nat) (keyword : Text) (n' start' : Nat) (keyword' : Text) : Prop :=
  start < start' ∨ start = start' ∧ (n < n' ∨ n = n' ∧ keyword'.length ≤ keyword.length)

/-- Whether a declaration begins at a keyword depends on the last target alone. -/
theorem isCandidate_iff {line keyword : Text} {e n start : Nat} (he : IsLastTarget line e) :
    IsCandidate line e n start keyword ↔ start ≤ line.length ∧ Begins (line.drop start) n keyword := by
  have hrest : ∀ rest, line.drop start = keyword ++ rest →
      (completes rest = true ↔ start + keyword.length + 2 ≤ e) := by
    intro rest hs
    rw [eq_drop_of_drop_eq hs, completes_drop_iff]
    constructor
    · rintro ⟨e', he', hle⟩
      exact Nat.le_trans hle (he.2 e' he')
    · intro hle
      exact ⟨e, he.1, hle⟩
  constructor
  · rintro ⟨⟨alternative, hn, hmatches⟩, ⟨before, after, hline, rfl⟩, hfits⟩
    have hs : line.drop before.length = keyword ++ after := by rw [hline, List.append_assoc, List.drop_left]
    refine ⟨?_, alternative, after, hn, hmatches, hs, (hrest after hs).2 hfits⟩
    rw [hline]
    simp only [List.length_append]
    omega
  · rintro ⟨hstart, alternative, rest, hn, hmatches, hs, hcompletes⟩
    refine ⟨⟨alternative, hn, hmatches⟩, ⟨line.take start, rest, ?_, ?_⟩, (hrest rest hs).1 hcompletes⟩
    · rw [List.append_assoc, ← hs, List.take_append_drop]
    · rw [List.length_take]
      omega

theorem keyword?_ne_none {line keyword : Text} {n start : Nat} (hstart : start ≤ line.length)
    (h : Begins (line.drop start) n keyword) : keyword? line ≠ none := by
  rw [keyword?_eq_findSome?]
  intro hnone
  exact keywordAt?_ne_none h (List.findSome?_eq_none_iff.1 hnone start (List.mem_range.2 (by omega)))

theorem begins_of_keyword? {line keyword : Text} (h : keyword? line = some keyword) :
    ∃ n start, start ≤ line.length ∧ Begins (line.drop start) n keyword ∧
      ∀ n' start' keyword', start' ≤ line.length → Begins (line.drop start') n' keyword' →
        Precedes n start keyword n' start' keyword' := by
  rw [keyword?_eq_findSome?] at h
  obtain ⟨start, start₀, hindex, hstart, hleast⟩ := exists_index_of_findSome? h
  obtain ⟨hlt, rfl⟩ := List.getElem?_eq_some_iff.1 hindex
  rw [List.getElem_range] at hstart
  rw [List.length_range] at hlt
  obtain ⟨n, hbegins, hfirst⟩ := begins_of_keywordAt? hstart
  refine ⟨n, start, by omega, hbegins, ?_⟩
  intro n' start' keyword' hstart' hbegins'
  have hle : start ≤ start' := by
    refine hleast start' start' ?_ (keywordAt?_ne_none hbegins')
    exact List.getElem?_range (by omega)
  rcases Nat.lt_or_eq_of_le hle with hlt' | rfl
  · exact Or.inl hlt'
  · exact Or.inr ⟨rfl, hfirst n' keyword' hbegins'⟩

theorem exists_isTarget_of_begins {line keyword : Text} {n start : Nat} (h : Begins (line.drop start) n keyword) :
    ∃ e, IsTarget line e := by
  obtain ⟨-, rest, -, -, hs, hcompletes⟩ := h
  rw [eq_drop_of_drop_eq hs, completes_drop_iff] at hcompletes
  obtain ⟨e, he, -⟩ := hcompletes
  exact ⟨e, he⟩

theorem Precedes.antisymm {n start n' start' : Nat} {line keyword keyword' : Text}
    (h : Precedes n start keyword n' start' keyword') (h' : Precedes n' start' keyword' n start keyword)
    (hstands : StandsAt line keyword start) (hstands' : StandsAt line keyword' start') : keyword = keyword' := by
  unfold Precedes at h h'
  obtain ⟨before, after, rfl, rfl⟩ := hstands
  obtain ⟨before', after', hline, hstart⟩ := hstands'
  have hlength : keyword.length = keyword'.length := by omega
  have hbefore : before.length = before'.length := by omega
  rw [List.append_assoc, List.append_assoc] at hline
  exact (List.append_inj (List.append_inj hline hbefore).2 hlength).1

/-- A line without a line feed matches the pattern exactly if a keyword stands far enough in front of the last equals
sign that follows a letter, a dot or a space.  Of all such keywords the leftmost is captured; of those at one place the
one of the preferred alternative; and of that the longest. -/
theorem keyword?_by_position {line : Text} (h : '\n' ∉ line) :
    keyword? line = captured? line ∧
    ((keyword? line).isSome ↔
      ∃ e, IsLastTarget line e ∧ ∃ n start keyword, IsCandidate line e n start keyword) ∧
    ∀ keyword, keyword? line = some keyword ↔
      ∃ e n start, IsLastTarget line e ∧ IsCandidate line e n start keyword ∧
        ∀ n' start' keyword', IsCandidate line e n' start' keyword' →
          Precedes n start keyword n' start' keyword' := by
  have hfirst : ∀ keyword, keyword? line = some keyword →
      ∃ e n start, IsLastTarget line e ∧ IsCandidate line e n start keyword ∧
        ∀ n' start' keyword', IsCandidate line e n' start' keyword' → Precedes n start keyword n' start' keyword' := by
    intro keyword hkeyword
    obtain ⟨n, start, hstart, hbegins, hleast⟩ := begins_of_keyword? hkeyword
    obtain ⟨last, hlast⟩ := exists_isTarget_of_begins hbegins
    obtain ⟨e, he⟩ := exists_isLastTarget hlast
    refine ⟨e, n, start, he, (isCandidate_iff he).2 ⟨hstart, hbegins⟩, ?_⟩
    intro n' start' keyword' hcandidate
    obtain ⟨hstart', hbegins'⟩ := (isCandidate_iff he).1 hcandidate
    exact hleast n' start' keyword' hstart' hbegins'
  have hsome : ∀ {e n start keyword}, IsLastTarget line e → IsCandidate line e n start keyword →
      ∃ keyword, keyword? line = some keyword := by
    intro e n start keyword he hcandidate
    obtain ⟨hstart, hbegins⟩ := (isCandidate_iff he).1 hcandidate
    exact Option.ne_none_iff_exists'.1 (keyword?_ne_none hstart hbegins)
  refine ⟨keyword?_eq_captured? h, ?_, ?_⟩
  · rw [Option.isSome_iff_exists]
    constructor
    · rintro ⟨keyword, hkeyword⟩
      obtain ⟨e, n, start, he, hcandidate, -⟩ := hfirst keyword hkeyword
      exact ⟨e, he, n, start, keyword, hcandidate⟩
    · rintro ⟨e, he, n, start, keyword, hcandidate⟩
      exact hsome he hcandidate
  · intro keyword
    constructor
    · exact hfirst keyword
    · rintro ⟨e, n, start, he, hcandidate, hleast⟩
      obtain ⟨found, hfound⟩ := hsome he hcandidate
      obtain ⟨e', n', start', he', hcandidate', hleast'⟩ := hfirst found hfound
      obtain rfl : e' = e := Nat.le_antisymm (he.2 e' he'.1) (he'.2 e he.1)
      have hsame := Precedes.antisymm (hleast _ _ _ hcandidate') (hleast' _ _ _ hcandidate) hcandidate.stands
        hcandidate'.stands
      rw [hfound, hsame]

/-- The last digit is too close to the equals sign, so the keyword is read without it. -/
theorem keyword?_by_position_of_digits :
    let line := "uint123 =".toList
    '\n' ∉ line ∧ keyword? line = captured? line ∧ keyword? line = some "uint12".toList ∧
      ∃ e n start, IsLastTarget line e ∧ IsCandidate line e n start "uint12".toList ∧
        ∀ n' start' keyword', IsCandidate line e n' start' keyword' →
          Precedes n start "uint12".toList n' start' keyword' := by
  intro line
  have hbreak : '\n' ∉ line := by decide
  have hkeyword : keyword? line = some "uint12".toList := by decide
  obtain ⟨hcaptured, -, hfirst⟩ := keyword?_by_position hbreak
  exact ⟨hbreak, hcaptured, hkeyword, (hfirst _).1 hkeyword⟩

end Declaration

end BindingDocs
