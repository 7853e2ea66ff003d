import BindingDocs.Proofs.EventsApart
import BindingDocs.Summary
import BindingDocs.Text.Utf8
import Mathlib.Data.List.Chain
import Mathlib.Data.List.TakeWhile

/-!
# Words of names

What is left of a name behind its verb is split into words, and nothing is lost (`parts_lossless`).  In camel case each
turn takes off a whole word or the characters up to the next capital, whatever may follow (`SplitsInto`).  All else
comes from this: no word of `wholeWords` begins inside another piece (`exists_append_of_append_eq`), so each of its
occurrences is a piece of its own, and what is asked of the pieces leaves no choice (`isCamelSplit_iff`).
-/

namespace BindingDocs.Summary

/-! ### What is asked -/

/-- The number of bytes of the next word: those before the next capital behind the first character, or those of a whole
word if these are more. -/
def wordSize (s : Text) : Nat :=
  wholeWords.foldl (fun n word => if word.isPrefixOf s && decide (n < Text.size word) then Text.size word else n)
    (Text.size (s.take 1 ++ upToCapital (s.drop 1)))

/-- Words cut off a text one after the other, each as many bytes as `wordSize` tells, until nothing is left.  No cut
falls into a character. -/
inductive CutsInto : Text → List Text → Prop
  | done : CutsInto [] []
  | cut {s word rest : Text} {words : List Text} (hs : s ≠ []) (hword : Text.takeBytes? (wordSize s) s = some word)
      (hrest : Text.dropBytes? (wordSize s) s = some rest) (h : CutsInto rest words) : CutsInto s (word :: words)

/-- The words of a text in camel case. -/
structure IsCamelSplit (s : Text) (words : List Text) : Prop where
  flatten : words.flatten = s
  ne_nil : ∀ word ∈ words, word ≠ []
  /-- Other than in a whole word, a capital stands at the beginning only. -/
  capital : ∀ word ∈ words, word ∉ wholeWords → ∀ c ∈ word.tail, Text.isUppercase c = false
  /-- Behind any other word than a whole one a capital begins the next. -/
  next : words.IsChain fun word next => word ∈ wholeWords ∨ ∃ c ∈ next.head?, Text.isUppercase c = true
  /-- A whole word is never cut, nor does it stand in a longer one. -/
  whole : ∀ word ∈ wholeWords, ∀ before after, s = before ++ word ++ after →
    ∃ earlier later, words = earlier ++ word :: later ∧ earlier.flatten = before ∧ later.flatten = after

/-! ### Turns -/

/-- What the turns take off a text: a whole word where one begins, else a character and what follows it up to the next
capital. -/
inductive SplitsInto : Text → List Text → Prop
  | done : SplitsInto [] []
  | whole {word s : Text} {words : List Text} (hword : word ∈ wholeWords) (h : SplitsInto s words) :
      SplitsInto (word ++ s) (word :: words)
  | plain {c : Char} {t s : Text} {words : List Text} (hnone : ∀ word ∈ wholeWords, ¬ word <+: c :: (t ++ s))
      (ht : ∀ d ∈ t, Text.isUppercase d = false) (hs : ∀ d ∈ s.head?, Text.isUppercase d = true)
      (h : SplitsInto s words) : SplitsInto (c :: (t ++ s)) ((c :: t) :: words)

variable {c : Char} {s rest word word' : Text} {words : List Text}

theorem wholeWords_eq : wholeWords = [['I', 'D'], ['M', 'P', '3'], ['N', 'P', 'C']] := rfl

theorem ne_nil_of_mem_wholeWords (h : word ∈ wholeWords) : word ≠ [] := by
  have hne : ∀ word ∈ wholeWords, word ≠ [] := by decide
  exact hne word h

theorem isUppercase_of_mem_head? (hword : word ∈ wholeWords) (hc : c ∈ word.head?) : Text.isUppercase c = true := by
  have hcapital : ∀ word ∈ wholeWords, word.head?.all Text.isUppercase = true := by decide +kernel
  have hhead := hcapital word hword
  rwa [Option.mem_def.1 hc] at hhead

/-- No character behind the first of a whole word begins one. -/
theorem notMem_head?_of_mem_tail (hword' : word' ∈ wholeWords) (hc : c ∈ word'.tail) (hword : word ∈ wholeWords) :
    c ∉ word.head? := by
  have hapart : ∀ word ∈ wholeWords, ∀ word' ∈ wholeWords, (word.head?.all fun c => !word'.tail.contains c) = true := by
    decide +kernel
  intro hhead
  have hnot := hapart word hword word' hword'
  rw [Option.mem_def.1 hhead, Option.all_some, List.contains_iff_mem.2 hc] at hnot
  cases hnot

/-- One whole word at most begins a text. -/
theorem eq_of_isPrefix (hword : word ∈ wholeWords) (hword' : word' ∈ wholeWords) (h : word <+: s) (h' : word' <+: s) :
    word = word' := by
  have hsame : ∀ word ∈ wholeWords, ∀ word' ∈ wholeWords, word <+: word' → word = word' := by decide
  rcases List.prefix_or_prefix_of_prefix h h' with hle | hle
  · exact hsame word hword word' hword' hle
  · exact (hsame word' hword' word hword hle).symm

theorem foldl_wholeWords_of_isPrefix (measure : Text → Nat) {n : Nat} (hword : word ∈ wholeWords) (h : word <+: s)
    (hn : n < measure word) :
    wholeWords.foldl (fun n word => if word.isPrefixOf s && decide (n < measure word) then measure word else n) n =
      measure word := by
  obtain ⟨rest, rfl⟩ := h
  simp only [wholeWords_eq, List.mem_cons, List.not_mem_nil, or_false] at hword
  rcases hword with rfl | rfl | rfl <;> simp [wholeWords_eq, hn]

theorem foldl_wholeWords_of_none (measure : Text → Nat) (n : Nat) (h : ∀ word ∈ wholeWords, ¬ word <+: s) :
    wholeWords.foldl (fun n word => if word.isPrefixOf s && decide (n < measure word) then measure word else n) n =
      n := by
  generalize wholeWords = whole at h ⊢
  induction whole with
  | nil => rfl
  | cons word whole ih =>
    obtain ⟨hword, hwhole⟩ := List.forall_mem_cons.1 h
    have hnot : word.isPrefixOf s = false := by
      rw [Bool.eq_false_iff, ne_eq, List.isPrefixOf_iff_prefix]
      exact hword
    rw [List.foldl_cons, hnot, Bool.false_and, if_neg Bool.false_ne_true]
    exact ih hwhole

/-- Behind the first character of a whole word stands a capital. -/
theorem upToCapital_of_isPrefix (hword : word ∈ wholeWords) (h : word <+: c :: s) : upToCapital s = [] := by
  obtain ⟨rest, hrest⟩ := h
  simp only [wholeWords_eq, List.mem_cons, List.not_mem_nil, or_false] at hword
  have hcapital : Text.isUppercase 'D' = true ∧ Text.isUppercase 'P' = true := by decide
  rcases hword with rfl | rfl | rfl
  all_goals
    obtain ⟨-, rfl⟩ := List.cons.inj hrest
    simp [upToCapital, hcapital]

theorem wordLength_of_isPrefix (hword : word ∈ wholeWords) (h : word <+: c :: s) :
    wordLength c s = word.length := by
  have hlong : ∀ word ∈ wholeWords, 1 < word.length := by decide
  rw [wordLength, upToCapital_of_isPrefix hword h]
  exact foldl_wholeWords_of_isPrefix List.length hword h (hlong word hword)

theorem wordSize_of_isPrefix (hword : word ∈ wholeWords) (h : word <+: s) : wordSize s = Text.size word := by
  have hlong : ∀ word ∈ wholeWords, Text.size (word.take 1) < Text.size word := by decide
  cases s with
  | nil => exact absurd (List.prefix_nil.1 h) (ne_nil_of_mem_wholeWords hword)
  | cons c s =>
    have hfirst : word.take 1 = [c] := by
      obtain ⟨rest, hrest⟩ := h
      cases word with
      | nil => exact absurd rfl (ne_nil_of_mem_wholeWords hword)
      | cons d word => rw [(List.cons.inj hrest).1]; rfl
    refine foldl_wholeWords_of_isPrefix Text.size hword h ?_
    show Text.size ([c] ++ upToCapital s) < Text.size word
    rw [upToCapital_of_isPrefix hword h, List.append_nil, ← hfirst]
    exact hlong word hword

/-- What the turn takes off a text that begins with no whole word. -/
theorem upToCapital_append {t : Text} (ht : ∀ d ∈ t, Text.isUppercase d = false)
    (hs : ∀ d ∈ s.head?, Text.isUppercase d = true) : upToCapital (t ++ s) = t := by
  have hall : ∀ d ∈ t, (!Text.isUppercase d) = true := fun d hd => by rw [ht d hd]; rfl
  have hnone : s.takeWhile (fun d => !Text.isUppercase d) = [] := by
    cases s with
    | nil => rfl
    | cons d s =>
      have hd := hs d rfl
      simp [hd]
  rw [upToCapital, List.takeWhile_append_of_pos hall, hnone, List.append_nil]

theorem wordLength_of_none {t : Text} (hnone : ∀ word ∈ wholeWords, ¬ word <+: c :: (t ++ s))
    (ht : ∀ d ∈ t, Text.isUppercase d = false) (hs : ∀ d ∈ s.head?, Text.isUppercase d = true) :
    wordLength c (t ++ s) = (c :: t).length := by
  have hlength := foldl_wholeWords_of_none List.length (1 + t.length) hnone
  rw [wordLength, upToCapital_append ht hs, List.length_cons, Nat.add_comm]
  rwa [Nat.add_comm] at hlength

theorem wordSize_of_none {t : Text} (hnone : ∀ word ∈ wholeWords, ¬ word <+: c :: (t ++ s))
    (ht : ∀ d ∈ t, Text.isUppercase d = false) (hs : ∀ d ∈ s.head?, Text.isUppercase d = true) :
    wordSize (c :: (t ++ s)) = Text.size (c :: t) := by
  have hscan : (c :: (t ++ s)).take 1 ++ upToCapital ((c :: (t ++ s)).drop 1) = c :: t :=
    congrArg (c :: ·) (upToCapital_append ht hs)
  rw [wordSize, hscan]
  exact foldl_wholeWords_of_none Text.size (Text.size (c :: t)) hnone

theorem exists_upToCapital (s : Text) :
    ∃ t rest, s = t ++ rest ∧ (∀ d ∈ t, Text.isUppercase d = false) ∧
      ∀ d ∈ rest.head?, Text.isUppercase d = true := by
  refine ⟨s.takeWhile fun d => !Text.isUppercase d, s.dropWhile fun d => !Text.isUppercase d,
    List.takeWhile_append_dropWhile.symm, fun d hd => ?_, fun d hd => ?_⟩
  · simpa using List.mem_takeWhile_imp hd
  · have hnot := List.head?_dropWhile_not (fun d => !Text.isUppercase d) s
    rw [hd] at hnot
    simpa using hnot

/-- The loop takes off as many characters as `wordLength` tells. -/
theorem camelWords_append (hword : word ≠ []) (h : word ++ rest = c :: s) (hlength : wordLength c s = word.length) :
    camelWords (word ++ rest) = word :: camelWords rest := by
  cases word with
  | nil => exact absurd rfl hword
  | cons d word =>
    obtain ⟨rfl, htail⟩ := List.cons.inj h
    rw [List.append_eq] at htail
    subst htail
    rw [List.cons_append, camelWords, hlength, List.length_cons, Nat.add_sub_cancel, List.take_left, List.drop_left]

/-- Each turn takes off what `SplitsInto` tells. -/
theorem splitsInto_camelWords (s : Text) : SplitsInto s (camelWords s) := by
  induction hn : s.length using Nat.strong_induction_on generalizing s with
  | h n ih =>
    subst hn
    cases s with
    | nil =>
      rw [camelWords]
      exact .done
    | cons c s =>
      by_cases hwhole : ∃ word ∈ wholeWords, word <+: c :: s
      · obtain ⟨word, hword, hprefix⟩ := hwhole
        obtain ⟨rest, hrest⟩ := id hprefix
        have hne := ne_nil_of_mem_wholeWords hword
        have hlt : rest.length < (c :: s).length := by
          rw [← hrest, List.length_append]
          have hpos := List.length_pos_of_ne_nil hne
          omega
        rw [← hrest, camelWords_append hne hrest (wordLength_of_isPrefix hword hprefix)]
        exact .whole hword (ih _ hlt rest rfl)
      · have hnone : ∀ word ∈ wholeWords, ¬ word <+: c :: s := fun word hword h => hwhole ⟨word, hword, h⟩
        obtain ⟨t, rest, rfl, ht, hrest⟩ := exists_upToCapital s
        have hlt : rest.length < (c :: (t ++ rest)).length := by
          rw [List.length_cons, List.length_append]
          omega
        have hturn := camelWords_append (List.cons_ne_nil c t) rfl (wordLength_of_none hnone ht hrest)
        rw [List.cons_append] at hturn
        rw [hturn]
        exact .plain hnone ht hrest (ih _ hlt rest rfl)

/-! ### What the turns give -/

/-- No whole word begins inside a piece in which no character behind the first begins one. -/
theorem exists_append_of_append_eq {piece before after : Text} (hpiece : piece ++ s = before ++ (word ++ after))
    (hword : word ≠ []) (hbefore : before ≠ []) (hinside : ∀ c ∈ piece.tail, c ∉ word.head?) :
    ∃ between, before = piece ++ between ∧ s = between ++ (word ++ after) := by
  rcases List.append_eq_append_iff.1 hpiece with hbehind | ⟨inside, hinner, htail⟩
  · exact hbehind
  · cases inside with
    | nil => exact ⟨[], by simpa using hinner.symm, by simpa using htail.symm⟩
    | cons d inside =>
      -- the word would begin with the character `d` of the piece
      obtain ⟨c, before, rfl⟩ := List.exists_cons_of_ne_nil hbefore
      have hd : d ∈ piece.tail := by simp [hinner]
      have hhead : d ∈ word.head? := by
        have hfirst : (word ++ after).head? = word.head? := List.head?_append_of_ne_nil word hword
        rw [← hfirst, htail]
        rfl
      exact absurd hhead (hinside d hd)

namespace SplitsInto

theorem cutsInto (h : SplitsInto s words) : CutsInto s words := by
  induction h with
  | done => exact .done
  | @whole word s words hword _ ih =>
    have hsize : wordSize (word ++ s) = Text.size word := wordSize_of_isPrefix hword (List.prefix_append word s)
    refine .cut (List.append_ne_nil_of_left_ne_nil (ne_nil_of_mem_wholeWords hword) s) ?_ ?_ ih
    · rw [hsize, Text.takeBytes?_size_append]
    · rw [hsize, Text.dropBytes?_size_append]
  | @plain c t s words hnone ht hs _ ih =>
    have hsize := wordSize_of_none hnone ht hs
    refine .cut (List.cons_ne_nil c _) ?_ ?_ ih
    · rw [hsize]
      exact Text.takeBytes?_size_append (c :: t) s
    · rw [hsize]
      exact Text.dropBytes?_size_append (c :: t) s

theorem flatten (h : SplitsInto s words) : words.flatten = s := by
  induction h with
  | done => rfl
  | whole _ _ ih => rw [List.flatten_cons, ih]
  | plain _ _ _ _ ih => rw [List.flatten_cons, ih, List.cons_append]

theorem ne_nil (h : SplitsInto s words) : ∀ word ∈ words, word ≠ [] := by
  induction h with
  | done => exact fun word hword => absurd hword List.not_mem_nil
  | whole hword _ ih => exact List.forall_mem_cons.2 ⟨ne_nil_of_mem_wholeWords hword, ih⟩
  | plain _ _ _ _ ih => exact List.forall_mem_cons.2 ⟨List.cons_ne_nil _ _, ih⟩

theorem capital (h : SplitsInto s words) :
    ∀ word ∈ words, word ∉ wholeWords → ∀ c ∈ word.tail, Text.isUppercase c = false := by
  induction h with
  | done => exact fun word hword => absurd hword List.not_mem_nil
  | whole hword _ ih => exact List.forall_mem_cons.2 ⟨fun hnot => absurd hword hnot, ih⟩
  | plain _ ht _ _ ih => exact List.forall_mem_cons.2 ⟨fun _ => ht, ih⟩

/-- The first word begins where the text begins. -/
theorem head?_eq (h : SplitsInto s words) : ∀ word ∈ words.head?, word.head? = s.head? := by
  intro word hword
  obtain ⟨later, rfl⟩ := List.head?_eq_some_iff.1 hword
  have hne := h.ne_nil word List.mem_cons_self
  rw [← h.flatten, List.flatten_cons, List.head?_append_of_ne_nil _ hne]

theorem next (h : SplitsInto s words) :
    words.IsChain fun word next => word ∈ wholeWords ∨ ∃ c ∈ next.head?, Text.isUppercase c = true := by
  induction h with
  | done => exact .nil
  | whole hword _ ih => exact List.isChain_cons.2 ⟨fun _ _ => .inl hword, ih⟩
  | @plain c t s words _ _ hs h ih =>
    refine List.isChain_cons.2 ⟨fun word hword => .inr ?_, ih⟩
    cases word with
    | nil => exact absurd rfl (h.ne_nil [] (List.mem_of_mem_head? hword))
    | cons d word => exact ⟨d, rfl, hs d (h.head?_eq _ hword).symm⟩

theorem exists_whole (h : SplitsInto s words) :
    ∀ word ∈ wholeWords, ∀ before after, s = before ++ word ++ after →
      ∃ earlier later, words = earlier ++ word :: later ∧ earlier.flatten = before ∧ later.flatten = after := by
  intro word hword before after heq
  have hne := ne_nil_of_mem_wholeWords hword
  rw [List.append_assoc] at heq
  induction h generalizing before with
  | done =>
    have hnil := List.append_eq_nil_iff.1 (List.append_eq_nil_iff.1 heq.symm).2
    exact absurd hnil.1 hne
  | @whole word' s words hword' h ih =>
    by_cases hbefore : before = []
    · subst hbefore
      obtain rfl : word = word' := eq_of_isPrefix hword hword' ⟨after, heq.symm⟩ (List.prefix_append word' s)
      exact ⟨[], words, rfl, rfl, h.flatten.trans (List.append_cancel_left heq)⟩
    · obtain ⟨between, rfl, hbetween⟩ := exists_append_of_append_eq heq hne hbefore
        fun c hc => notMem_head?_of_mem_tail hword' hc hword
      obtain ⟨earlier, later, rfl, hearlier, hlater⟩ := ih between hbetween
      exact ⟨word' :: earlier, later, rfl, by rw [List.flatten_cons, hearlier], hlater⟩
  | @plain c t s words hnone ht hs h ih =>
    by_cases hbefore : before = []
    · subst hbefore
      exact absurd ⟨after, heq.symm⟩ (hnone word hword)
    · have hinside : ∀ d ∈ t, d ∉ word.head? := by
        intro d hd hhead
        have hupper := isUppercase_of_mem_head? hword hhead
        rw [ht d hd] at hupper
        cases hupper
      have hpiece : (c :: t) ++ s = before ++ (word ++ after) := heq
      obtain ⟨between, rfl, hbetween⟩ := exists_append_of_append_eq hpiece hne hbefore hinside
      obtain ⟨earlier, later, rfl, hearlier, hlater⟩ := ih between hbetween
      exact ⟨(c :: t) :: earlier, later, rfl, by rw [List.flatten_cons, hearlier], hlater⟩

theorem isCamelSplit (h : SplitsInto s words) : IsCamelSplit s words where
  flatten := h.flatten
  ne_nil := h.ne_nil
  capital := h.capital
  next := h.next
  whole := h.exists_whole

theorem camelWords_eq (h : SplitsInto s words) : camelWords s = words := by
  induction h with
  | done => rw [camelWords]
  | @whole word s words hword _ ih =>
    obtain ⟨c, w, rfl⟩ := List.exists_cons_of_ne_nil (ne_nil_of_mem_wholeWords hword)
    have hlength := wordLength_of_isPrefix hword (List.prefix_append (c :: w) s)
    rw [camelWords_append (List.cons_ne_nil c w) rfl hlength, ih]
  | @plain c t s words hnone ht hs _ ih =>
    have hturn := camelWords_append (List.cons_ne_nil c t) rfl (wordLength_of_none hnone ht hs)
    rw [← List.cons_append, hturn, ih]

end SplitsInto

namespace IsCamelSplit

/-- The words behind the first are those of the rest. -/
theorem tail (h : IsCamelSplit (word ++ s) (word :: words)) : IsCamelSplit s words := by
  have hne := List.forall_mem_cons.1 h.ne_nil
  refine ⟨List.append_cancel_left h.flatten, hne.2, (List.forall_mem_cons.1 h.capital).2,
    (List.isChain_cons.1 h.next).2, ?_⟩
  intro whole hwhole before after heq
  obtain ⟨earlier, later, hsplit, hearlier, hlater⟩ := h.whole whole hwhole (word ++ before) after (by simp [heq])
  cases earlier with
  | nil => exact absurd (List.append_eq_nil_iff.1 hearlier.symm).1 hne.1
  | cons first earlier =>
    obtain ⟨rfl, rfl⟩ := List.cons.inj hsplit
    exact ⟨earlier, later, rfl, List.append_cancel_left hearlier, hlater⟩

/-- A whole word that begins the text is its first word. -/
theorem eq_of_isPrefix {whole : Text} (h : IsCamelSplit s (word :: words)) (hwhole : whole ∈ wholeWords)
    (hbegins : whole <+: s) : whole = word := by
  obtain ⟨after, hafter⟩ := hbegins
  obtain ⟨earlier, later, hsplit, hearlier, -⟩ := h.whole whole hwhole [] after hafter.symm
  cases earlier with
  | nil => exact (List.cons.inj hsplit).1.symm
  | cons first earlier =>
    obtain ⟨rfl, -⟩ := List.cons.inj hsplit
    exact absurd (List.append_eq_nil_iff.1 hearlier).1 (h.ne_nil _ List.mem_cons_self)

/-- Behind a word other than a whole one stands a capital. -/
theorem isUppercase_of_mem_head? (h : IsCamelSplit (word ++ s) (word :: words)) (hword : word ∉ wholeWords)
    (hc : c ∈ s.head?) : Text.isUppercase c = true := by
  have hs : words.flatten = s := h.tail.flatten
  cases words with
  | nil =>
    rw [← hs] at hc
    cases hc
  | cons next words =>
    rcases (List.isChain_cons.1 h.next).1 next rfl with hwhole | ⟨d, hd, hupper⟩
    · exact absurd hwhole hword
    · have hnext : next ≠ [] := h.ne_nil next (List.mem_cons_of_mem _ List.mem_cons_self)
      rw [← hs, List.flatten_cons, List.head?_append_of_ne_nil next hnext] at hc
      rwa [Option.mem_unique hc hd]

/-- What is asked of the words tells them turn by turn. -/
theorem splitsInto (h : IsCamelSplit s words) : SplitsInto s words := by
  induction words generalizing s with
  | nil => exact h.flatten ▸ .done
  | cons word words ih =>
    obtain rfl := h.flatten
    rw [List.flatten_cons] at h ⊢
    by_cases hword : word ∈ wholeWords
    · exact .whole hword (ih h.tail)
    · obtain ⟨c, t, rfl⟩ := List.exists_cons_of_ne_nil (h.ne_nil word List.mem_cons_self)
      refine .plain ?_ (h.capital _ List.mem_cons_self hword) (fun d hd => h.isUppercase_of_mem_head? hword hd)
        (ih h.tail)
      intro whole hwhole hprefix
      exact hword (h.eq_of_isPrefix hwhole hprefix ▸ hwhole)

end IsCamelSplit

/-- What is asked of the words leaves no choice. -/
theorem isCamelSplit_iff : IsCamelSplit s words ↔ words = camelWords s :=
  ⟨fun h => h.splitsInto.camelWords_eq.symm, fun h => h ▸ (splitsInto_camelWords s).isCamelSplit⟩

theorem CutsInto.unique {words' : List Text} (h : CutsInto s words) (h' : CutsInto s words') : words = words' := by
  induction h generalizing words' with
  | done =>
    cases h' with
    | done => rfl
    | cut hs _ _ _ => exact absurd rfl hs
  | cut hs hword hrest _ ih =>
    cases h' with
    | done => exact absurd rfl hs
    | cut _ hword' hrest' h' =>
      obtain rfl := Option.some.inj (hword.symm.trans hword')
      obtain rfl := Option.some.inj (hrest.symm.trans hrest')
      rw [ih h']

theorem cutsInto_iff : CutsInto s words ↔ words = camelWords s :=
  ⟨fun h => h.unique (splitsInto_camelWords s).cutsInto, fun h => h ▸ (splitsInto_camelWords s).cutsInto⟩

/-- A name with an underscore behind its verb is split at its underscores.  Any other is cut into the words of camel
case, and into no others. -/
theorem parts_lossless (v : Vocabulary) (name : Text) :
    ('_' ∈ dropVerbs v name →
      Text.join "_".toList (parts v name) = dropVerbs v name ∧ ∀ word ∈ parts v name, '_' ∉ word) ∧
    ('_' ∉ dropVerbs v name → ∀ words,
      (CutsInto (dropVerbs v name) words ↔ words = parts v name) ∧
        (IsCamelSplit (dropVerbs v name) words ↔ words = parts v name)) := by
  unfold parts
  dsimp only
  constructor
  · intro hmark
    rw [if_pos (List.contains_iff_mem.2 hmark)]
    exact ⟨List.intercalate_splitOn '_', fun word hword => Text.not_mem_of_mem_splitOn hword⟩
  · intro hmark words
    rw [if_neg fun hcontains => hmark (List.contains_iff_mem.1 hcontains)]
    exact ⟨cutsInto_iff, isCamelSplit_iff⟩

example : camelWords "getNPCsÉtéID".toList = ["get", "NPC", "s", "Été", "ID"].map String.toList := by cbv

end BindingDocs.Summary
