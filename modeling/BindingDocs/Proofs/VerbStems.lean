import BindingDocs.Proofs.LetterCase
import BindingDocs.Proofs.ReadingBack
import BindingDocs.Proofs.Sentences
import Mathlib.Data.List.Find

/-!
# Stems of verbs

The verb of a name is found in the full lower case of the name, and its stem is taken off the name as it is, where the
case of ASCII letters does not count.  For the stems of the table this comes to the same
(`isPrefix_lowercaseFrom_iff`): outside ASCII only two characters have letters of ASCII in their lower case, and these
letters do not stand where they could be taken for a stem.  So the verb is the one of the first stem that a name loses
(`verb?_eq_head?`).  It may lose others after it (`stem_of_verb?_taken_off`).
-/

namespace BindingDocs.Summary

variable {stem s rest : Text} {verbs taken : List (Text × Text)} {p : Text × Text}

/-! ### Stems by their bytes -/

/-- What is left of `s` behind as many bytes as the stem has, if these are characters of `s` and the stem, where the
case of ASCII letters does not count. -/
def behindBytes? (stem s : Text) : Option Text :=
  match Text.takeBytes? (Text.size stem) s, Text.dropBytes? (Text.size stem) s with
  | some start, some rest => if start.map Char.toLower = stem.map Char.toLower then some rest else none
  | _, _ => none

theorem afterStem?_eq_some_iff :
    afterStem? stem s = some rest ↔ ∃ start, s = start ++ rest ∧ start.map Char.toLower = stem.map Char.toLower := by
  induction stem generalizing s with
  | nil => simp [afterStem?, eq_comm]
  | cons a stem ih =>
    cases s with
    | nil => simp [afterStem?]
    | cons c s =>
      rw [afterStem?]
      split
      · rename_i hac
        rw [ih]
        constructor
        · rintro ⟨start, rfl, hstart⟩
          exact ⟨c :: start, rfl, by rw [List.map_cons, List.map_cons, hstart, hac]⟩
        · rintro ⟨start, hs, hstart⟩
          cases start with
          | nil => cases hstart
          | cons d start =>
            obtain ⟨rfl, rfl⟩ := List.cons.inj hs
            exact ⟨start, rfl, (List.cons.inj hstart).2⟩
      · rename_i hac
        refine iff_of_false (fun h => by cases h) ?_
        rintro ⟨start, hs, hstart⟩
        cases start with
        | nil => cases hstart
        | cons d start =>
          obtain ⟨rfl, rfl⟩ := List.cons.inj hs
          exact hac (List.cons.inj hstart).1.symm

theorem utf8Size_toLower (c : Char) : c.toLower.utf8Size = c.utf8Size := by
  by_cases hc : c.toNat < 0x80
  · exact Text.forall_ascii (P := fun c => c.toLower.utf8Size = c.utf8Size) (by decide +kernel) hc
  · rw [Text.toLower_of_not_ascii (Nat.not_lt.1 hc)]

/-- The case of ASCII letters does not change the number of bytes. -/
theorem size_map_toLower (s : Text) : Text.size (s.map Char.toLower) = Text.size s := by
  induction s with
  | nil => rfl
  | cons c s ih => rw [List.map_cons, Text.size_cons, Text.size_cons, utf8Size_toLower, ih]

/-- The stem is taken off at the same place whether bytes or characters are counted. -/
theorem behindBytes?_eq_afterStem? (stem s : Text) : behindBytes? stem s = afterStem? stem s := by
  unfold behindBytes?
  cases hafter : afterStem? stem s with
  | some rest =>
    obtain ⟨start, rfl, hstart⟩ := afterStem?_eq_some_iff.1 hafter
    have hsize : Text.size stem = Text.size start := by rw [← size_map_toLower start, hstart, size_map_toLower]
    rw [hsize, Text.takeBytes?_size_append, Text.dropBytes?_size_append]
    exact if_pos hstart
  | none =>
    split
    · rename_i start rest htake hdrop
      obtain ⟨rest', rfl, -⟩ := Text.exists_of_takeBytes?_eq_some htake
      rw [if_neg]
      intro hstart
      rw [afterStem?_eq_some_iff.2 ⟨start, rfl, hstart⟩] at hafter
      cases hafter
    · rfl

/-! ### The stems that a name loses -/

/-- The pairs of the table whose stems a text loses, in order. -/
def takenOff : List (Text × Text) → Text → List (Text × Text)
  | [], _ => []
  | p :: verbs, s =>
    match behindBytes? p.1 s with
    | some rest => p :: takenOff verbs rest
    | none => takenOff verbs s

theorem takenOff_cons_of_some (verbs : List (Text × Text)) (h : afterStem? p.1 s = some rest) :
    takenOff (p :: verbs) s = p :: takenOff verbs rest ∧ dropStem s p.1 = rest := by
  rw [takenOff, behindBytes?_eq_afterStem?, dropStem, h]
  exact ⟨rfl, rfl⟩

theorem takenOff_cons_of_none (verbs : List (Text × Text)) (h : afterStem? p.1 s = none) :
    takenOff (p :: verbs) s = takenOff verbs s ∧ dropStem s p.1 = s := by
  rw [takenOff, behindBytes?_eq_afterStem?, dropStem, h]
  exact ⟨rfl, rfl⟩

theorem takenOff_sublist (verbs : List (Text × Text)) (s : Text) : (takenOff verbs s).Sublist verbs := by
  induction verbs generalizing s with
  | nil => exact List.Sublist.refl []
  | cons p verbs ih =>
    cases hp : afterStem? p.1 s with
    | some rest => rw [(takenOff_cons_of_some verbs hp).1]; exact (ih rest).cons_cons p
    | none => rw [(takenOff_cons_of_none verbs hp).1]; exact (ih s).cons p

/-- Nothing but the stems is taken off. -/
theorem exists_append_foldl_dropStem (verbs : List (Text × Text)) (s : Text) :
    ∃ start, s = start ++ verbs.foldl (fun s p => dropStem s p.1) s ∧
      start.map Char.toLower = ((takenOff verbs s).flatMap Prod.fst).map Char.toLower := by
  induction verbs generalizing s with
  | nil => exact ⟨[], rfl, rfl⟩
  | cons p verbs ih =>
    rw [List.foldl_cons]
    cases hp : afterStem? p.1 s with
    | some rest =>
      obtain ⟨hlog, hdrop⟩ := takenOff_cons_of_some verbs hp
      obtain ⟨start, rfl, hstart⟩ := afterStem?_eq_some_iff.1 hp
      obtain ⟨start', hrest, hstart'⟩ := ih rest
      refine ⟨start ++ start', ?_, ?_⟩
      · rw [hdrop, List.append_assoc, ← hrest]
      · rw [hlog, List.flatMap_cons, List.map_append, List.map_append, hstart, hstart']
    | none =>
      obtain ⟨hlog, hdrop⟩ := takenOff_cons_of_none verbs hp
      rw [hlog, hdrop]
      exact ih s

/-- The first stem that a text loses is the first of the table that it begins with. -/
theorem head?_takenOff (verbs : List (Text × Text)) (s : Text) :
    (takenOff verbs s).head? = verbs.find? fun p => (afterStem? p.1 s).isSome := by
  induction verbs with
  | nil => rfl
  | cons p verbs ih =>
    cases hp : afterStem? p.1 s with
    | some rest => rw [(takenOff_cons_of_some verbs hp).1, List.find?_cons, hp]; rfl
    | none => rw [(takenOff_cons_of_none verbs hp).1, List.find?_cons, hp]; exact ih

theorem takenOff_eq_nil_iff : takenOff verbs s = [] ↔ ∀ p ∈ verbs, afterStem? p.1 s = none := by
  rw [← List.head?_eq_none_iff, head?_takenOff, List.find?_eq_none]
  simp

/-- Behind the first stem, the stems that come later in the table are taken off. -/
theorem exists_of_takenOff_eq_cons (h : takenOff verbs s = p :: taken) :
    ∃ earlier later rest, verbs = earlier ++ p :: later ∧ (∀ q ∈ earlier, afterStem? q.1 s = none) ∧
      afterStem? p.1 s = some rest ∧ taken = takenOff later rest ∧
        verbs.foldl (fun s p => dropStem s p.1) s = later.foldl (fun s p => dropStem s p.1) rest := by
  induction verbs with
  | nil => cases h
  | cons q verbs ih =>
    rw [List.foldl_cons]
    cases hq : afterStem? q.1 s with
    | some rest =>
      obtain ⟨hlog, hdrop⟩ := takenOff_cons_of_some verbs hq
      obtain ⟨rfl, rfl⟩ := List.cons.inj (hlog.symm.trans h)
      exact ⟨[], verbs, rest, rfl, fun _ hnil => absurd hnil List.not_mem_nil, hq, rfl, by rw [hdrop]⟩
    | none =>
      obtain ⟨hlog, hdrop⟩ := takenOff_cons_of_none verbs hq
      obtain ⟨earlier, later, rest, rfl, hearlier, hrest, htaken, hleft⟩ := ih (hlog.symm.trans h)
      exact ⟨q :: earlier, later, rest, rfl, List.forall_mem_cons.2 ⟨hq, hearlier⟩, hrest, htaken, by rw [hdrop, hleft]⟩

/-- A text loses nothing exactly if it begins with no stem of the table. -/
theorem foldl_dropStem_eq_self_iff (hne : ∀ p ∈ verbs, p.1 ≠ []) :
    verbs.foldl (fun s p => dropStem s p.1) s = s ↔ takenOff verbs s = [] := by
  obtain ⟨start, hs, hstart⟩ := exists_append_foldl_dropStem verbs s
  constructor
  · intro hself
    rw [hself] at hs
    obtain rfl := List.self_eq_append_left.1 hs
    have hnil := List.flatMap_eq_nil_iff.1 (List.map_eq_nil_iff.1 hstart.symm)
    refine List.eq_nil_iff_forall_not_mem.2 fun p hp => ?_
    exact hne p ((takenOff_sublist verbs s).subset hp) (hnil p hp)
  · intro hnil
    rw [hnil] at hstart
    obtain rfl := List.map_eq_nil_iff.1 hstart
    exact hs.symm

/-! ### Stems in lower case -/

/-- A stem that is found in a text just if it is found in the full lower case of the text.  It has small letters of
ASCII; `k` is not among them, which is also the lower case of the Kelvin sign; and `i` is not the last of them, which
is also the beginning of the lower case of the dotted capital I. -/
structure IsPlainStem (stem : Text) : Prop where
  isLower : ∀ a ∈ stem, a.isLower = true
  kelvin : 'k' ∉ stem
  dotted : stem.getLast? ≠ some 'i'

namespace IsPlainStem

variable {a c : Char}

theorem tail (h : IsPlainStem (a :: stem)) : IsPlainStem stem where
  isLower := (List.forall_mem_cons.1 h.isLower).2
  kelvin := List.not_mem_of_not_mem_cons h.kelvin
  dotted := by
    intro hlast
    apply h.dotted
    rw [List.getLast?_cons, hlast, Option.getD_some]

theorem toNat_lt_of_mem (h : IsPlainStem stem) (ha : a ∈ stem) : a.toNat < 0x80 :=
  Text.toNat_lt_of_isLower (h.isLower a ha)

theorem toLower_of_mem (h : IsPlainStem stem) (ha : a ∈ stem) : a.toLower = a :=
  Text.forall_ascii (P := fun a => a.isLower = true → a.toLower = a) (by decide) (h.toNat_lt_of_mem ha)
    (h.isLower a ha)

/-- The lower case of a character outside ASCII is not taken for a stem. -/
theorem not_isPrefix_of_not_ascii (h : IsPlainStem (a :: stem)) (hc : 0x80 ≤ c.toNat) (seen s : Text) :
    ¬ a :: stem <+: Text.lowercaseFrom seen (c :: s) := by
  intro hprefix
  rcases Text.lowercaseFrom_cons_cases hc seen s with hdotted | ⟨u, hu, hascii⟩
  · rw [hdotted, List.cons_prefix_cons] at hprefix
    obtain ⟨rfl, hstem⟩ := hprefix
    cases stem with
    | nil => exact h.dotted rfl
    | cons b stem =>
      -- behind the `i` there is a dot, and no letter
      obtain rfl := (List.cons_prefix_cons.1 hstem).1
      exact absurd (h.isLower _ (List.mem_cons_of_mem _ List.mem_cons_self)) (by decide)
  · rw [hu, List.cons_prefix_cons] at hprefix
    obtain ⟨rfl, -⟩ := hprefix
    rcases hascii with hascii | rfl
    · exact absurd (h.toNat_lt_of_mem List.mem_cons_self) (Nat.not_lt.2 hascii)
    · exact h.kelvin List.mem_cons_self

theorem isPrefix_lowercaseFrom_iff (h : IsPlainStem stem) (seen s : Text) :
    stem <+: Text.lowercaseFrom seen s ↔ (afterStem? stem s).isSome = true := by
  induction stem generalizing seen s with
  | nil => simp [afterStem?]
  | cons a stem ih =>
    cases s with
    | nil => simp [afterStem?, Text.lowercaseFrom]
    | cons c s =>
      rw [afterStem?, h.toLower_of_mem List.mem_cons_self]
      by_cases hc : c.toNat < 0x80
      · rw [Text.lowercaseFrom_cons_of_ascii hc, List.cons_prefix_cons, ih h.tail]
        by_cases hac : a = c.toLower
        · simp [hac]
        · simp [hac]
      · have hc := Nat.not_lt.1 hc
        have hac : a ≠ c := by
          rintro rfl
          exact absurd (h.toNat_lt_of_mem List.mem_cons_self) (Nat.not_lt.2 hc)
        rw [Text.toLower_of_not_ascii hc, if_neg hac]
        exact iff_of_false (h.not_isPrefix_of_not_ascii hc seen s) Bool.false_ne_true

end IsPlainStem

/-- The verb of a name is that of the first stem that the name loses. -/
theorem verb?_eq_head? {v : Vocabulary} (hplain : ∀ p ∈ v.verbs, IsPlainStem p.1) (name : Text) :
    verb? v name = (takenOff v.verbs name).head?.map Prod.snd := by
  rw [head?_takenOff, verb?]
  congr 1
  refine List.find?_congr fun p hp => ?_
  rw [Bool.eq_iff_iff, List.isPrefixOf_iff_prefix]
  exact (hplain p hp).isPrefix_lowercaseFrom_iff [] name

/-- A character that is no letter of ASCII stays in the name. -/
theorem mem_dropVerbs {v : Vocabulary} {name : Text} {c : Char} (hplain : ∀ p ∈ v.verbs, IsPlainStem p.1)
    (hc : c.isAlpha = false) (h : c ∈ name) : c ∈ dropVerbs v name := by
  obtain ⟨start, hname, hstart⟩ := exists_append_foldl_dropStem v.verbs name
  rw [hname] at h
  rcases List.mem_append.1 h with h | h
  · have hmem := List.mem_map_of_mem (f := Char.toLower) h
    rw [hstart] at hmem
    obtain ⟨a, ha, hac⟩ := List.mem_map.1 hmem
    obtain ⟨p, hp, ha⟩ := List.mem_flatMap.1 ha
    have hstem := hplain p ((takenOff_sublist _ _).subset hp)
    have hsame : c.toLower = c := by
      by_cases hascii : c.toNat < 0x80
      · exact Text.forall_ascii (P := fun c => c.isAlpha = false → c.toLower = c) (by decide) hascii hc
      · exact Text.toLower_of_not_ascii (Nat.not_lt.1 hascii)
    rw [hstem.toLower_of_mem ha, hsame] at hac
    subst hac
    have halpha : a.isAlpha = true := Bool.or_eq_true_iff.2 (.inr (hstem.isLower a ha))
    rw [hc] at halpha
    cases halpha
  · exact h

/-! ### The known stems -/

theorem known_verbs_isPlainStem : ∀ p ∈ Vocabulary.known.verbs, IsPlainStem p.1 := by
  have hlower : ∀ p ∈ Vocabulary.known.verbs, ∀ a ∈ p.1, a.isLower = true := by
    simp [Vocabulary.known, Vocabulary.knownVerbs, Vocabulary.worded]
  have hkelvin : ∀ p ∈ Vocabulary.known.verbs, 'k' ∉ p.1 := by decide
  have hdotted : ∀ p ∈ Vocabulary.known.verbs, p.1.getLast? ≠ some 'i' := by decide
  exact fun p hp => ⟨hlower p hp, hkelvin p hp, hdotted p hp⟩

theorem known_verbs_ne_nil : ∀ p ∈ Vocabulary.known.verbs, p.1 ≠ [] := by decide

theorem known_verbs_space : ∀ p ∈ Vocabulary.known.verbs, ' ' ∉ p.2 := by decide

/-- A verb begins with its stem. -/
theorem known_verbs_isPrefix : ∀ p ∈ Vocabulary.known.verbs, p.1 <+: p.2 := by decide +kernel

theorem known_verbs_inj : ∀ p ∈ Vocabulary.known.verbs, ∀ q ∈ Vocabulary.known.verbs, p.2 = q.2 → p = q := by
  decide +kernel

variable {name scope verb : Text}

theorem dropVerbs_known_eq_self_iff :
    dropVerbs .known name = name ↔ takenOff Vocabulary.known.verbs name = [] :=
  foldl_dropStem_eq_self_iff known_verbs_ne_nil

theorem verb?_known_eq_none_iff : verb? .known name = none ↔ dropVerbs .known name = name := by
  rw [dropVerbs_known_eq_self_iff, verb?_eq_head? known_verbs_isPlainStem, Option.map_eq_none_iff,
    List.head?_eq_none_iff]

theorem exists_takenOff_of_verb? (h : verb? .known name = some verb) :
    ∃ stem taken, (stem, verb) ∈ Vocabulary.known.verbs ∧
      takenOff Vocabulary.known.verbs name = (stem, verb) :: taken := by
  rw [verb?_eq_head? known_verbs_isPlainStem] at h
  obtain ⟨p, hp, rfl⟩ := Option.map_eq_some_iff.1 h
  obtain ⟨taken, htaken⟩ := List.head?_eq_some_iff.1 hp
  exact ⟨p.1, taken, (takenOff_sublist _ name).subset (List.mem_of_mem_head? hp), htaken⟩

/-- What is left of a name stands behind the first stem that it loses. -/
theorem isSuffix_of_takenOff_eq_cons {v : Vocabulary} (h : takenOff v.verbs name = p :: taken) :
    ∃ rest, behindBytes? p.1 name = some rest ∧ dropVerbs v name <:+ rest := by
  obtain ⟨earlier, later, rest, -, -, hrest, -, hleft⟩ := exists_of_takenOff_eq_cons h
  obtain ⟨start, hstart, -⟩ := exists_append_foldl_dropStem later rest
  refine ⟨rest, by rw [behindBytes?_eq_afterStem?, hrest], start, ?_⟩
  rw [dropVerbs, hleft, ← hstart]

/-- A name that is its own sentence does not begin like a sentence with a verb. -/
theorem not_isPrefix_name (hname : verb? .known name = none ∨ dropVerbs .known name = [])
    (hp : p ∈ Vocabulary.known.verbs) : ¬ p.2 ++ [' '] <+: name ++ ['.'] := by
  intro hprefix
  have hbegins : p.2 ++ [' '] <+: name := by
    refine (List.prefix_concat_iff.1 hprefix).resolve_left fun heq => ?_
    have hlast := congrArg List.getLast? heq
    rw [List.getLast?_concat, List.getLast?_concat] at hlast
    exact absurd hlast (by decide)
  rcases hname with hnone | hnil
  · obtain ⟨rest, hrest⟩ := (known_verbs_isPrefix p hp).trans ((List.prefix_append p.2 [' ']).trans hbegins)
    rw [verb?_known_eq_none_iff, dropVerbs_known_eq_self_iff, takenOff_eq_nil_iff] at hnone
    have hafter : afterStem? p.1 name = some rest := afterStem?_eq_some_iff.2 ⟨p.1, hrest.symm, rfl⟩
    rw [hnone p hp] at hafter
    cases hafter
  · have hspace : ' ' ∈ name := hbegins.subset (List.mem_append_right _ List.mem_cons_self)
    have hleft := mem_dropVerbs known_verbs_isPlainStem (by decide) hspace
    rw [hnil] at hleft
    cases hleft

/-- A sentence that begins with a verb and the scope has this verb, and the words of the name behind its stem. -/
theorem verb?_of_isPrefix_sentence (hp : p ∈ Vocabulary.known.verbs)
    (h : p.2 ++ " a ".toList ++ Text.lowercase scope <+: sentence .known scope name) :
    verb? .known name = some p.2 ∧ sentence .known scope name = phrase p.2 scope (parts .known name) := by
  have hverb : p.2 ++ [' '] <+: sentence .known scope name := by
    refine List.IsPrefix.trans ⟨"a ".toList ++ Text.lowercase scope, ?_⟩ h
    simp
  rcases sentence_cases known_nouns_ne_nil scope name with ⟨verb, hfound, -, hsentence⟩ | ⟨hname, hsentence⟩
  · obtain ⟨stem, -, hmem, -⟩ := exists_takenOff_of_verb? hfound
    rw [hsentence] at hverb
    obtain ⟨tail, htail⟩ := hverb
    have hsplit : p.2 ++ ' ' :: tail = verb ++ ' ' :: ("a ".toList ++ Text.lowercase scope ++
        ' ' :: Text.join " ".toList ((parts .known name).map Text.lowercase) ++ ".".toList) := by
      rw [List.append_cons, htail]
      simp [phrase]
    obtain ⟨rfl, -⟩ := Text.append_cons_inj (known_verbs_space p hp) (known_verbs_space _ hmem) hsplit
    exact ⟨hfound, hsentence⟩
  · rw [hsentence] at hverb
    exact absurd hverb (not_isPrefix_name hname hp)

/-- A name has a verb exactly if it loses a stem, and the first stem that it loses is that of the verb.  So a sentence
that begins with a verb and the scope tells what is left behind the stem of that verb, and a name without a verb is its
own sentence. -/
theorem verb?_agrees (name : Text) :
    (∃ start, name = start ++ dropVerbs .known name ∧
      start.map Char.toLower = ((takenOff Vocabulary.known.verbs name).flatMap Prod.fst).map Char.toLower) ∧
    ((∃ verb, verb? .known name = some verb) ↔ dropVerbs .known name ≠ name) ∧
    verb? .known name = (takenOff Vocabulary.known.verbs name).head?.map Prod.snd ∧
    (∀ scope, ∀ p ∈ Vocabulary.known.verbs,
      p.2 ++ " a ".toList ++ Text.lowercase scope <+: sentence .known scope name →
        verb? .known name = some p.2 ∧
          (∃ rest, behindBytes? p.1 name = some rest ∧ dropVerbs .known name <:+ rest) ∧
          sentence .known scope name = phrase p.2 scope (parts .known name)) ∧
    (verb? .known name = none → ∀ scope, sentence .known scope name = name ++ ".".toList) := by
  refine ⟨exists_append_foldl_dropStem _ name, ?_, verb?_eq_head? known_verbs_isPlainStem name, ?_,
    fun hnone scope => sentence_eq_name known_nouns_ne_nil (.inl hnone)⟩
  · rw [ne_eq, ← verb?_known_eq_none_iff, ← ne_eq, Option.ne_none_iff_exists']
  · intro scope p hp hprefix
    obtain ⟨hfound, hsentence⟩ := verb?_of_isPrefix_sentence hp hprefix
    obtain ⟨stem, taken, hmem, htaken⟩ := exists_takenOff_of_verb? hfound
    rw [known_verbs_inj _ hmem p hp rfl] at htaken
    exact ⟨hfound, isSuffix_of_takenOff_eq_cons htaken, hsentence⟩

/-- Behind the stem of its verb a name loses the stems that come later in the table and that the rest begins with, one
after the other.  It loses no more than the stem of its verb exactly if there is none. -/
theorem stem_of_verb?_taken_off {name verb : Text} (h : verb? .known name = some verb) :
    ∃ earlier stem later rest,
      Vocabulary.known.verbs = earlier ++ (stem, verb) :: later ∧ (∀ p ∈ earlier, behindBytes? p.1 name = none) ∧
        behindBytes? stem name = some rest ∧ rest = name.drop stem.length ∧
      (∃ start, rest = start ++ dropVerbs .known name ∧
        start.map Char.toLower = ((takenOff later rest).flatMap Prod.fst).map Char.toLower) ∧
      (dropVerbs .known name = rest ↔ ∀ p ∈ later, behindBytes? p.1 rest = none) ∧
      (dropVerbs .known name = rest →
        parts .known name = parts { Vocabulary.known with verbs := [] } rest ∧
          noun? .known name = noun? { Vocabulary.known with verbs := [] } rest ∧
          ∀ scope, rest ≠ [] →
            sentence .known scope name = phrase verb scope (parts { Vocabulary.known with verbs := [] } rest)) := by
  obtain ⟨stem, taken, -, htaken⟩ := exists_takenOff_of_verb? h
  obtain ⟨earlier, later, rest, htable, hearlier, hrest, -, hleft⟩ := exists_of_takenOff_eq_cons htaken
  have hdrop : dropVerbs .known name = later.foldl (fun s p => dropStem s p.1) rest := hleft
  have hlater : ∀ p ∈ later, p.1 ≠ [] := fun p hp =>
    known_verbs_ne_nil p (htable ▸ List.mem_append_right _ (List.mem_cons_of_mem _ hp))
  refine ⟨earlier, stem, later, rest, htable, ?_, ?_, ?_, ?_, ?_, ?_⟩
  · intro p hp
    rw [behindBytes?_eq_afterStem?, hearlier p hp]
  · rw [behindBytes?_eq_afterStem?, hrest]
  · obtain ⟨start, rfl, hstart⟩ := afterStem?_eq_some_iff.1 hrest
    have hlength : start.length = stem.length := by simpa using congrArg List.length hstart
    rw [← hlength, List.drop_left]
  · rw [hdrop]
    exact exists_append_foldl_dropStem later rest
  · rw [hdrop, foldl_dropStem_eq_self_iff hlater, takenOff_eq_nil_iff]
    simp only [behindBytes?_eq_afterStem?]
  · intro hself
    have hparts : parts .known name = parts { Vocabulary.known with verbs := [] } rest := by
      unfold parts
      rw [hself]
      rfl
    have hnoun : noun? .known name = noun? { Vocabulary.known with verbs := [] } rest := by
      unfold noun?
      rw [hself]
      rfl
    refine ⟨hparts, hnoun, fun scope hne => ?_⟩
    rw [sentence_eq_phrase h (hself ▸ hne), hparts]

/-- Behind `Is` the name begins with a stem, but with none that comes later in the table. -/
theorem stem_of_verb?_taken_off_is_set_get :
    let name := "IsSetGet".toList
    let verb := "is".toList
    verb? .known name = some verb ∧
      ∃ earlier stem later rest,
        Vocabulary.known.verbs = earlier ++ (stem, verb) :: later ∧ (∀ p ∈ earlier, behindBytes? p.1 name = none) ∧
          behindBytes? stem name = some rest ∧ rest = name.drop stem.length ∧
        (∃ start, rest = start ++ dropVerbs .known name ∧
          start.map Char.toLower = ((takenOff later rest).flatMap Prod.fst).map Char.toLower) ∧
        (dropVerbs .known name = rest ↔ ∀ p ∈ later, behindBytes? p.1 rest = none) ∧
        (dropVerbs .known name = rest →
          parts .known name = parts { Vocabulary.known with verbs := [] } rest ∧
            noun? .known name = noun? { Vocabulary.known with verbs := [] } rest ∧
            ∀ scope, rest ≠ [] →
              sentence .known scope name = phrase verb scope (parts { Vocabulary.known with verbs := [] } rest)) := by
  intro name verb
  have h : verb? .known name = some verb := by decide
  exact ⟨h, stem_of_verb?_taken_off h⟩

/-- Behind the stem of its verb, `GetSetting` loses three letters more. -/
theorem exists_dropVerbs_ne_drop :
    ∃ name stem verb, (stem, verb) ∈ Vocabulary.known.verbs ∧ stem <+: Text.lowercase name ∧
      verb? .known name = some verb ∧ dropVerbs .known name ≠ name.drop stem.length ∧
      sentence .known "Client".toList name = "gets a client ting.".toList :=
  ⟨"GetSetting".toList, "get".toList, "gets".toList, by decide, by decide, by decide, by decide, by decide +kernel⟩

end BindingDocs.Summary
