import BindingDocs.Proofs.NameWords
import BindingDocs.Vocabulary.Known

/-!
# Sentences about functions

A sentence has a verb and the words of the rest of the name, or it is the name.  There is a third sentence, with a noun
in place of the words, for a name with a verb and without words.  Nothing is left of such a name (`parts_eq_nil_iff`),
so no noun is found in it, and the third sentence is never made (`sentence_of_any_nouns`).
-/

namespace BindingDocs.Summary

/-- The sentence with a verb and words. -/
def phrase (verb scope : Text) (words : List Text) : Text :=
  verb ++ " a ".toList ++ Text.lowercase scope ++ ' ' :: Text.join " ".toList (words.map Text.lowercase) ++ ".".toList

variable {v : Vocabulary} {scope name verb : Text}

theorem camelWords_eq_nil_iff {s : Text} : camelWords s = [] ↔ s = [] := by
  constructor
  · intro h
    rw [← (splitsInto_camelWords s).flatten, h, List.flatten_nil]
  · rintro rfl
    rw [camelWords]

/-- There are no words only if nothing is left of the name. -/
theorem parts_eq_nil_iff : parts v name = [] ↔ dropVerbs v name = [] := by
  unfold parts
  dsimp only
  split
  · rename_i hmark
    refine iff_of_false (List.splitOn_ne_nil _ _) fun hrest => ?_
    rw [hrest] at hmark
    cases hmark
  · exact camelWords_eq_nil_iff

theorem noun?_of_dropVerbs_eq_nil (hnouns : ∀ p ∈ v.nouns, p.1 ≠ []) (hrest : dropVerbs v name = []) :
    noun? v name = none := by
  have hnone : v.nouns.find? (fun p => Text.includes p.1 (Text.lowercase [])) = none := by
    rw [List.find?_eq_none]
    intro p hp hincludes
    exact hnouns p hp (List.infix_nil.1 (Text.includes_iff.1 hincludes))
  unfold noun?
  rw [hrest]
  dsimp only
  rw [hnone, Option.map_none]

theorem sentence_eq_phrase (hverb : verb? v name = some verb) (hrest : dropVerbs v name ≠ []) :
    sentence v scope name = phrase verb scope (parts v name) := by
  have hwords : parts v name ≠ [] := fun hnil => hrest (parts_eq_nil_iff.1 hnil)
  rw [sentence, hverb]
  simp only [ne_eq, hwords, not_false_eq_true, ↓reduceIte, phrase, List.append_assoc]

theorem sentence_eq_name (hnouns : ∀ p ∈ v.nouns, p.1 ≠ []) (h : verb? v name = none ∨ dropVerbs v name = []) :
    sentence v scope name = name ++ ".".toList := by
  unfold sentence
  rcases h with hverb | hrest
  · rw [hverb]
  · rw [noun?_of_dropVerbs_eq_nil hnouns hrest, parts_eq_nil_iff.2 hrest]
    cases verb? v name <;> rfl

theorem sentence_cases (hnouns : ∀ p ∈ v.nouns, p.1 ≠ []) (scope name : Text) :
    (∃ verb, verb? v name = some verb ∧ dropVerbs v name ≠ [] ∧
      sentence v scope name = phrase verb scope (parts v name)) ∨
    ((verb? v name = none ∨ dropVerbs v name = []) ∧ sentence v scope name = name ++ ".".toList) := by
  by_cases hname : verb? v name = none ∨ dropVerbs v name = []
  · exact .inr ⟨hname, sentence_eq_name hnouns hname⟩
  · obtain ⟨hsome, hleft⟩ := not_or.1 hname
    obtain ⟨verb, hverb⟩ := Option.ne_none_iff_exists'.1 hsome
    exact .inl ⟨verb, hverb, hleft, sentence_eq_phrase hverb hleft⟩

theorem known_nouns_ne_nil : ∀ p ∈ Vocabulary.known.nouns, p.1 ≠ [] := by decide

/-- Whatever the nouns are, as long as their keys are not empty, the sentence has the verb and the words if the name has
a verb and something behind it, and is the name otherwise. -/
theorem sentence_of_any_nouns (v : Vocabulary) (nouns : List (Text × Text)) (scope name : Text)
    (hnouns : ∀ p ∈ v.nouns, p.1 ≠ []) (hnouns' : ∀ p ∈ nouns, p.1 ≠ []) :
    sentence { v with nouns := nouns } scope name = sentence v scope name ∧
      (∀ verb, verb? v name = some verb → dropVerbs v name ≠ [] →
        sentence v scope name = phrase verb scope (parts v name)) ∧
      (verb? v name = none ∨ dropVerbs v name = [] → sentence v scope name = name ++ ".".toList) ∧
      ¬ (parts v name = [] ∧ ∃ noun, noun? v name = some noun) := by
  refine ⟨?_, fun verb hverb hrest => sentence_eq_phrase hverb hrest, sentence_eq_name hnouns, ?_⟩
  · have hverb : verb? { v with nouns := nouns } name = verb? v name := rfl
    have hrest : dropVerbs { v with nouns := nouns } name = dropVerbs v name := rfl
    have hparts : parts { v with nouns := nouns } name = parts v name := rfl
    rcases sentence_cases hnouns scope name with ⟨verb, hfound, hleft, hsentence⟩ | ⟨hname, hsentence⟩
    · rw [hsentence, sentence_eq_phrase (hverb.trans hfound) (hrest ▸ hleft), hparts]
    · rw [hsentence, sentence_eq_name hnouns' (by rwa [hverb, hrest])]
  · rintro ⟨hnil, noun, hnoun⟩
    rw [noun?_of_dropVerbs_eq_nil hnouns (parts_eq_nil_iff.1 hnil)] at hnoun
    cases hnoun

/-- A name with a verb, words and a noun, and other nouns that are found in it too. -/
theorem sentence_of_any_nouns_task_id :
    let nouns := [("kid".toList, "child".toList), ("id".toList, "number".toList)]
    let name := "GetTaskID".toList
    let scope := "Mob".toList
    (∀ p ∈ Vocabulary.known.nouns, p.1 ≠ []) ∧ (∀ p ∈ nouns, p.1 ≠ []) ∧
      sentence { Vocabulary.known with nouns := nouns } scope name = sentence .known scope name ∧
      (∀ verb, verb? .known name = some verb → dropVerbs .known name ≠ [] →
        sentence .known scope name = phrase verb scope (parts .known name)) ∧
      (verb? .known name = none ∨ dropVerbs .known name = [] → sentence .known scope name = name ++ ".".toList) ∧
      ¬ (parts .known name = [] ∧ ∃ noun, noun? .known name = some noun) := by
  intro nouns name scope
  have hnouns : ∀ p ∈ nouns, p.1 ≠ [] := by decide
  exact ⟨known_nouns_ne_nil, hnouns, sentence_of_any_nouns .known nouns scope name known_nouns_ne_nil hnouns⟩

end BindingDocs.Summary
