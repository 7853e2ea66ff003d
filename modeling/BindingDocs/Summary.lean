import BindingDocs.Text.Case
import BindingDocs.Vocabulary

/-!
# Summaries

A sentence about a function, made from its name: the verb that the name begins with, the scope, and the
words of the rest of the name.  `GetNPCTypeID` of the scope `Mob` is summarized as `gets a mob npc type id.`
-/

namespace BindingDocs.Summary

/-- The verb of the first stem that the name begins with in lower case. -/
def verb? (v : Vocabulary) (name : Text) : Option Text :=
  (v.verbs.find? fun p => p.1.isPrefixOf (Text.lowercase name)).map Prod.snd

/-- What follows a stem in a text that begins with it, where the case of ASCII letters does not count. -/
def afterStem? : Text → Text → Option Text
  | [], s => some s
  | _ :: _, [] => none
  | a :: stem, c :: s => if a.toLower = c.toLower then afterStem? stem s else none

/-- The name without `stem` at its beginning. -/
def dropStem (name stem : Text) : Text := (afterStem? stem name).getD name

/-- The name without its verb: each stem of the table in turn is taken off where the name then begins with
it. -/
def dropVerbs (v : Vocabulary) (name : Text) : Text := v.verbs.foldl (fun s p => dropStem s p.1) name

/-- The noun of the first key that occurs in the name after its verb. -/
def noun? (v : Vocabulary) (name : Text) : Option Text :=
  let rest := Text.lowercase (dropVerbs v name)
  (v.nouns.find? fun p => Text.includes p.1 rest).map Prod.snd

/-- Words that stay whole although they hold several capitals. -/
def wholeWords : List Text := ["ID".toList, "MP3".toList, "NPC".toList]

/-- The characters up to the next capital. -/
def upToCapital (s : Text) : Text := s.takeWhile fun c => !Text.isUppercase c

/-- The length of the word that `c :: s` begins with: up to the next capital, or a whole word if that is
longer. -/
def wordLength (c : Char) (s : Text) : Nat :=
  wholeWords.foldl
    (fun n word => if word.isPrefixOf (c :: s) && decide (n < word.length) then word.length else n)
    (1 + (upToCapital s).length)

/-- The words of a name in camel case, taken from the left; a word is never empty, so the length of the name
bounds their number. -/
def camelWords (s : Text) : List Text :=
  match s with
  | [] => []
  | c :: s =>
    let n := wordLength c s
    (c :: s.take (n - 1)) :: camelWords (s.drop (n - 1))
termination_by s.length
decreasing_by simp only [List.length_drop, List.length_cons]; omega

/-- The words of a name after its verb: between underscores if there are any, else in camel case. -/
def parts (v : Vocabulary) (name : Text) : List Text :=
  let rest := dropVerbs v name
  if rest.contains '_' then rest.splitOn '_' else camelWords rest

/-- The sentence about the function `name` of a scope. -/
def sentence (v : Vocabulary) (scope name : Text) : Text :=
  let words := parts v name
  let subject := " a ".toList ++ Text.lowercase scope
  match verb? v name, noun? v name with
  | some verb, noun =>
    if words ≠ [] then
      verb ++ subject ++ ' ' :: Text.join " ".toList (words.map Text.lowercase) ++ ".".toList
    else
      match noun with
      | some noun => verb ++ subject ++ "'s ".toList ++ noun ++ ".".toList
      | none => name ++ ".".toList
  | none, _ => name ++ ".".toList

end BindingDocs.Summary
