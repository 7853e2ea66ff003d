import BindingDocs.Text.Blank
import BindingDocs.Text.Case

/-!
# Titles

A title has a capital at the beginning of each word.  Letters, digits and underscores go on with a word, so
`entity_list` becomes `Entity_list`.
-/

namespace BindingDocs.Title

/-- Does a word begin after this character?  Outside ASCII only white space separates words. -/
def isSeparator (c : Char) : Bool :=
  if c.toNat < 0x80 then !(c.isAlphanum || c == '_') else isBlank c

/-- The title of a text of which the character before it, if there is one, is a separator or not. -/
def ofTextAfter : Bool → Text → Text
  | _, [] => []
  | atWordStart, c :: s => (if atWordStart then Text.upper c else [c]) ++ ofTextAfter (isSeparator c) s

/-- The text with the first character of each word in upper case. -/
def ofText (s : Text) : Text := ofTextAfter true s

/-- The title of a scope.  Three scopes have a spelling of their own. -/
def ofScope (scope : Text) : Text :=
  let key := Text.lowercase scope
  if key = "entity_list".toList then "EntityList".toList
  else if key = "hate_entry".toList then "HateEntry".toList
  else if key = "npc".toList then "NPC".toList
  else ofText scope

end BindingDocs.Title
