import BindingDocs.ValueType

/-!
# Vocabulary

What is known beforehand: the calls that return a value, the verbs and nouns of summaries, and the types of
arguments and exported variables with well-known names.
-/

namespace BindingDocs

/-- The tables that reading and describing functions consult. -/
structure Vocabulary where
  /-- Calls that return a value, in order of preference. -/
  returnMarkers : List (Text × ValueType)
  /-- Stems that a function name may begin with, and the verb of each. -/
  verbs : List (Text × Text)
  /-- Keys that may occur in a function name after its verb, and the noun of each. -/
  nouns : List (Text × Text)
  argumentTypes : List (Text × ValueType)
  eventTypes : List (Text × ValueType)

namespace Vocabulary

/-- The value of the last pair with this key. -/
def latest? {α : Type} (table : List (Text × α)) (key : Text) : Option α := table.reverse.lookup key

/-- The return type that a line shows: the first marker that occurs in it decides. -/
def returnType? (v : Vocabulary) (line : Text) : Option ValueType :=
  (v.returnMarkers.find? fun marker => Text.includes marker.1 line).map Prod.snd

/-- The type of the arguments with this name. -/
def argumentType? (v : Vocabulary) (name : Text) : Option ValueType := latest? v.argumentTypes name

/-- The type of the exported variables with this name. -/
def eventType? (v : Vocabulary) (name : Text) : Option ValueType := latest? v.eventTypes name

end Vocabulary

end BindingDocs
