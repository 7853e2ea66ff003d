import BindingDocs.Catalog
import BindingDocs.Example
import BindingDocs.PageName
import BindingDocs.Summary
import BindingDocs.Text.Order

/-!
# The outline of the wiki

Functions and events in the order of their names, the lists that link to their pages, and the catalog.  The
list of a scope has a line for every function of it; the catalog keeps the first function of each name.
-/

namespace BindingDocs

/-- Functions in the order of their names, those of one name in the order in which they came. -/
def sortFunctions (fs : List BoundFunction) : List BoundFunction :=
  fs.mergeSort fun f g => Text.le f.name g.name

/-- Events in the order of their names, those of one name in the order in which they came. -/
def sortEvents (es : List Event) : List Event := es.mergeSort fun e d => Text.le e.name d.name

/-- An argument in a signature: its type, if it is known, and its name. -/
def Argument.signature (a : Argument) : Text :=
  match a.type? with
  | some type => type.name ++ ' ' :: a.name
  | none => a.name

/-- The line of a function in the list of its scope. -/
def BoundFunction.signatureLine (f : BoundFunction) : Text :=
  "* [[".toList ++ f.receiver ++ f.name ++ '(' ::
    Text.join ", ".toList (f.callArguments.map Argument.signature) ++ ") # ".toList ++ f.returnName ++
    '|' :: PageName.functionLink f.scope f.name ++ "]]\n".toList

/-- The line of an event in the list of events. -/
def Event.indexLine (e : Event) : Text :=
  "* [[".toList ++ e.name ++ '|' :: PageName.eventLink e.name ++ "]]\n".toList

/-- The entry that documents a function. -/
def BoundFunction.entry (v : Vocabulary) (f : BoundFunction) : Entry :=
  ⟨f.name, Summary.sentence v f.scope f.name, f.exampleCode, f.argumentTable⟩

/-- Lists by scope, in the order in which scopes are first named. -/
abbrev ScopeLists := List (Text × Text)

namespace ScopeLists

/-- The lists with a line put at the end of the list of `scope`. -/
def append (scope line : Text) : ScopeLists → ScopeLists
  | [] => [(scope, line)]
  | (key, list) :: lists =>
    if key = scope then (key, list ++ line) :: lists else (key, list) :: append scope line lists

end ScopeLists

/-- The lists and the catalog of the wiki. -/
structure Outline where
  scopeLists : ScopeLists
  eventList : Text
  catalog : Catalog

namespace Outline

/-- The catalog with a function; a function that it has already changes nothing. -/
def addEntry (v : Vocabulary) (catalog : Catalog) (f : BoundFunction) : Catalog :=
  let visited := catalog.visit f.scope
  if visited.holds f.scope f.name then visited else visited.add f.scope (f.entry v)

/-- The outline with a function, which is put on the list of its scope and into the catalog.  A function without a
scope is left out. -/
def add (v : Vocabulary) (o : Outline) (f : BoundFunction) : Outline :=
  if f.scope.isEmpty then o
  else
    { o with
      scopeLists := ScopeLists.append f.scope f.signatureLine o.scopeLists
      catalog := addEntry v o.catalog f }

/-- The outline of functions and events in their order. -/
def ofRecords (v : Vocabulary) (fs : List BoundFunction) (es : List Event) : Outline :=
  fs.foldl (add v) ⟨[], es.flatMap Event.indexLine, []⟩

end Outline

end BindingDocs
