import BindingDocs.Catalog
import BindingDocs.Outline

/-!
# Pages

A page is a file name and a body.  Every page ends with a footer that tells when it was generated, and nothing
else on it depends on the time.
-/

namespace BindingDocs

/-- A page of the wiki. -/
structure Page where
  name : Text
  body : Text
  deriving DecidableEq, Repr

namespace Page

/-- The end of every page. -/
def footer (time : Text) : Text := "\n\nGenerated On ".toList ++ time

/-- A list followed by the footer. -/
def ofList (list time : Text) : Text := list ++ footer time

/-- What the page of a function says. -/
def functionText (e : Entry) : Text :=
  e.summary ++ '\n' ::
    (if e.arguments = [] then [] else "### Arguments\n".toList ++ e.arguments ++ "\n".toList) ++
    "### Example\n".toList ++ e.code ++ "\n".toList

/-- The body of the page of a function. -/
def ofEntry (e : Entry) (time : Text) : Text := functionText e ++ footer time

/-- The type of an exported variable as its page shows it; an unknown one is shown as an integer. -/
def exportType (x : Export) : Text := (x.type?.getD .int).name

/-- The row of an exported variable. -/
def exportRow (x : Export) : Text := x.name ++ '|' :: exportType x ++ "|\n".toList

/-- The line of a handler that says an exported variable. -/
def sayLine (x : Export) : Text :=
  "\tquest::say($".toList ++ x.name ++ "); # returns ".toList ++ exportType x ++ "\n".toList

/-- The exported variables that have a name. -/
def namedExports (e : Event) : List Export := e.exports.filter fun x => !x.name.isEmpty

/-- The table of the exported variables; nothing if there are none. -/
def exportTable (e : Event) : Text :=
  if e.exports = [] then []
  else
    "### Exports\n**Name**|**Type**|**Description**\n:-----|:-----|:-----\n".toList ++
      (namedExports e).flatMap exportRow

/-- What the page of an event says. -/
def eventText (e : Event) : Text :=
  e.name ++ '\n' :: exportTable e ++ "### Example\n```perl\nsub ".toList ++ e.name ++ " \x7b\n".toList ++
    (namedExports e).flatMap sayLine ++ "\x7d\n```".toList

/-- The body of the page of an event. -/
def ofEvent (e : Event) (time : Text) : Text := eventText e ++ footer time

end Page

namespace Outline

/-- The page that lists the events, if there are any. -/
def indexPages (o : Outline) (time : Text) : List Page :=
  if o.eventList = [] then [] else [⟨PageName.eventIndex, Page.ofList o.eventList time⟩]

/-- The pages of the events. -/
def eventPages (es : List Event) (time : Text) : List Page :=
  es.map fun e => ⟨PageName.eventPage e.name, Page.ofEvent e time⟩

/-- The pages that list the functions of a scope.  A list that belongs to no scope has no page. -/
def scopePages (o : Outline) (time : Text) : List Page :=
  (o.scopeLists.filter fun p => !p.1.isEmpty).map fun p => ⟨PageName.scopePage p.1, Page.ofList p.2 time⟩

/-- The pages of the functions of a scope. -/
def entryPages (s : ScopeEntries) (time : Text) : List Page :=
  s.entries.map fun e => ⟨PageName.functionPage s.name e.name, Page.ofEntry e time⟩

/-- The pages of all functions. -/
def functionPages (o : Outline) (time : Text) : List Page := o.catalog.flatMap fun s => entryPages s time

end Outline

end BindingDocs
