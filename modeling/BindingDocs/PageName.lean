import BindingDocs.Title

/-!
# Page names

The names of the pages' files, and the names by which other pages link to them.  A file name has the title
of the scope and the name of the function as it is; a link has it the other way round.
-/

namespace BindingDocs.PageName

/-- What every page name begins with. -/
def start : Text := "Perl-".toList

/-- What every file name of a page ends with. -/
def extension : Text := ".md".toList

/-- The file of the page that lists the functions of a scope. -/
def scopePage (scope : Text) : Text := start ++ Title.ofText scope ++ extension

/-- The link to the page of a function. -/
def functionLink (scope name : Text) : Text := start ++ scope ++ '-' :: Title.ofText name

/-- The file of the page of a function. -/
def functionPage (scope name : Text) : Text := start ++ Title.ofText scope ++ '-' :: name ++ extension

/-- The link to the page of an event. -/
def eventLink (name : Text) : Text := start ++ name

/-- The file of the page of an event. -/
def eventPage (name : Text) : Text := start ++ Title.ofText name ++ extension

/-- The file of the page that lists the events. -/
def eventIndex : Text := start ++ "Events".toList ++ extension

end BindingDocs.PageName
