import BindingDocs.Text.Basic

/-!
# The catalog

For each scope, in the order in which scopes are first named, the documentation of its functions.  A
function has one entry in its scope: callers ask `holds` before they `add`.
-/

namespace BindingDocs

/-- The documentation of one function of a scope. -/
structure Entry where
  name : Text
  summary : Text
  /-- An example of a call. -/
  code : Text
  /-- The table of the arguments, empty if the function takes none. -/
  arguments : Text
  deriving DecidableEq, Repr

/-- A scope and its entries, in the order in which they were added. -/
structure ScopeEntries where
  name : Text
  entries : List Entry
  deriving DecidableEq, Repr

/-- Scopes in the order in which they were first named. -/
abbrev Catalog := List ScopeEntries

namespace Catalog

/-- The catalog after a scope has been named. -/
def visit (catalog : Catalog) (scope : Text) : Catalog :=
  if catalog.any fun s => s.name == scope then catalog else catalog ++ [⟨scope, []⟩]

/-- The entries of a scope. -/
def entriesOf (catalog : Catalog) (scope : Text) : List Entry :=
  ((catalog.find? fun s => s.name == scope).map ScopeEntries.entries).getD []

/-- Has the scope an entry for this function? -/
def holds (catalog : Catalog) (scope name : Text) : Bool :=
  (catalog.entriesOf scope).any fun e => e.name == name

/-- The catalog with one more entry in a scope that has been named. -/
def add : Catalog → Text → Entry → Catalog
  | [], _, _ => []
  | s :: catalog, scope, entry =>
    if s.name = scope then { s with entries := s.entries ++ [entry] } :: catalog
    else s :: add catalog scope entry

end Catalog

end BindingDocs
