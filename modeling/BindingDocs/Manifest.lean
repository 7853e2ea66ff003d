import BindingDocs.Catalog
import BindingDocs.Yaml.Scalar

/-!
# The manifest

The catalog as a YAML document: a list of scopes, each with its functions and the documentation of each.
-/

namespace BindingDocs.Manifest

/-- A list under a key: nothing between brackets, or the items one below the other. -/
def list {α : Type} (item : α → Text) (items : List α) : Text :=
  if items.isEmpty then " []\n".toList else '\n' :: items.flatMap item

/-- The documentation of a function. -/
def entry (e : Entry) : Text :=
  "  - name:".toList ++ Yaml.value 6 e.name ++ "    summary:".toList ++ Yaml.value 6 e.summary ++
    "    example:".toList ++ Yaml.value 6 e.code ++ "    argument:".toList ++ Yaml.value 6 e.arguments

/-- A scope with its functions. -/
def scope (s : ScopeEntries) : Text :=
  "- name:".toList ++ Yaml.value 4 s.name ++ "  functions:".toList ++ list entry s.entries

/-- The manifest of a catalog. -/
def ofCatalog (catalog : Catalog) : Text := "scopes:".toList ++ list scope catalog

end BindingDocs.Manifest
