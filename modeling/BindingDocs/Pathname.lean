import BindingDocs.Text.Utf8

/-!
# Path names

A path name is a text of names with slashes between them.  It counts from the root of the file tree if it
begins with a slash, else from the current directory.
-/

namespace BindingDocs.Pathname

/-- Does the path name count from the root? -/
def isAbsolute (path : Text) : Bool := path.head? == some '/'

/-- Does the path name end with a slash? -/
def endsWithSlash (path : Text) : Bool := path.getLast? == some '/'

/-- `path` as seen from the directory `base`. -/
def join (base path : Text) : Text :=
  if isAbsolute path || base.isEmpty then path
  else if endsWithSlash base then base ++ path
  else base ++ '/' :: path

/-- The names in a path name, in order. -/
def names (path : Text) : List Text := (path.splitOn '/').filter fun name => !name.isEmpty

/-- The directory itself. -/
def here : Text := ".".toList

/-- The directory above. -/
def above : Text := "..".toList

/-- The names without those that stay where they are; a path name that begins with one keeps it. -/
def steps (path : Text) : List Text :=
  match names path with
  | [] => []
  | name :: rest =>
    (if isAbsolute path && name == here then [] else [name]) ++ rest.filter fun name => name != here

/-- The number of bytes of a path name, or of a name in it. -/
def size (name : Text) : Nat := name.toBytes.length

end BindingDocs.Pathname
