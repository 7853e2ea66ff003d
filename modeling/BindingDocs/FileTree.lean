import BindingDocs.Pathname

/-!
# File trees

A file tree knows for each place whether a file or a directory is there.  Reading and writing files and making
directories follow the rules of POSIX: a path name is walked name by name, every directory on the way must be
there, and the first obstacle is the error.
-/

namespace BindingDocs

/-- Why a file or a directory cannot be used. -/
inductive FileError where
  | notFound
  | alreadyExists
  | notDirectory
  | isDirectory
  | nameTooLong
  | nulInName
  /-- Any other obstacle, with the system's number and text for it. -/
  | other (code : Nat) (text : Text)
  deriving DecidableEq, Repr

namespace FileError

/-- The system's text for an error and its number. -/
def numbered (text : String) (code : Nat) : Text :=
  text.toList ++ " (os error ".toList ++ Text.ofNat code ++ ")".toList

/-- The text of an error. -/
def message : FileError → Text
  | notFound => numbered "No such file or directory" 2
  | alreadyExists => numbered "File exists" 17
  | notDirectory => numbered "Not a directory" 20
  | isDirectory => numbered "Is a directory" 21
  | nameTooLong => numbered "File name too long" 36
  | nulInName => "file name contained an unexpected NUL byte".toList
  | other code text => text ++ " (os error ".toList ++ Text.ofNat code ++ ")".toList

end FileError

/-- A place in a file tree: the names that lead to it from the root. -/
abbrev Place := List Text

/-- What is at a place. -/
inductive Node where
  | file (content : Bytes)
  | directory
  deriving DecidableEq, Repr

/-- The files and directories below the root, which is a directory itself. -/
abbrev FileTree := List (Place × Node)

namespace FileTree

/-- What is at a place. -/
def get? (t : FileTree) (p : Place) : Option Node := if p = [] then some .directory else t.lookup p

/-- The tree with a node put at a place. -/
def set (p : Place) (n : Node) : FileTree → FileTree
  | [] => [(p, n)]
  | (q, m) :: t => if q = p then (q, n) :: t else (q, m) :: set p n t

/-- The greatest size of a name. -/
def nameLimit : Nat := 255

/-- The size that a path name must stay below. -/
def pathLimit : Nat := 4096

/-- Goes from the place `p`, which must be a directory, to `name` in it, which need not be there. -/
def enter (t : FileTree) (p : Place) (name : Text) : Except FileError Place :=
  match t.get? p with
  | none => .error .notFound
  | some (.file _) => .error .notDirectory
  | some .directory =>
    if name = Pathname.here then .ok p
    else if name = Pathname.above then .ok p.dropLast
    else if Pathname.size name > nameLimit then .error .nameTooLong
    else .ok (p ++ [name])

/-- Goes through one name after the other. -/
def walk (t : FileTree) (p : Place) (names : List Text) : Except FileError Place := names.foldlM (t.enter) p

/-- Where a path name starts, seen from the directory `cwd`. -/
def origin (cwd : Place) (path : Text) : Place := if Pathname.isAbsolute path then [] else cwd

/-- The place to which the names of a path name lead. -/
def locateNames (t : FileTree) (cwd : Place) (path : Text) (names : List Text) : Except FileError Place :=
  if path.contains '\x00' then .error .nulInName
  else if path = [] then .error .notFound
  else if Pathname.size path ≥ pathLimit then .error .nameTooLong
  else t.walk (origin cwd path) names

/-- The place that a path name means. -/
def locate (t : FileTree) (cwd : Place) (path : Text) : Except FileError Place :=
  t.locateNames cwd path (Pathname.names path)

/-- The directory in which the last name of a path name is. -/
def locateParent (t : FileTree) (cwd : Place) (path : Text) : Except FileError Place :=
  t.locateNames cwd path ((Pathname.names path).dropLast ++ [Pathname.here])

/-- Does a path name say by itself that it means a directory? -/
def meansDirectory (path : Text) : Bool :=
  Pathname.endsWithSlash path ||
    (Pathname.names path).getLast?.any fun name => name == Pathname.here || name == Pathname.above

/-- The content of a file. -/
def read (t : FileTree) (cwd : Place) (path : Text) : Except FileError Bytes :=
  match t.locate cwd path with
  | .error e => .error e
  | .ok p =>
    match t.get? p with
    | none => .error .notFound
    | some .directory => .error .isDirectory
    | some (.file content) => if meansDirectory path then .error .notDirectory else .ok content

/-- The tree with the content of a file replaced, or with a new file.  The last name is not looked at if the
path name means a directory by itself. -/
def write (t : FileTree) (cwd : Place) (path : Text) (content : Bytes) : Except FileError FileTree :=
  if meansDirectory path then
    match t.locateParent cwd path with
    | .error e => .error e
    | .ok _ => .error .isDirectory
  else
    match t.locate cwd path with
    | .error e => .error e
    | .ok p => if t.get? p = some .directory then .error .isDirectory else .ok (t.set p (.file content))

/-- The tree with a new directory at the end of the names. -/
def makeDirectory (t : FileTree) (start : Place) (names : List Text) : Except FileError FileTree :=
  match t.walk start names with
  | .error e => .error e
  | .ok p => if (t.get? p).isSome then .error .alreadyExists else .ok (t.set p .directory)

/-- Do the names lead to a directory? -/
def leadsToDirectory (t : FileTree) (start : Place) (names : List Text) : Bool :=
  match t.walk start names with
  | .error _ => false
  | .ok p => t.get? p = some .directory

/-- Makes a directory at the end of the names; if the way to it is missing, `outer` makes the way, and then
the directory is tried once more.  A directory that is there already is fine. -/
def makeDirectoryAfter (t : FileTree) (start : Place) (names : List Text)
    (outer : FileTree → FileTree × Option FileError) : FileTree × Option FileError :=
  let settle (t : FileTree) (e : FileError) : FileTree × Option FileError :=
    (t, if t.leadsToDirectory start names then none else some e)
  match t.makeDirectory start names with
  | .ok made => (made, none)
  | .error .notFound =>
    match outer t with
    | (t, some e) => (t, some e)
    | (t, none) =>
      match t.makeDirectory start names with
      | .ok made => (made, none)
      | .error e => settle t e
  | .error e => settle t e

/-- Makes a directory and all those on the way to it; the names are given last one first. -/
def makeWay (start : Place) : List Text → FileTree → FileTree × Option FileError
  | [], t => (t, none)
  | name :: outer, t => t.makeDirectoryAfter start (name :: outer).reverse (makeWay start outer)

/-- Makes the directory that a path name means, and all those on the way to it.  What has been made stays,
also if there is an error later on. -/
def makeDirectories (t : FileTree) (cwd : Place) (path : Text) : FileTree × Option FileError :=
  if path = [] then (t, none)
  else if path.contains '\x00' then (t, some .nulInName)
  else if Pathname.size path ≥ pathLimit then (t, some .nameTooLong)
  else
    let start := origin cwd path
    t.makeDirectoryAfter start (Pathname.names path) (makeWay start (Pathname.steps path).dropLast.reverse)

end FileTree

end BindingDocs
