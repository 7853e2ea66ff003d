import BindingDocs.Manifest
import BindingDocs.Page
import BindingDocs.World

/-!
# Publishing

Writes the pages of an outline into a directory, and the manifest.  A page that cannot be written is
reported and counted, and the others are written all the same.  A manifest that cannot be written ends the
work: the pages of the functions, which come after it, are not tried.
-/

namespace BindingDocs

/-- Why a run does not come to its end. -/
inductive RunError where
  | output (path : Text) (cause : FileError)
  | source (scope path : Text) (cause : FileError)
  | manifest (path : Text) (cause : FileError)
  deriving DecidableEq, Repr

namespace RunError

/-- An error in words: what could not be done, then the step that failed, then the reason.  A directory can be
opened like a file, but it cannot be read. -/
def chain : RunError → List Text
  | output path cause =>
    ["failed to prepare output".toList, "failed to make output directory ".toList ++ path, cause.message]
  | source scope path cause =>
    let step := if cause = .isDirectory then "failed to read ".toList else "failed to open ".toList
    ["failed to read ".toList ++ scope ++ " file".toList, step ++ path, cause.message]
  | manifest path cause =>
    ["failed to write wiki pages".toList, "failed to write manifest ".toList ++ path, cause.message]

end RunError

/-- How many pages were written and how many failed. -/
structure Tally where
  written : Nat
  failed : Nat
  deriving DecidableEq, Repr

namespace Publish

variable {m : Type → Type} [Monad m]

/-- The entry about a page that was written. -/
def wrote (path : Text) : Log.Entry := ⟨.debug, .writer, "wrote ".toList ++ path⟩

/-- The entry about a page that could not be written. -/
def failedToWrite (path : Text) (e : FileError) : Log.Entry :=
  ⟨.warn, .writer, "failed to write ".toList ++ path ++ ": ".toList ++ e.message⟩

/-- Writes a page into the directory. -/
def writePage (w : World m) (directory : Text) (tally : Tally) (page : Page) : m Tally := do
  let path := Pathname.join directory page.name
  match ← w.write path page.body.toBytes with
  | .ok () =>
    w.log (wrote path)
    pure { tally with written := tally.written + 1 }
  | .error e =>
    w.log (failedToWrite path e)
    pure { tally with failed := tally.failed + 1 }

/-- Writes one page after the other. -/
def writePages (w : World m) (directory : Text) : Tally → List Page → m Tally
  | tally, [] => pure tally
  | tally, page :: pages => do
    let tally ← writePage w directory tally page
    writePages w directory tally pages

/-- Writes the pages of the functions, scope by scope. -/
def writeScopes (w : World m) (directory time : Text) : Tally → List ScopeEntries → m Tally
  | tally, [] => pure tally
  | tally, scope :: scopes => do
    w.log ⟨.info, .writer, "Found ".toList ++ Text.ofNat scope.entries.length ++ " functions in ".toList ++
      scope.name⟩
    let tally ← writePages w directory tally (Outline.entryPages scope time)
    writeScopes w directory time tally scopes

/-- Writes the list of events, the pages of the events, the lists of the scopes, the manifest, and the pages
of the functions. -/
def writeAll (w : World m) (directory manifestPath time : Text) (o : Outline) (es : List Event) :
    m (Except RunError Tally) := do
  let pages := o.indexPages time ++ Outline.eventPages es time ++ o.scopePages time
  let tally ← writePages w directory ⟨0, 0⟩ pages
  match ← w.write manifestPath (Manifest.ofCatalog o.catalog).toBytes with
  | .error e => pure (.error (.manifest manifestPath e))
  | .ok () =>
    w.log ⟨.info, .writer, "Found ".toList ++ Text.ofNat o.catalog.length ++ " scopes".toList⟩
    let tally ← writeScopes w directory time tally o.catalog
    pure (.ok tally)

end Publish

end BindingDocs
