import BindingDocs.Publish
import BindingDocs.Scan
import BindingDocs.Vocabulary.Known

/-!
# A run

Prepares the output directory, reads every source, and publishes what they document.  Nothing is published
unless every source can be read.
-/

namespace BindingDocs

/-- What a run is told. -/
structure Settings where
  /-- The directory that the sources' paths count from. -/
  root : Text
  output : Text
  manifest : Text
  /-- Are events read?  If not, the file that dispatches them is left out. -/
  events : Bool
  /-- The time that page footers show. -/
  time : Text
  deriving DecidableEq, Repr

/-- What several sources document together. -/
structure Findings where
  functions : List BoundFunction
  events : List Event

namespace Findings

/-- No source has been read. -/
def empty : Findings := ⟨[], []⟩

/-- The findings with those of one more source. -/
def add (f : Findings) (s : Scan) : Findings := ⟨f.functions ++ s.functions, f.events ++ s.events⟩

/-- Functions and events in the order of their names. -/
def sorted (f : Findings) : Findings := ⟨sortFunctions f.functions, sortEvents f.events⟩

/-- The outline of what has been found. -/
def outline (f : Findings) (v : Vocabulary) : Outline := Outline.ofRecords v f.functions f.events

end Findings

namespace Run

variable {m : Type → Type} [Monad m]

/-- The entry that counts what a source documents. -/
def counted (source : Source) (s : Scan) : Log.Entry :=
  ⟨.debug, .program, source.scope ++ ": ".toList ++ Text.ofNat s.functions.length ++ " functions, ".toList ++
    Text.ofNat s.events.length ++ " events, ".toList ++ Text.ofNat s.uses.length ++ " argument names".toList⟩

/-- Reads one source after the other; the first that cannot be read ends the reading. -/
def readSources (w : World m) (settings : Settings) :
    Findings → List Source → m (Except RunError Findings)
  | found, [] => pure (.ok found)
  | found, source :: sources => do
    let path := Pathname.join settings.root source.path
    match ← w.read path with
    | .error e => pure (.error (.source source.scope path e))
    | .ok bytes =>
      let scan := Scan.ofText .known settings.events source (Text.ofBytes bytes)
      w.logAll scan.log
      w.log (counted source scan)
      readSources w settings (found.add scan) sources

/-- Publishes what has been found. -/
def publish (w : World m) (settings : Settings) (found : Findings) : m (Except RunError Unit) := do
  w.log ⟨.info, .program, "loaded ".toList ++ Text.ofNat found.functions.length ++ " functions".toList⟩
  let sorted := found.sorted
  let outline := sorted.outline .known
  match ← Publish.writeAll w settings.output settings.manifest settings.time outline sorted.events with
  | .error e => pure (.error e)
  | .ok tally =>
    w.log ⟨.info, .program, "wrote ".toList ++ Text.ofNat tally.written ++ " pages".toList⟩
    if tally.failed > 0 then
      w.log ⟨.warn, .program, Text.ofNat tally.failed ++ " pages failed to write".toList⟩
    pure (.ok ())

/-- A run from beginning to end. -/
def run (w : World m) (settings : Settings) : m (Except RunError Unit) := do
  match ← w.makeDirectories settings.output with
  | .error e => pure (.error (.output settings.output e))
  | .ok () =>
    match ← readSources w settings .empty (Source.selected settings.events) with
    | .error e => pure (.error e)
    | .ok found => publish w settings found

end Run

end BindingDocs
