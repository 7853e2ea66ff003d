import BindingDocs.CommandLine
import BindingDocs.Log.Filter

/-!
# The program

Reads the command line, runs, and says how it went: with exit code 0, or with code 1 and the error, or with
code 2 where the arguments cannot be used.
-/

namespace BindingDocs.Program

/-- How the program ends. -/
structure Outcome where
  code : Nat
  /-- Lines for standard output, besides the log. -/
  output : List Text
  /-- The text for standard error. -/
  errors : Text
  deriving DecidableEq, Repr

/-- A cause in a list of causes.  Further lines of it are indented. -/
def cause (number : Nat) (text : Text) : Text :=
  "    ".toList ++ Text.ofNat number ++ ": ".toList ++ Text.join "\n       ".toList (text.splitOn '\n') ++
    "\n".toList

/-- An error and its causes. -/
def report : List Text → Text
  | [] => []
  | error :: causes =>
    "Error: ".toList ++ error ++ "\n\nCaused by:\n".toList ++
      (causes.zipIdx.flatMap fun p => cause p.2 p.1)

/-- What the user reads who gave arguments that cannot be used. -/
def usageReport (e : CommandLine.UsageError) : Text :=
  e.wording Terminal.plainInStream ++
    "\n\nUsage: perldoc [OPTIONS]\n\nFor more information, try '--help'.\n".toList

variable {m : Type → Type} [Monad m]

/-- The program, given its arguments, the log filter from its environment, and the time. -/
def execute (w : World m) (args : List Text) (filter? : Option Text) (now : Text) : m Outcome := do
  match CommandLine.read args with
  | .error .helpWanted => pure ⟨0, CommandLine.help, []⟩
  | .error e => pure ⟨2, [], usageReport e⟩
  | .ok options =>
    let filter := Log.Filter.choose options.verbose filter?
    match ← Run.run (w.keeping (Log.Filter.shows filter)) (options.settings now) with
    | .ok () => pure ⟨0, [], []⟩
    | .error e => pure ⟨1, [], report e.chain⟩

end BindingDocs.Program
