import BindingDocs.Log
import BindingDocs.Record
import BindingDocs.Text.Order

/-!
# The ledger of argument names

For each argument name, every function that has such an argument and the type that it got there.  Names
stand in the order of texts, and uses in the order of the source.  The report counts the names whose uses
all have a type.
-/

namespace BindingDocs

/-- A use of an argument name: by which function, and with which type. -/
structure ArgumentUse where
  function : Text
  type? : Option ValueType
  deriving DecidableEq, Repr

/-- Argument names in order, each with its uses. -/
abbrev UseLedger := List (Text × List ArgumentUse)

namespace UseLedger

/-- The ledger with one more use of `name`. -/
def add (name : Text) (use : ArgumentUse) : UseLedger → UseLedger
  | [] => [(name, [use])]
  | (key, uses) :: ledger =>
    if name = key then (key, uses ++ [use]) :: ledger
    else if Text.le name key then (name, [use]) :: (key, uses) :: ledger
    else (key, uses) :: add name use ledger

/-- The ledger with the arguments of a function. -/
def addFunction (ledger : UseLedger) (f : BoundFunction) : UseLedger :=
  f.arguments.foldl (fun l a => add a.name ⟨f.name, a.type?⟩ l) ledger

/-- The ledger of all functions, whether they are kept or not. -/
def ofFunctions (fs : List BoundFunction) : UseLedger := fs.foldl addFunction []

/-- Names to report on: all but the receiver. -/
def reported (ledger : UseLedger) : UseLedger := ledger.filter fun p => p.1 != "THIS".toList

/-- Is some use without a type? -/
def isUntyped (uses : List ArgumentUse) : Bool := uses.any fun u => u.type?.isNone

/-- A use as the report shows it. -/
def showUse (name : Text) (u : ArgumentUse) : Text :=
  u.function ++ '(' :: ValueType.nameOrEmpty u.type? ++ ' ' :: name ++ [')']

/-- The warning about a name with an untyped use. -/
def warning (name : Text) (uses : List ArgumentUse) : Log.Entry :=
  ⟨.warn, .report, name ++ " used by ".toList ++ Text.ofNat uses.length ++ " functions: ".toList ++
    Text.join ", ".toList (uses.map (showUse name))⟩

/-- The report on the source of a scope: a warning for each name with an untyped use, and the counts. -/
def report (scope : Text) (ledger : UseLedger) : List Log.Entry :=
  let (errors, found) := ledger.reported.partition fun p => isUntyped p.2
  ⟨.info, .report, "==========".toList ++ scope ++ "==========".toList⟩ ::
    errors.map (fun p => warning p.1 p.2) ++
    [⟨.info, .report, Text.ofNat found.length ++ " functions properly identified, ".toList ++
      Text.ofNat errors.length ++ " have errors".toList⟩]

end UseLedger

end BindingDocs
