import BindingDocs.Declaration
import BindingDocs.Log
import BindingDocs.Usage

/-!
# Declared functions

A usage message opens a function; the lines after it, up to and including the line that opens the next function, tell
its return type and the types of its arguments.
-/

namespace BindingDocs

/-- A line and its number; the first line has number 1. -/
structure Line where
  number : Nat
  text : Text

/-- A function as one usage message and the lines after it declare it, and the warnings that arose. -/
structure Declared where
  function : BoundFunction
  warnings : List Log.Entry

namespace Declared

/-- The function that a usage message opens. -/
def ofUsage (v : Vocabulary) (usage : Usage) : Declared := ⟨.ofUsage v usage, []⟩

/-- The warning about a keyword that is no known type. -/
def unknownType (keyword name : Text) (number : Nat) : Log.Entry :=
  ⟨.warn, .scan, "unknown type \"".toList ++ keyword ++ "\" for ".toList ++ name ++ " on line ".toList ++
    Text.ofNat number⟩

/-- The argument in slot `i` after a line: an argument without a type takes that of its declaration. -/
def readArgument (line : Line) (a : Argument) (i : Nat) : Argument :=
  match a.type?, Declaration.keywordFor? i line.text with
  | none, some keyword => { a with type? := Declaration.typeOf? keyword line.text }
  | _, _ => a

/-- The warning to which a line gives rise for the argument in slot `i`. -/
def argumentWarning? (line : Line) (a : Argument) (i : Nat) : Option Log.Entry :=
  match a.type?, Declaration.keywordFor? i line.text with
  | none, some keyword =>
    if (Declaration.typeOf? keyword line.text).isNone then some (unknownType keyword a.name line.number)
    else none
  | _, _ => none

/-- What a line tells about a function that is open. -/
def read (v : Vocabulary) (line : Line) (d : Declared) : Declared :=
  let slots := d.function.arguments.zipIdx
  { function := { d.function with
      returns := (v.returnType? line.text).or d.function.returns
      arguments := slots.map fun p => readArgument line p.1 p.2 }
    warnings := d.warnings ++ slots.filterMap fun p => argumentWarning? line p.1 p.2 }

end Declared

end BindingDocs
