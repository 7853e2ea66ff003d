import BindingDocs.Text.Blank
import BindingDocs.ValueType

/-!
# Records

What the sources document: functions with their arguments, and events with the variables that they export.  A
function record first carries the name of its usage message; `ScriptName` gives it the names that scripts use.
-/

namespace BindingDocs

/-- An argument of a function.  Its type is absent until something tells it. -/
structure Argument where
  name : Text
  type? : Option ValueType
  /-- Is the argument written in brackets in the usage message? -/
  optional : Bool
  deriving DecidableEq, Repr

namespace Argument

/-- The receiver of a method call, which a caller does not pass. -/
def isReceiver (a : Argument) : Bool := Text.trim a.name == "THIS".toList

/-- The argument that stands for any further ones. -/
def isRest (a : Argument) : Bool := Text.trim a.name == "...".toList

end Argument

/-- A function that scripts can call. -/
structure BoundFunction where
  /-- What stands before the name in a call, such as `$client->`. -/
  receiver : Text
  name : Text
  scope : Text
  /-- The type of the result; none if the function returns nothing. -/
  returns : Option ValueType
  arguments : List Argument
  deriving DecidableEq, Repr

namespace BoundFunction

/-- The number of arguments, the receiver included. -/
def arity (f : BoundFunction) : Nat := f.arguments.length

/-- The return type, as pages show it. -/
def returnName (f : BoundFunction) : Text := (f.returns.map ValueType.name).getD "void".toList

/-- The arguments that a caller passes. -/
def callArguments (f : BoundFunction) : List Argument := f.arguments.filter fun a => !a.isReceiver

end BoundFunction

/-- A variable that an event gives to its handler. -/
structure Export where
  name : Text
  type? : Option ValueType
  deriving DecidableEq, Repr

/-- An event that scripts can handle. -/
structure Event where
  name : Text
  exports : List Export
  deriving DecidableEq, Repr

end BindingDocs
