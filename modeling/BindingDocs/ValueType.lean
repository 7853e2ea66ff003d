import BindingDocs.Text.Basic

/-!
# Value types

The types that documentation can give to an argument, a return value or an exported variable.
-/

namespace BindingDocs

/-- The type of a script value. -/
inductive ValueType where
  | bool
  | int
  | uint
  | long
  | unsignedLong
  | float
  | double
  | string
  deriving DecidableEq, Repr

namespace ValueType

/-- Every value type. -/
def all : List ValueType := [bool, int, uint, long, unsignedLong, float, double, string]

/-- The name of a type, as pages show it. -/
def name : ValueType → Text
  | bool => "bool".toList
  | int => "int".toList
  | uint => "uint".toList
  | long => "long".toList
  | unsignedLong => "unsigned long".toList
  | float => "float".toList
  | double => "double".toList
  | string => "string".toList

/-- The name of a type that may be unknown; an unknown one shows as nothing. -/
def nameOrEmpty (type? : Option ValueType) : Text := (type?.map name).getD []

end ValueType

end BindingDocs
