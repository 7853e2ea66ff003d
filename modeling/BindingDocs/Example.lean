import BindingDocs.Record

/-!
# Examples

A call of a function in a script, with a value for each argument, and the table of the arguments.
-/

namespace BindingDocs.BoundFunction

/-- A value for an argument in an example. -/
def placeholder (type? : Option ValueType) : Text :=
  if type? = some .string then "\"test\"".toList else "1".toList

/-- The line that gives an argument a value; the rest argument gets none. -/
def assignment (a : Argument) : Text :=
  if a.isRest then []
  else "my $".toList ++ a.name ++ " = ".toList ++ placeholder a.type? ++ ";\n".toList

/-- An argument in a call. -/
def passed (a : Argument) : Text := if a.isRest then a.name else '$' :: a.name

/-- The call of a function. -/
def call (f : BoundFunction) : Text :=
  f.receiver ++ f.name ++ '(' :: Text.join ", ".toList (f.callArguments.map passed) ++ ")".toList

/-- An example of a call, as a block of code.  A result is shown by saying it. -/
def exampleCode (f : BoundFunction) : Text :=
  let assignments := f.callArguments.flatMap assignment
  let shown := " # Returns ".toList ++ f.returnName ++ "\n```".toList
  if f.returns.isNone then "\n```perl\n".toList ++ assignments ++ '\n' :: f.call ++ ";".toList ++ shown
  else
    "\n```perl\n".toList ++ assignments ++ "my $val = ".toList ++ f.call ++
      ";\nquest::say($val);".toList ++ shown

/-- The row of an argument. -/
def argumentRow (a : Argument) : Text :=
  a.name ++ '|' :: ValueType.nameOrEmpty a.type? ++ '|' :: (if a.optional then "optional".toList else []) ++
    "\n".toList

/-- The head of the table of arguments. -/
def argumentHead : Text := "**Name**|**Type**|**Description**\n:---|:---|:---\n".toList

/-- The table of the arguments that a caller passes; nothing if there are none. -/
def argumentTable (f : BoundFunction) : Text :=
  if f.callArguments = [] then [] else argumentHead ++ f.callArguments.flatMap argumentRow

end BindingDocs.BoundFunction
