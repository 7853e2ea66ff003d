import BindingDocs.Record
import BindingDocs.Vocabulary

/-!
# Usage messages

A binding that is called with the wrong number of arguments stops with a usage message such as
`Usage: Client::SetLevel(THIS, uint8 set_level)`.  The message names the function and its arguments.
-/

namespace BindingDocs

/-- The name and the arguments that a usage message gives, as they are written. -/
structure Usage where
  name : Text
  arguments : List Text
  deriving DecidableEq, Repr

namespace Usage

/-- What stands in front of a usage message. -/
def marker : Text := "Perl_croak(aTHX_ \"Usage:".toList

/-- The arguments as they are written between the parentheses.  They end at a default value, if there is one,
and empty ones do not count. -/
def readArguments (s : Text) : List Text :=
  let written := Text.before "=".toList (Text.before ")".toList s)
  (((Text.trim written).splitOn ',').map Text.trim).filter fun a => !a.isEmpty

/-- The usage message at the beginning of `s`.  It ends at the end of its string literal; without a name it is
none. -/
def read? (s : Text) : Option Usage :=
  let call := Text.before "\");".toList s
  let usage : Usage :=
    match Text.cut? "(".toList call with
    | some (name, rest) => ⟨Text.trim name, readArguments rest⟩
    | none => ⟨Text.trim call, []⟩
  if usage.name = [] then none else some usage

/-- The usage message that a line holds after its first marker. -/
def ofLine? (line : Text) : Option Usage := (Text.cut? marker line).bind fun cut => read? cut.2

end Usage

namespace Argument

/-- Brackets and question marks show that an argument is optional; they are no part of its name. -/
def isBracket (c : Char) : Bool := c == '[' || c == ']' || c == '?'

/-- The argument that is written `written`. -/
def ofWritten (v : Vocabulary) (written : Text) : Argument :=
  let name := written.filter fun c => !isBracket c
  ⟨name, v.argumentType? name, written.contains ']'⟩

end Argument

namespace BoundFunction

/-- The function of a usage message, before anything more is known of it. -/
def ofUsage (v : Vocabulary) (usage : Usage) : BoundFunction :=
  ⟨[], usage.name, [], none, usage.arguments.map (Argument.ofWritten v)⟩

end BoundFunction

end BindingDocs
