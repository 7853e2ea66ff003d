import BindingDocs.Record
import BindingDocs.Source
import BindingDocs.Title
import BindingDocs.Vocabulary

/-!
# Script names

A usage message names a function as the server does, `Client::SetLevel`; a script calls it on a receiver,
`$client->SetLevel`.  Here a record gets its receiver, its bare name, its scope, and arguments named without
their types.
-/

namespace BindingDocs.ScriptName

/-- The receiver of every function of the general scope. -/
def generalReceiver : Text := "quest::".toList

/-- The variable that holds the object of a method: the name in lower case, with an underscore in the two
scopes whose variables have one. -/
def variableOf (name : Text) : Text :=
  Text.replace "hateentry".toList "hate_entry".toList
    (Text.replace "entitylist".toList "entity_list".toList ('$' :: Text.lowercase name))

/-- `s` up to the first `mark`, then an arrow; all of `s` if there is no mark. -/
def arrowAt (mark s : Text) : Text :=
  match Text.cut? mark s with
  | some (before, _) => before ++ "->".toList
  | none => s

/-- The receiver of a method. -/
def receiverOf (name : Text) : Text := arrowAt "->".toList (arrowAt "::".toList (variableOf name))

/-- The name without its name space, without what follows an arrow, and without the sigil. -/
def bareOf (name : Text) : Text :=
  let rest :=
    match Text.cut? "::".toList name with
    | some (_, rest) => rest
    | none => name
  match Text.before "->".toList rest with
  | '$' :: bare => bare
  | bare => bare

/-- What stands before the first `mark`, if that is something. -/
def wordBefore? (mark s : Text) : Option Text :=
  match Text.cut? mark s with
  | some (before, _) => if before = [] then none else some before
  | none => none

/-- The scope of a receiver: `$client->` is in `client`, and `quest::` is in `quest`. -/
def scopeOf (receiver : Text) : Text :=
  let word := ((wordBefore? "->".toList receiver).or (wordBefore? "::".toList receiver)).getD []
  match Text.cut? ['$'] word with
  | some (_, rest) => rest
  | none => word

/-- An argument without the type in front of its name.  A known name has its known type. -/
def renameArgument (v : Vocabulary) (a : Argument) : Argument :=
  match (Text.words a.name).getLast? with
  | some last =>
    if last = a.name then a else { a with name := last, type? := (v.argumentType? last).or a.type? }
  | none => a

/-- The receiver of a function in a source.  In the general scope one that holds the source's token stays. -/
def receiverIn (source : Source) (f : BoundFunction) (name : Text) : Text :=
  if source.scope = Source.generalScope then
    if Text.includes source.token f.receiver then f.receiver else generalReceiver
  else receiverOf name

/-- Does this stand for the name of a function without being one? -/
def isPlaceholder (name : Text) : Bool := name == [] || name == "%s".toList

/-- The function under its script name; none for a placeholder. -/
def ofFunction? (v : Vocabulary) (source : Source) (f : BoundFunction) : Option BoundFunction :=
  let name := Text.trim f.name
  if isPlaceholder name then none
  else
    let receiver := receiverIn source f name
    some { f with
      receiver := receiver
      name := bareOf name
      scope := Title.ofScope (scopeOf receiver)
      arguments := f.arguments.map (renameArgument v) }

/-- The functions of a source under their script names. -/
def ofFunctions (v : Vocabulary) (source : Source) (fs : List BoundFunction) : List BoundFunction :=
  fs.filterMap (ofFunction? v source)

end BindingDocs.ScriptName
