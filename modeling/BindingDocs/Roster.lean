import BindingDocs.Log
import BindingDocs.Record

/-!
# The roster of functions

A source may declare one function several times.  The roster keeps the fullest declarations of each name: one
with fewer arguments than a declaration that is kept is dropped, one with more replaces those with fewer, and
declarations with equally many arguments stand side by side.
-/

namespace BindingDocs

/-- The functions that are kept, in order. -/
abbrev Roster := List BoundFunction

namespace Roster

/-- Is `g` another declaration of the function `f`, with fewer arguments? -/
def yieldsTo (f g : BoundFunction) : Bool := g.name == f.name && decide (g.arity < f.arity)

/-- Does a kept declaration of the same function have more arguments than `f`? -/
def outranks (r : Roster) (f : BoundFunction) : Bool := r.any fun g => yieldsTo g f

/-- Puts `f` in the place of the first function that yields to it, and drops the others; at the end if there
is none. -/
def supersede (f : BoundFunction) : Roster → Roster
  | [] => [f]
  | g :: r => if yieldsTo f g then f :: r.filter (fun h => !yieldsTo f h) else g :: supersede f r

/-- The roster after one more declaration. -/
def add (r : Roster) (f : BoundFunction) : Roster := if r.outranks f then r else supersede f r

/-- The roster of declarations in order. -/
def ofList (fs : List BoundFunction) : Roster := fs.foldl add []

/-- The entry about a declaration that is dropped. -/
def skipped (r : Roster) (f : BoundFunction) : Option Log.Entry :=
  if r.outranks f then
    some ⟨.debug, .scan, "skipping ".toList ++ f.name ++ " since it has fewer arguments".toList⟩
  else none

end Roster

end BindingDocs
