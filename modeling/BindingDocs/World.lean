import BindingDocs.FileTree
import BindingDocs.Log

/-!
# The world of a run

What a run can do to its surroundings: make directories, read and write files, and write to the log.  A
`Desk` is the world in a value: a file tree and the log so far.
-/

namespace BindingDocs

/-- The actions that a run takes. -/
structure World (m : Type → Type) where
  makeDirectories : Text → m (Except FileError Unit)
  read : Text → m (Except FileError Bytes)
  write : Text → Bytes → m (Except FileError Unit)
  log : Log.Entry → m Unit

namespace World

variable {m : Type → Type} [Monad m]

/-- Writes one entry after the other to the log. -/
def logAll (w : World m) : List Log.Entry → m Unit
  | [] => pure ()
  | e :: es => do
    w.log e
    w.logAll es

/-- The same world, except that only entries that are `kept` reach the log. -/
def keeping (w : World m) (kept : Log.Entry → Bool) : World m :=
  { w with log := fun e => if kept e then w.log e else pure () }

end World

/-- A file tree and the log so far. -/
structure Desk where
  tree : FileTree
  log : List Log.Entry

namespace Desk

/-- The actions on a desk, with the current directory `cwd`.  An action that fails leaves the tree as it is,
except that directories made on the way to one that cannot be made stay. -/
def world (cwd : Place) : World (StateM Desk) where
  makeDirectories path := fun d =>
    let (tree, error?) := d.tree.makeDirectories cwd path
    (match error? with
      | some e => .error e
      | none => .ok (), { d with tree := tree })
  read path := fun d => (d.tree.read cwd path, d)
  write path content := fun d =>
    match d.tree.write cwd path content with
    | .error e => (.error e, d)
    | .ok tree => (.ok (), { d with tree := tree })
  log e := fun d => ((), { d with log := d.log ++ [e] })

end Desk

end BindingDocs
