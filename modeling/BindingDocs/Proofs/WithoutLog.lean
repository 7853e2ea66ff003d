import BindingDocs.Run

/-!
# A run without its log

What a run answers, and what becomes of the files, does not depend on the log.  One world mirrors another one if each
action answers alike in both, and what is seen of the first state is the second state (`World.Mirrors`).  A run then
answers alike as well (`Run.follows_run`).  The desk with its log is mirrored by the file tree alone
(`Desk.mirrors_world`), and there the run can be followed step by step.
-/

namespace BindingDocs

section

variable {σ τ α β : Type} {view : σ → τ}

/-- The second computation answers as the first one does, and ends in what is seen of the first one's end. -/
def Follows (view : σ → τ) (x : StateM σ α) (y : StateM τ α) : Prop := ∀ s, y (view s) = ((x s).1, view (x s).2)

theorem Follows.pure (a : α) : Follows view (pure a) (pure a) := fun _ => rfl

theorem Follows.bind {x : StateM σ α} {y : StateM τ α} {f : α → StateM σ β} {g : α → StateM τ β}
    (h : Follows view x y) (hrest : ∀ a, Follows view (f a) (g a)) : Follows view (x >>= f) (y >>= g) := by
  intro s
  have hfirst : (y >>= g) (view s) = g (y (view s)).1 (y (view s)).2 := rfl
  rw [hfirst, h s]
  exact hrest (x s).1 (x s).2

/-- What comes after a computation starts from its answer and its end. -/
theorem bind_of_eq {x : StateM σ α} {f : α → StateM σ β} {s s' : σ} {a : α} (h : x s = (a, s')) :
    (x >>= f) s = f a s' := by
  show StateT.bind x f s = _
  unfold StateT.bind
  rw [h]
  rfl

/-- Each action in the second world follows that in the first one. -/
structure World.Mirrors (view : σ → τ) (w : World (StateM σ)) (w' : World (StateM τ)) : Prop where
  makeDirectories : ∀ path, Follows view (w.makeDirectories path) (w'.makeDirectories path)
  read : ∀ path, Follows view (w.read path) (w'.read path)
  write : ∀ path content, Follows view (w.write path content) (w'.write path content)
  log : ∀ e, Follows view (w.log e) (w'.log e)

variable {w : World (StateM σ)} {w' : World (StateM τ)}

theorem World.Mirrors.logAll (h : World.Mirrors view w w') (es : List Log.Entry) :
    Follows view (w.logAll es) (w'.logAll es) := by
  induction es with
  | nil => exact .pure ()
  | cons e es ih => exact .bind (h.log e) fun _ => ih

/-! ### Publishing -/

namespace Publish

theorem follows_writePage (h : World.Mirrors view w w') (directory : Text) (tally : Tally) (page : Page) :
    Follows view (writePage w directory tally page) (writePage w' directory tally page) := by
  refine .bind (h.write _ _) fun answer => ?_
  cases answer with
  | ok => exact .bind (h.log _) fun _ => .pure _
  | error e => exact .bind (h.log _) fun _ => .pure _

theorem follows_writePages (h : World.Mirrors view w w') (directory : Text) (tally : Tally) (pages : List Page) :
    Follows view (writePages w directory tally pages) (writePages w' directory tally pages) := by
  induction pages generalizing tally with
  | nil => exact .pure tally
  | cons page pages ih => exact .bind (follows_writePage h directory tally page) fun _ => ih _

theorem follows_writeScopes (h : World.Mirrors view w w') (directory time : Text) (tally : Tally)
    (scopes : List ScopeEntries) :
    Follows view (writeScopes w directory time tally scopes) (writeScopes w' directory time tally scopes) := by
  induction scopes generalizing tally with
  | nil => exact .pure tally
  | cons scope scopes ih =>
    exact .bind (h.log _) fun _ => .bind (follows_writePages h directory tally _) fun _ => ih _

theorem follows_writeAll (h : World.Mirrors view w w') (directory manifestPath time : Text) (o : Outline)
    (es : List Event) :
    Follows view (writeAll w directory manifestPath time o es) (writeAll w' directory manifestPath time o es) := by
  refine .bind (follows_writePages h directory _ _) fun listed => .bind (h.write _ _) fun answer => ?_
  cases answer with
  | error e => exact .pure _
  | ok => exact .bind (h.log _) fun _ => .bind (follows_writeScopes h directory time listed _) fun _ => .pure _

end Publish

/-! ### The whole run -/

namespace Run

variable (settings : Settings)

theorem follows_readSources (h : World.Mirrors view w w') (found : Findings) (sources : List Source) :
    Follows view (readSources w settings found sources) (readSources w' settings found sources) := by
  induction sources generalizing found with
  | nil => exact .pure _
  | cons source sources ih =>
    refine .bind (h.read _) fun answer => ?_
    cases answer with
    | error e => exact .pure _
    | ok bytes => exact .bind (h.logAll _) fun _ => .bind (h.log _) fun _ => ih _

theorem follows_publish (h : World.Mirrors view w w') (found : Findings) :
    Follows view (publish w settings found) (publish w' settings found) := by
  refine .bind (h.log _) fun _ => .bind (Publish.follows_writeAll h _ _ _ _ _) fun answer => ?_
  cases answer with
  | error e => exact .pure _
  | ok tally =>
    refine .bind (h.log _) fun _ => ?_
    dsimp only
    split
    · exact .bind (h.log _) fun _ => .pure _
    · exact .pure _

theorem follows_run (h : World.Mirrors view w w') : Follows view (run w settings) (run w' settings) := by
  refine .bind (h.makeDirectories _) fun answer => ?_
  cases answer with
  | error e => exact .pure _
  | ok =>
    refine .bind (follows_readSources settings h _ _) fun answer => ?_
    cases answer with
    | error e => exact .pure _
    | ok found => exact follows_publish settings h found

end Run

end

/-! ### The file tree alone -/

/-- The actions on a file tree, without a log. -/
def FileTree.world (cwd : Place) : World (StateM FileTree) where
  makeDirectories path := fun t =>
    let (tree, error?) := t.makeDirectories cwd path
    (match error? with
      | some e => .error e
      | none => .ok (), tree)
  read path := fun t => (t.read cwd path, t)
  write path content := fun t =>
    match t.write cwd path content with
    | .error e => (.error e, t)
    | .ok tree => (.ok (), tree)
  log _ := pure ()

theorem Desk.mirrors_world (cwd : Place) : World.Mirrors Desk.tree (Desk.world cwd) (FileTree.world cwd) where
  makeDirectories _ _ := rfl
  read _ _ := rfl
  write path content d := by
    simp only [Desk.world, FileTree.world]
    cases d.tree.write cwd path content <;> rfl
  log _ _ := rfl

end BindingDocs
