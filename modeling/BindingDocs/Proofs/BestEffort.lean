import BindingDocs.Proofs.Publishing

/-!
# Publishing when writes fail

In a trial the outcome of each write is laid down by its number, and the writes are kept in the order in which they are
tried (`Trial.world`).  Whatever the outcomes, no page that fails keeps another one from being tried; only the manifest
does, and only the pages of the functions (`writeAll_best_effort`).
-/

namespace BindingDocs

/-- A file tree, and the writes that have been tried on it. -/
structure Trial where
  tree : FileTree
  tried : List (Text × Bytes)

namespace Trial

variable (place : Text → Place) (outcome : Nat → Option FileError)

/-- The answer to a write that ends with an error or without one. -/
def answer : Option FileError → Except FileError Unit
  | none => .ok ()
  | some e => .error e

/-- The world in which the write number `k` ends with `outcome k`.  If that is no error, the file is put at the place
that its path name means. -/
def world : World (StateM Trial) where
  makeDirectories _ := pure (.ok ())
  read _ := pure (.error .notFound)
  write path content := fun s =>
    (answer (outcome s.tried.length),
      match outcome s.tried.length with
      | none => ⟨s.tree.set (place path) (.file content), s.tried ++ [(path, content)]⟩
      | some _ => ⟨s.tree, s.tried ++ [(path, content)]⟩)
  log _ := pure ()

/-- The files of those writes that succeed, with their places; the first write has the number `n`. -/
def successes (n : Nat) (files : List (Text × Bytes)) : List (Place × Bytes) :=
  (files.zipIdx n).filterMap fun p => if outcome p.2 = none then some (place p.1.1, p.1.2) else none

theorem successes_append (n : Nat) (files files' : List (Text × Bytes)) :
    successes place outcome n (files ++ files') =
      successes place outcome n files ++ successes place outcome (n + files.length) files' := by
  rw [successes, List.zipIdx_append, List.filterMap_append, Nat.add_comm]
  rfl

theorem isSilent_world : (world place outcome).IsSilent := fun _ => rfl

/-- One write is tried, with its number. -/
theorem write_world (file : Text × Bytes) (s : Trial) :
    (world place outcome).write file.1 file.2 s =
      (answer (outcome s.tried.length),
        ⟨s.tree.putFiles (successes place outcome s.tried.length [file]), s.tried ++ [file]⟩) := by
  cases houtcome : outcome s.tried.length <;> simp [world, successes, FileTree.putFiles, houtcome]

/-- Several writes are all tried, and those that succeed put their files at their places. -/
theorem writeEach_world (files : List (Text × Bytes)) (s : Trial) :
    (world place outcome).writeEach files s =
      ((List.range' s.tried.length files.length).map fun k => answer (outcome k),
        ⟨s.tree.putFiles (successes place outcome s.tried.length files), s.tried ++ files⟩) := by
  induction files generalizing s with
  | nil =>
    rw [List.append_nil]
    rfl
  | cons file files ih =>
    have hfiles := successes_append place outcome s.tried.length [file] files
    have hrest := ih ⟨s.tree.putFiles (successes place outcome s.tried.length [file]), s.tried ++ [file]⟩
    rw [World.writeEach_cons_eq (write_world place outcome file s) hrest]
    simp only [List.length_append, List.length_singleton, List.singleton_append] at hfiles ⊢
    rw [hfiles, FileTree.putFiles_append, List.length_cons, List.range'_succ, List.map_cons, List.append_assoc,
      List.singleton_append]

theorem get?_putFiles_successes (hplace : ∀ path, place path ≠ []) (n : Nat) (files : List (Text × Bytes))
    (t : FileTree) (p : Place) :
    (t.putFiles (successes place outcome n files)).get? p =
      (((successes place outcome n files).reverse.lookup p).map Node.file).or (t.get? p) := by
  refine FileTree.get?_putFiles (fun file hfile => ?_) t p
  obtain ⟨q, -, hq⟩ := List.mem_filterMap.1 hfile
  obtain rfl := Option.some.inj (Option.ite_none_right_eq_some.1 hq).2
  exact hplace q.1.1

/-- Of the writes with these numbers, as many are answered without an error as have no error laid down. -/
theorem countP_isOk_answers (numbers : List Nat) :
    (numbers.map fun k => answer (outcome k)).countP Except.isOk = numbers.countP fun k => outcome k = none := by
  rw [List.countP_map]
  refine List.countP_congr fun k _ => ?_
  cases houtcome : outcome k <;> simp [answer, Except.isOk, Except.toBool, houtcome]

end Trial

namespace Publish

variable (place : Text → Place) (outcome : Nat → Option FileError) (directory manifestPath time : Text) (o : Outline)
  (es : List Event) (t : FileTree)

/-- If the manifest fails, nothing is tried after it. -/
theorem writeAll_trial_of_some {e : FileError}
    (houtcome : outcome (listFiles directory time o es).length = some e) :
    let tried := listFiles directory time o es ++ [(manifestPath, (Manifest.ofCatalog o.catalog).toBytes)]
    writeAll (Trial.world place outcome) directory manifestPath time o es ⟨t, []⟩ =
      (.error (.manifest manifestPath e), ⟨t.putFiles (Trial.successes place outcome 0 tried), tried⟩) := by
  intro tried
  have hlisted := Trial.writeEach_world place outcome (listFiles directory time o es) ⟨t, []⟩
  have hmanifest := Trial.write_world place outcome (manifestPath, (Manifest.ofCatalog o.catalog).toBytes)
    ⟨t.putFiles (Trial.successes place outcome 0 (listFiles directory time o es)), listFiles directory time o es⟩
  rw [houtcome] at hmanifest
  rw [writeAll_of_error (Trial.isSilent_world place outcome) hlisted hmanifest, Trial.successes_append,
    FileTree.putFiles_append, Nat.zero_add]

/-- If the manifest is written, the pages of the functions are tried after it. -/
theorem writeAll_trial_of_none (houtcome : outcome (listFiles directory time o es).length = none) :
    let manifest := (manifestPath, (Manifest.ofCatalog o.catalog).toBytes)
    let tried := listFiles directory time o es ++ manifest :: detailFiles directory time o
    let numbers := List.range' 0 (listFiles directory time o es).length ++
      List.range' ((listFiles directory time o es).length + 1) (detailFiles directory time o).length
    writeAll (Trial.world place outcome) directory manifestPath time o es ⟨t, []⟩ =
      (.ok (Tally.countAll ⟨0, 0⟩ (numbers.map fun k => Trial.answer (outcome k))),
        ⟨t.putFiles (Trial.successes place outcome 0 tried), tried⟩) := by
  intro manifest tried numbers
  have hlisted := Trial.writeEach_world place outcome (listFiles directory time o es) ⟨t, []⟩
  have hmanifest := Trial.write_world place outcome manifest
    ⟨t.putFiles (Trial.successes place outcome 0 (listFiles directory time o es)), listFiles directory time o es⟩
  rw [houtcome] at hmanifest
  have hdetailed := Trial.writeEach_world place outcome (detailFiles directory time o)
    ⟨(t.putFiles (Trial.successes place outcome 0 (listFiles directory time o es))).putFiles
      (Trial.successes place outcome (listFiles directory time o es).length [manifest]),
      listFiles directory time o es ++ [manifest]⟩
  have hsplit : tried = (listFiles directory time o es ++ [manifest]) ++ detailFiles directory time o := by
    rw [List.append_assoc, List.singleton_append]
  rw [writeAll_of_ok (Trial.isSilent_world place outcome) hlisted hmanifest hdetailed, hsplit,
    Trial.successes_append, Trial.successes_append, FileTree.putFiles_append, FileTree.putFiles_append,
    List.map_append, List.length_append, Nat.zero_add, Nat.zero_add]
  rfl

/-- The numbers of the pages are all but that of the manifest. -/
private theorem countP_numbers (q : Nat → Bool) (m n : Nat) :
    (List.range' 0 m ++ List.range' (m + 1) n).countP q =
      (List.range (m + (n + 1))).countP fun k => decide (k ≠ m) && q k := by
  have hrange : List.range (m + (n + 1)) = List.range' 0 m ++ m :: List.range' (m + 1) n := by
    rw [List.range_eq_range', ← List.range'_succ]
    have happend : List.range' 0 m ++ List.range' (0 + m) (n + 1) = List.range' 0 (m + (n + 1)) :=
      List.range'_append_1
    rw [← happend, Nat.zero_add]
  have hbefore : ∀ k ∈ List.range' 0 m, (decide (k ≠ m) && q k) = q k := by
    intro k hk
    have hlt : k < m := by simpa using List.mem_range'_1.1 hk
    simp [Nat.ne_of_lt hlt]
  have hafter : ∀ k ∈ List.range' (m + 1) n, (decide (k ≠ m) && q k) = q k := by
    intro k hk
    have hlt : m < k := (List.mem_range'_1.1 hk).1
    simp [Nat.ne_of_gt hlt]
  rw [hrange, List.countP_append, List.countP_append, List.countP_cons_of_neg (by simp)]
  rw [List.countP_congr fun k hk => Bool.eq_iff_iff.1 (hbefore k hk),
    List.countP_congr fun k hk => Bool.eq_iff_iff.1 (hafter k hk)]

/-- The lists and the pages of the events are tried first, in order, then the manifest, and then the pages of the
functions unless the manifest fails.  Each page counts as written or as failed, and in the end each place has what the
last successful write put there. -/
theorem writeAll_best_effort (hplace : ∀ path, place path ≠ []) :
    let lists := (o.indexPages time ++ Outline.eventPages es time ++ o.scopePages time).map (fileOf directory)
    let manifest := (manifestPath, (Manifest.ofCatalog o.catalog).toBytes)
    let details := (o.functionPages time).map (fileOf directory)
    let done := writeAll (Trial.world place outcome) directory manifestPath time o es ⟨t, []⟩
    (outcome lists.length = none →
      done.2.tried = lists ++ manifest :: details ∧
        ∃ tally, done.1 = .ok tally ∧ tally.written + tally.failed = lists.length + details.length ∧
          tally.written = (List.range done.2.tried.length).countP fun k => k ≠ lists.length ∧ outcome k = none) ∧
    (∀ e, outcome lists.length = some e →
      done.2.tried = lists ++ [manifest] ∧ done.1 = .error (.manifest manifestPath e)) ∧
    ∀ p, done.2.tree.get? p =
      (((Trial.successes place outcome 0 done.2.tried).reverse.lookup p).map Node.file).or (t.get? p) := by
  intro lists manifest details done
  cases houtcome : outcome lists.length with
  | some e =>
    have hdone : done = _ := writeAll_trial_of_some place outcome directory manifestPath time o es t houtcome
    rw [hdone]
    refine ⟨nofun, fun e' he' => ?_, Trial.get?_putFiles_successes place outcome hplace 0 _ t⟩
    obtain rfl := Option.some.inj he'
    exact ⟨rfl, rfl⟩
  | none =>
    have hdone : done = _ := writeAll_trial_of_none place outcome directory manifestPath time o es t houtcome
    rw [hdone]
    refine ⟨fun _ => ⟨rfl, _, rfl, ?_, ?_⟩, nofun, Trial.get?_putFiles_successes place outcome hplace 0 _ t⟩
    · rw [Tally.written_add_failed_countAll, List.length_map, List.length_append, List.length_range',
        List.length_range']
      exact Nat.zero_add _
    · rw [Tally.countAll_eq, Trial.countP_isOk_answers, countP_numbers, List.length_append, List.length_cons]
      rw [Nat.zero_add]
      refine List.countP_congr fun k _ => ?_
      rw [Bool.and_eq_true, decide_eq_true_iff, decide_eq_true_iff, decide_eq_true_iff]
      rfl

/-- The page of the event fails, which keeps no other page from being written. -/
theorem writeAll_best_effort_of_event :
    let o : Outline := ⟨[("Mob".toList, "* hit\n".toList)], "* say\n".toList,
      [⟨"Mob".toList, [⟨"hit".toList, [], [], []⟩, ⟨"aim".toList, [], [], []⟩]⟩]⟩
    let done := writeAll (Trial.world (fun path => [path]) fun k => if k = 1 then some .isDirectory else none)
      "out".toList "m.yml".toList "T".toList o [⟨"EVENT_SAY".toList, []⟩] ⟨[], []⟩
    (∀ path : Text, [path] ≠ []) ∧ done.2.tried.length = 6 ∧
      ∃ tally, done.1 = .ok tally ∧ tally.written + tally.failed = 5 ∧ tally.written = 4 := by
  intro o done
  have hplace : ∀ path : Text, [path] ≠ [] := fun path => List.cons_ne_nil path []
  obtain ⟨htried, tally, htally, hsum, hwritten⟩ := (writeAll_best_effort (fun path => [path])
    (fun k => if k = 1 then some .isDirectory else none) "out".toList "m.yml".toList "T".toList o
    [⟨"EVENT_SAY".toList, []⟩] [] hplace).1 rfl
  refine ⟨hplace, ?_, tally, htally, hsum, ?_⟩
  · rw [htried]
    rfl
  · rw [hwritten, htried]
    decide

end Publish

end BindingDocs
