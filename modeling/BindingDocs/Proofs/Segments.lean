import BindingDocs.Proofs.Lines

/-!
# Segments of a scan

A function is read from one line that opens it and from its segment: the lines after that one, up to and
including the line that opens the next function, or to the end.  The scan reads the lines one by one with one
function open; `declared_ofLines` says that this gives each function read from its own segment alone, and
`getElem?_segments` says which lines a segment holds.  Of these lines the last that returns a value decides the
result (`readAll_returns`), and the first that declares a type for an argument decides that of the argument
(`getElem?_readAll_arguments`).
-/

namespace BindingDocs

/-! ### Single lines -/

namespace Line

/-- The line opens a function: a usage message stands after its first marker. -/
def Opens (l : Line) (usage : Usage) : Prop :=
  ∃ before rest, Text.IsFirstCut Usage.marker l.text before rest ∧ Usage.read? rest = some usage

/-- The line returns a value of this type: that of the first marker in the table that it holds. -/
def Returns (v : Vocabulary) (l : Line) (type : ValueType) : Prop :=
  ∃ earlier marker later, v.returnMarkers = earlier ++ (marker, type) :: later ∧ marker <:+: l.text ∧
    ∀ m ∈ earlier, ¬ m.1 <:+: l.text

theorem usageOfLine?_eq_some_iff {l : Line} {usage : Usage} :
    Usage.ofLine? l.text = some usage ↔ l.Opens usage := by
  unfold Usage.ofLine? Opens
  rw [Option.bind_eq_some_iff, Prod.exists]
  simp only [Text.cut?_eq_some_iff]

theorem returnType?_eq_some_iff {v : Vocabulary} {l : Line} {type : ValueType} :
    v.returnType? l.text = some type ↔ l.Returns v type := by
  unfold Vocabulary.returnType? Returns
  rw [Option.map_eq_some_iff]
  simp only [List.find?_eq_some_iff_append, Text.includes_iff, Bool.not_eq_true', ← Bool.not_eq_true,
    Prod.exists]
  constructor
  · rintro ⟨marker, type', ⟨hm, earlier, later, ht, hn⟩, rfl⟩
    exact ⟨earlier, marker, later, ht, hm, hn⟩
  · rintro ⟨earlier, marker, later, ht, hm, hn⟩
    exact ⟨marker, type, ⟨hm, earlier, later, ht, hn⟩, rfl⟩

end Line

/-! ### A function read from several lines -/

namespace Declaration

/-- The type that a line declares for the argument in slot `i`. -/
def declaredType? (i : Nat) (line : Text) : Option ValueType :=
  (keywordFor? i line).bind fun keyword => typeOf? keyword line

end Declaration

namespace Declared

/-- Reading a line for an argument fills in its type where there is none yet, and changes nothing else. -/
theorem readArgument_eq (l : Line) (a : Argument) (i : Nat) :
    readArgument l a i = { a with type? := a.type?.or (Declaration.declaredType? i l.text) } := by
  obtain ⟨name, type?, optional⟩ := a
  unfold readArgument Declaration.declaredType?
  cases type? with
  | some type => rfl
  | none =>
    cases Declaration.keywordFor? i l.text with
    | none => rfl
    | some keyword => rfl

/-- What lines tell about a function that is open, from the first line to the last. -/
def readAll (v : Vocabulary) (lines : List Line) (d : Declared) : Declared :=
  lines.foldl (fun d l => d.read v l) d

theorem readAll_name (v : Vocabulary) (lines : List Line) (d : Declared) :
    (d.readAll v lines).function.name = d.function.name := by
  induction lines generalizing d with
  | nil => rfl
  | cons l lines ih => exact ih (d.read v l)

/-- The last line that returns a value decides. -/
theorem readAll_returns (v : Vocabulary) (lines : List Line) (d : Declared) :
    (d.readAll v lines).function.returns =
      (lines.reverse.findSome? fun l => v.returnType? l.text).or d.function.returns := by
  induction lines generalizing d with
  | nil => rfl
  | cons l lines ih =>
    have hstep : d.readAll v (l :: lines) = (d.read v l).readAll v lines := rfl
    rw [hstep, ih, List.reverse_cons, List.findSome?_append, List.findSome?_singleton, Option.or_assoc]
    rfl

/-- The first line that declares a type for a slot decides, unless the argument has a type from the beginning.
-/
theorem getElem?_readAll_arguments (v : Vocabulary) (lines : List Line) (d : Declared) (i : Nat) :
    (d.readAll v lines).function.arguments[i]? = d.function.arguments[i]?.map fun a =>
      { a with type? := a.type?.or (lines.findSome? fun l => Declaration.declaredType? i l.text) } := by
  induction lines generalizing d with
  | nil => simp [readAll]
  | cons l lines ih =>
    have hstep : d.readAll v (l :: lines) = (d.read v l).readAll v lines := rfl
    have hread : (d.read v l).function.arguments[i]? =
        d.function.arguments[i]?.map fun a => readArgument l a i := by
      simp only [read, List.getElem?_map, List.getElem?_zipIdx, Option.map_map, Function.comp_def,
        Nat.zero_add]
    have hfirst : ((l :: lines).findSome? fun l => Declaration.declaredType? i l.text) =
        (Declaration.declaredType? i l.text).or
          (lines.findSome? fun l => Declaration.declaredType? i l.text) := by
      rw [List.findSome?_cons]
      cases Declaration.declaredType? i l.text <;> rfl
    rw [hstep, ih, hread, Option.map_map, hfirst]
    congr 1
    funext a
    simp only [Function.comp_apply, readArgument_eq, Option.or_assoc]

/-- The names of the arguments, and which are optional, stay as the usage message gives them. -/
theorem readAll_arguments_map {β : Type} (v : Vocabulary) (lines : List Line) (d : Declared)
    (g : Text → Bool → β) :
    (d.readAll v lines).function.arguments.map (fun a => g a.name a.optional) =
      d.function.arguments.map fun a => g a.name a.optional := by
  apply List.ext_getElem?
  intro i
  rw [List.getElem?_map, List.getElem?_map, getElem?_readAll_arguments, Option.map_map]
  rfl

end Declared

/-! ### The run, segment by segment -/

namespace SignatureScan

/-- The lines up to and including the first that opens a function. -/
def untilOpening : List Line → List Line
  | [] => []
  | l :: lines => if (Usage.ofLine? l.text).isSome then [l] else l :: untilOpening lines

/-- The lines that open a function. -/
def openings (lines : List Line) : List Line := lines.filter fun l => (Usage.ofLine? l.text).isSome

/-- Each usage message with its segment. -/
def segments : List Line → List (Usage × List Line)
  | [] => []
  | l :: lines =>
    match Usage.ofLine? l.text with
    | some usage => (usage, untilOpening lines) :: segments lines
    | none => segments lines

/-- From any state, the open function is read up to the next opening line, and each later one from its own segment.
-/
theorem declared_foldl_step (v : Vocabulary) (lines : List Line) (s : SignatureScan) :
    (lines.foldl (step v) s).declared =
      s.closed ++ (s.opened.map (Declared.readAll v (untilOpening lines))).toList ++
        (segments lines).map fun p => (Declared.ofUsage v p.1).readAll v p.2 := by
  induction lines generalizing s with
  | nil =>
    obtain ⟨closed, opened⟩ := s
    cases opened <;> simp [declared, untilOpening, segments, Declared.readAll]
  | cons l lines ih =>
    obtain ⟨closed, opened⟩ := s
    rw [List.foldl_cons, ih]
    cases hu : Usage.ofLine? l.text with
    | none =>
      cases opened <;> simp [step, untilOpening, segments, hu, Declared.readAll]
    | some usage =>
      cases opened <;> simp [step, untilOpening, segments, hu, Declared.readAll]

/-- Each function is read from its own segment alone. -/
theorem declared_ofLines (v : Vocabulary) (lines : List Line) :
    (ofLines v lines).declared =
      (segments lines).map fun p => (Declared.ofUsage v p.1).readAll v p.2 := by
  unfold ofLines
  rw [declared_foldl_step]
  rfl

theorem length_segments (lines : List Line) : (segments lines).length = (openings lines).length := by
  induction lines with
  | nil => rfl
  | cons l lines ih =>
    cases hu : Usage.ofLine? l.text <;> simp [segments, openings, hu] <;> simpa [openings] using ih

theorem untilOpening_sublist (lines : List Line) : (untilOpening lines).Sublist lines := by
  induction lines with
  | nil => exact List.Sublist.refl _
  | cons l lines ih =>
    unfold untilOpening
    split
    · exact (List.nil_sublist lines).cons_cons l
    · exact ih.cons_cons l

theorem mem_untilOpening {lines : List Line} (h : lines.Pairwise fun l l' => l.number < l'.number)
    {l : Line} :
    l ∈ untilOpening lines ↔ l ∈ lines ∧ ∀ o, (openings lines)[0]? = some o → l.number ≤ o.number := by
  induction lines with
  | nil => simp [untilOpening]
  | cons a lines ih =>
    rw [List.pairwise_cons] at h
    cases hu : (Usage.ofLine? a.text).isSome with
    | true =>
      simp only [untilOpening, openings, hu, ↓reduceIte, List.filter_cons_of_pos, List.getElem?_cons_zero,
        Option.some.injEq, forall_eq', List.mem_cons, List.not_mem_nil, or_false]
      constructor
      · rintro rfl
        exact ⟨Or.inl rfl, Nat.le_refl _⟩
      · rintro ⟨rfl | hm, hle⟩
        · rfl
        · have := h.1 l hm; omega
    | false =>
      have ho : openings (a :: lines) = openings lines := by simp [openings, hu]
      simp only [untilOpening, hu, Bool.false_eq_true, ↓reduceIte, List.mem_cons, ih h.2, ho]
      constructor
      · rintro (rfl | ⟨hm, hle⟩)
        · refine ⟨Or.inl rfl, ?_⟩
          intro o hfirst
          have hmem : o ∈ lines := (List.mem_filter.1 (List.mem_of_getElem? hfirst)).1
          exact Nat.le_of_lt (h.1 o hmem)
        · exact ⟨Or.inr hm, hle⟩
      · rintro ⟨rfl | hm, hle⟩
        · exact Or.inl rfl
        · exact Or.inr ⟨hm, hle⟩

/-- The segment of the opening line number `k` holds the lines after it, up to and including the next one. -/
theorem getElem?_segments {lines : List Line} (h : lines.Pairwise fun l l' => l.number < l'.number) {k : Nat}
    {usage : Usage} {seg : List Line} (hk : (segments lines)[k]? = some (usage, seg)) :
    ∃ o, (openings lines)[k]? = some o ∧ Usage.ofLine? o.text = some usage ∧ seg.Sublist lines ∧
      ∀ l, l ∈ seg ↔ l ∈ lines ∧ o.number < l.number ∧
        ∀ o', (openings lines)[k + 1]? = some o' → l.number ≤ o'.number := by
  induction lines generalizing k with
  | nil => simp [segments] at hk
  | cons a lines ih =>
    rw [List.pairwise_cons] at h
    -- the line in front is in no segment of an opening line behind it
    have hskip : ∀ o l, o ∈ openings lines →
        (l ∈ lines ∧ o.number < l.number ↔ l ∈ a :: lines ∧ o.number < l.number) := by
      intro o l ho
      have hao := h.1 o (List.mem_filter.1 ho).1
      rw [List.mem_cons]
      constructor
      · rintro ⟨hl, hlt⟩
        exact ⟨Or.inr hl, hlt⟩
      · rintro ⟨rfl | hl, hlt⟩
        · omega
        · exact ⟨hl, hlt⟩
    cases hu : Usage.ofLine? a.text with
    | none =>
      have ho : openings (a :: lines) = openings lines := by simp [openings, hu]
      have hs : segments (a :: lines) = segments lines := by simp [segments, hu]
      rw [hs] at hk
      obtain ⟨o, hok, husage, hsub, hmem⟩ := ih h.2 hk
      rw [ho]
      refine ⟨o, hok, husage, hsub.cons a, ?_⟩
      intro l
      rw [hmem, ← and_assoc, ← and_assoc, hskip o l (List.mem_of_getElem? hok)]
    | some u =>
      have ho : openings (a :: lines) = a :: openings lines := by simp [openings, hu]
      have hs : segments (a :: lines) = (u, untilOpening lines) :: segments lines := by simp [segments, hu]
      rw [hs] at hk
      rw [ho]
      cases k with
      | zero =>
        simp only [List.getElem?_cons_zero, Option.some.injEq, Prod.mk.injEq] at hk
        obtain ⟨rfl, rfl⟩ := hk
        refine ⟨a, rfl, hu, (untilOpening_sublist lines).cons a, ?_⟩
        intro l
        rw [mem_untilOpening h.2]
        constructor
        · rintro ⟨hl, hle⟩
          exact ⟨List.mem_cons_of_mem a hl, h.1 l hl, hle⟩
        · rintro ⟨hl, hlt, hle⟩
          rcases List.mem_cons.1 hl with rfl | hl
          · omega
          · exact ⟨hl, hle⟩
      | succ k =>
        rw [List.getElem?_cons_succ] at hk
        obtain ⟨o, hok, husage, hsub, hmem⟩ := ih h.2 hk
        refine ⟨o, hok, husage, hsub.cons a, ?_⟩
        intro l
        rw [hmem, ← and_assoc, ← and_assoc, hskip o l (List.mem_of_getElem? hok)]
        rfl

end SignatureScan

/-! ### The functions of a text -/

namespace Scan

/-- The lines of a text that open a function, from top to bottom. -/
def openings (events : Bool) (text : Text) : List Line :=
  SignatureScan.openings (functionLines events (numberedLines text))

/-- The line is in the segment of opening line `k`: a function line behind that line, and not behind the next
opening line. -/
def InSegment (events : Bool) (text : Text) (k : Nat) (l : Line) : Prop :=
  l.StandsIn text ∧ l.IsFunctionLine events ∧
    (∃ o, (openings events text)[k]? = some o ∧ o.number < l.number) ∧
    ∀ o, (openings events text)[k + 1]? = some o → l.number ≤ o.number

theorem mem_openings {events : Bool} {text : Text} {l : Line} :
    l ∈ openings events text ↔ l.StandsIn text ∧ l.IsFunctionLine events ∧ ∃ usage, l.Opens usage := by
  unfold openings SignatureScan.openings
  rw [List.mem_filter, mem_functionLines, Option.isSome_iff_exists, and_assoc]
  simp only [Line.usageOfLine?_eq_some_iff]

theorem openings_pairwise (events : Bool) (text : Text) :
    (openings events text).Pairwise fun o o' => o.number < o'.number :=
  (functionLines_pairwise events text).filter _

/-- Function `k` is read from opening line `k` and from the lines of its segment, in their order. -/
theorem exists_segment {v : Vocabulary} {events : Bool} {text : Text} {k : Nat} {d : Declared}
    (hd : (declarations v events text)[k]? = some d) :
    ∃ o usage seg, (openings events text)[k]? = some o ∧ o.Opens usage ∧
      d = (Declared.ofUsage v usage).readAll v seg ∧ seg.Pairwise (fun l l' => l.number < l'.number) ∧
      ∀ l, l ∈ seg ↔ InSegment events text k l := by
  have hsorted := functionLines_pairwise events text
  unfold declarations at hd
  rw [SignatureScan.declared_ofLines, List.getElem?_map, Option.map_eq_some_iff] at hd
  obtain ⟨⟨usage, seg⟩, hk, rfl⟩ := hd
  obtain ⟨o, ho, husage, hsub, hmem⟩ := SignatureScan.getElem?_segments hsorted hk
  refine ⟨o, usage, seg, ho, Line.usageOfLine?_eq_some_iff.1 husage, rfl, hsorted.sublist hsub, ?_⟩
  intro l
  rw [hmem, mem_functionLines, and_assoc]
  unfold InSegment
  constructor
  · rintro ⟨hin, hf, hlt, hle⟩
    exact ⟨hin, hf, ⟨o, ho, hlt⟩, hle⟩
  · rintro ⟨hin, hf, ⟨o', ho', hlt⟩, hle⟩
    obtain rfl : o' = o := Option.some.inj (ho'.symm.trans ho)
    exact ⟨hin, hf, hlt, hle⟩

theorem length_declarations (v : Vocabulary) (events : Bool) (text : Text) :
    (declarations v events text).length = (openings events text).length := by
  unfold declarations openings
  rw [SignatureScan.declared_ofLines, List.length_map, SignatureScan.length_segments]

/-- There is one function for each line that opens one, in order.  It has the name and the arguments of its usage
message and returns what the last line of its segment with a return marker says.  The roster, and so the
functions of the scan, are made from these functions one after the other. -/
theorem declarations_by_segment (v : Vocabulary) (events : Bool) (source : Source) (text : Text) :
    let os := openings events text
    let fs := (declarations v events text).map Declared.function
    (os.Pairwise fun o o' => o.number < o'.number) ∧
    (∀ l, l ∈ os ↔ l.StandsIn text ∧ l.IsFunctionLine events ∧ ∃ usage, l.Opens usage) ∧
    fs.length = os.length ∧
    (∀ k o f, os[k]? = some o → fs[k]? = some f →
      (∃ usage, o.Opens usage ∧ f.name = usage.name ∧
        f.arguments.map (fun a => (a.name, a.optional)) = usage.arguments.map fun written =>
          (written.filter (fun c => !Argument.isBracket c), written.contains ']')) ∧
      ∀ type, f.returns = some type ↔ ∃ l, InSegment events text k l ∧ l.Returns v type ∧
        ∀ l', InSegment events text k l' → l.number < l'.number → ∀ type', ¬ l'.Returns v type') ∧
    (ofText v events source text).functions = ScriptName.ofFunctions v source (fs.foldl Roster.add []) := by
  intro os fs
  refine ⟨openings_pairwise events text, fun l => mem_openings, ?_, ?_, functions_ofText v events source text⟩
  · rw [List.length_map]
    exact length_declarations v events text
  · intro k o f ho hf
    rw [List.getElem?_map, Option.map_eq_some_iff] at hf
    obtain ⟨d, hd, rfl⟩ := hf
    obtain ⟨o', usage, seg, ho', hopens, rfl, hsorted, hmem⟩ := exists_segment hd
    obtain rfl : o' = o := Option.some.inj (ho'.symm.trans ho)
    refine ⟨⟨usage, hopens, ?_, ?_⟩, ?_⟩
    · exact Declared.readAll_name v seg _
    · rw [Declared.readAll_arguments_map v seg _ Prod.mk]
      simp [Declared.ofUsage, BoundFunction.ofUsage, Argument.ofWritten]
    · intro type
      rw [Declared.readAll_returns]
      have hnone : (Declared.ofUsage v usage).function.returns = none := rfl
      rw [hnone, Option.or_none, findSome?_reverse_eq_some_iff_last hsorted]
      simp only [hmem, Line.returnType?_eq_some_iff, Option.eq_none_iff_forall_ne_some, ne_eq]

end Scan

end BindingDocs
