import BindingDocs.Proofs.Segments
import Mathlib.Data.List.Basic
import Mathlib.Data.List.Induction

/-!
# Uses of argument names

The ledger is filled function by function and argument by argument, and it does not matter what the roster makes of a
function.  One more use goes to the end of the uses of its name and changes those of no other name (`Records.add`), so
in the end the ledger has for each name its uses in the order of the source (`records_ofFunctions`).  The report says of
each name but the receiver's, once, whether all its uses have a type (`report_eq`).
-/

namespace BindingDocs

namespace UseLedger

/-- Every argument of every function, with its name, in the order of the functions and within one of its arguments. -/
def occurrences (fs : List BoundFunction) : List (Text × ArgumentUse) :=
  fs.flatMap fun f => f.arguments.map fun a => (a.name, ⟨f.name, a.type?⟩)

/-- The uses of a name among these, in order. -/
def usesIn (occ : List (Text × ArgumentUse)) (name : Text) : List ArgumentUse :=
  (occ.filter fun o => o.1 == name).map Prod.snd

/-- The uses of an argument name by functions, in their order. -/
def usesOf (fs : List BoundFunction) (name : Text) : List ArgumentUse := usesIn (occurrences fs) name

theorem mem_map_fst_occurrences {fs : List BoundFunction} {name : Text} :
    name ∈ (occurrences fs).map Prod.fst ↔ ∃ f ∈ fs, ∃ a ∈ f.arguments, a.name = name := by
  simp [occurrences, List.map_flatMap]

theorem ofFunctions_eq_foldl (fs : List BoundFunction) :
    ofFunctions fs = (occurrences fs).foldl (fun ledger o => add o.1 o.2 ledger) [] := by
  rw [occurrences, List.foldl_flatMap]
  simp only [List.foldl_map]
  rfl

theorem usesIn_concat (occ : List (Text × ArgumentUse)) (name key : Text) (use : ArgumentUse) :
    usesIn (occ ++ [(name, use)]) key = if key = name then usesIn occ key ++ [use] else usesIn occ key := by
  unfold usesIn
  rw [List.filter_append, List.map_append]
  by_cases h : key = name
  · simp [h]
  · simp [h, Ne.symm h]

theorem usesIn_eq_nil {occ : List (Text × ArgumentUse)} {name : Text} (h : name ∉ occ.map Prod.fst) :
    usesIn occ name = [] := by
  rw [usesIn, List.map_eq_nil_iff, List.filter_eq_nil_iff]
  intro o ho hname
  exact h (List.mem_map.2 ⟨o, ho, by simpa using hname⟩)

/-! ### One more use -/

/-- Does `m` stand before `n` in the ledger? -/
def Precedes (m n : Text) : Prop := Text.le m n = true ∧ m ≠ n

theorem Precedes.trans {m n o : Text} (hmn : Precedes m n) (hno : Precedes n o) : Precedes m o := by
  refine ⟨Text.le_trans hmn.1 hno.1, ?_⟩
  rintro rfl
  exact hmn.2 (Text.le_antisymm hmn.1 hno.1)

theorem precedes_of_not_le {m n : Text} (h : ¬ Text.le m n = true) : Precedes n m := by
  refine ⟨(Bool.or_eq_true_iff.1 (Text.le_total n m)).resolve_right h, ?_⟩
  rintro rfl
  exact h (Text.le_refl n)

theorem mem_map_fst_add {name key : Text} {use : ArgumentUse} {ledger : UseLedger} :
    key ∈ (add name use ledger).map Prod.fst ↔ key = name ∨ key ∈ ledger.map Prod.fst := by
  induction ledger with
  | nil => simp [add]
  | cons p ledger ih =>
    obtain ⟨first, uses⟩ := p
    unfold add
    split_ifs with hsame hbefore
    · subst hsame
      simp
    · simp
    · rw [List.map_cons, List.mem_cons, ih, List.map_cons, List.mem_cons]
      exact or_left_comm

theorem pairwise_add {name : Text} {use : ArgumentUse} {ledger : UseLedger}
    (h : (ledger.map Prod.fst).Pairwise Precedes) : ((add name use ledger).map Prod.fst).Pairwise Precedes := by
  induction ledger with
  | nil => exact List.pairwise_singleton _ _
  | cons p ledger ih =>
    obtain ⟨first, uses⟩ := p
    obtain ⟨hfirst, hrest⟩ := List.pairwise_cons.1 h
    unfold add
    split_ifs with hsame hbefore
    · exact h
    · have hname : Precedes name first := ⟨hbefore, hsame⟩
      refine List.pairwise_cons.2 ⟨?_, h⟩
      intro key hkey
      rcases List.mem_cons.1 hkey with rfl | hkey
      · exact hname
      · exact hname.trans (hfirst key hkey)
    · refine List.pairwise_cons.2 ⟨?_, ih hrest⟩
      intro key hkey
      rcases mem_map_fst_add.1 hkey with rfl | hkey
      · exact precedes_of_not_le hbefore
      · exact hfirst key hkey

/-- What the ledger has for a name after one more use: as before for another name, and one more use for its own. -/
theorem mem_add_cases {name : Text} {use : ArgumentUse} {ledger : UseLedger} {p : Text × List ArgumentUse}
    (h : (ledger.map Prod.fst).Pairwise Precedes) (hp : p ∈ add name use ledger) :
    (p.1 ≠ name ∧ p ∈ ledger) ∨ (∃ old, (name, old) ∈ ledger ∧ p = (name, old ++ [use])) ∨
      (name ∉ ledger.map Prod.fst ∧ p = (name, [use])) := by
  induction ledger with
  | nil => exact .inr (.inr ⟨List.not_mem_nil, List.mem_singleton.1 hp⟩)
  | cons q ledger ih =>
    obtain ⟨first, uses⟩ := q
    obtain ⟨hfirst, hrest⟩ := List.pairwise_cons.1 h
    unfold add at hp
    split_ifs at hp with hsame hbefore
    · subst hsame
      rcases List.mem_cons.1 hp with rfl | hp
      · exact .inr (.inl ⟨uses, List.mem_cons_self, rfl⟩)
      · have hne : name ≠ p.1 := (hfirst p.1 (List.mem_map_of_mem hp)).2
        exact .inl ⟨hne.symm, List.mem_cons_of_mem _ hp⟩
    · -- the names behind the first one come later still, so this one is new
      have hnew : ∀ key ∈ ((first, uses) :: ledger).map Prod.fst, Precedes name key := by
        intro key hkey
        rcases List.mem_cons.1 hkey with rfl | hkey
        · exact ⟨hbefore, hsame⟩
        · exact Precedes.trans ⟨hbefore, hsame⟩ (hfirst key hkey)
      rcases List.mem_cons.1 hp with rfl | hp
      · exact .inr (.inr ⟨fun hname => (hnew name hname).2 rfl, rfl⟩)
      · exact .inl ⟨(hnew p.1 (List.mem_map_of_mem hp)).2.symm, hp⟩
    · rcases List.mem_cons.1 hp with rfl | hp
      · exact .inl ⟨Ne.symm hsame, List.mem_cons_self⟩
      · rcases ih hrest hp with ⟨hne, hp⟩ | ⟨old, hold, rfl⟩ | ⟨hnew, rfl⟩
        · exact .inl ⟨hne, List.mem_cons_of_mem _ hp⟩
        · exact .inr (.inl ⟨old, List.mem_cons_of_mem _ hold, rfl⟩)
        · exact .inr (.inr ⟨List.not_mem_cons_of_ne_of_not_mem hsame hnew, rfl⟩)

/-! ### The ledger of all functions -/

/-- The ledger has the uses of each name, in order, and no other names. -/
structure Records (occ : List (Text × ArgumentUse)) (ledger : UseLedger) : Prop where
  names_pairwise : (ledger.map Prod.fst).Pairwise Precedes
  mem_names : ∀ name, name ∈ ledger.map Prod.fst ↔ name ∈ occ.map Prod.fst
  uses_eq : ∀ p ∈ ledger, p.2 = usesIn occ p.1

theorem Records.add {occ : List (Text × ArgumentUse)} {ledger : UseLedger} (h : Records occ ledger) (name : Text)
    (use : ArgumentUse) : Records (occ ++ [(name, use)]) (UseLedger.add name use ledger) where
  names_pairwise := pairwise_add h.names_pairwise
  mem_names := by
    intro key
    rw [mem_map_fst_add, h.mem_names, List.map_append, List.mem_append, List.map_singleton, List.mem_singleton]
    exact or_comm
  uses_eq := by
    intro p hp
    rw [usesIn_concat]
    rcases mem_add_cases h.names_pairwise hp with ⟨hne, hp⟩ | ⟨old, hold, rfl⟩ | ⟨hnew, rfl⟩
    · rw [if_neg hne]
      exact h.uses_eq p hp
    · rw [if_pos rfl, ← h.uses_eq _ hold]
    · rw [if_pos rfl, usesIn_eq_nil fun hname => hnew ((h.mem_names name).2 hname)]
      rfl

theorem records_foldl_add (occ : List (Text × ArgumentUse)) :
    Records occ (occ.foldl (fun ledger o => UseLedger.add o.1 o.2 ledger) []) := by
  induction occ using List.reverseRecOn with
  | nil => exact ⟨List.Pairwise.nil, fun _ => Iff.rfl, by simp⟩
  | append_singleton occ o ih =>
    rw [List.foldl_append]
    exact ih.add o.1 o.2

/-- The ledger of functions has all uses of their arguments' names. -/
theorem records_ofFunctions (fs : List BoundFunction) : Records (occurrences fs) (ofFunctions fs) := by
  rw [ofFunctions_eq_foldl]
  exact records_foldl_add (occurrences fs)

theorem Records.mem_iff {occ : List (Text × ArgumentUse)} {ledger : UseLedger} (h : Records occ ledger) {name : Text}
    {uses : List ArgumentUse} :
    (name, uses) ∈ ledger ↔ name ∈ occ.map Prod.fst ∧ uses = usesIn occ name := by
  constructor
  · intro hp
    exact ⟨(h.mem_names name).1 (List.mem_map_of_mem hp), h.uses_eq _ hp⟩
  · rintro ⟨hname, rfl⟩
    obtain ⟨p, hp, rfl⟩ := List.mem_map.1 ((h.mem_names name).2 hname)
    rw [← h.uses_eq p hp]
    exact hp

/-! ### The report -/

/-- The names that the report is about: all but the receiver's. -/
def reportedNames (ledger : UseLedger) : List Text := (ledger.map Prod.fst).filter fun name => name != "THIS".toList

/-- Of the names that are reported on, those whose uses have a property are those of the entries that have it. -/
private theorem filter_reported {ledger : UseLedger} {uses : Text → List ArgumentUse}
    (h : ∀ p ∈ ledger, p.2 = uses p.1) (P : List ArgumentUse → Bool) :
    (ledger.reported.filter fun p => P p.2) =
      ((reportedNames ledger).filter fun name => P (uses name)).map fun name => (name, uses name) := by
  have hledger : ledger = (ledger.map Prod.fst).map fun name => (name, uses name) := by
    rw [List.map_map]
    conv => lhs; rw [← List.map_id ledger]
    exact List.map_congr_left fun p hp => Prod.ext rfl (h p hp)
  have hreported : ledger.reported = (reportedNames ledger).map fun name => (name, uses name) := by
    rw [reported, reportedNames]
    conv => lhs; rw [hledger]
    rw [List.filter_map]
    rfl
  rw [hreported, List.filter_map]
  rfl

/-- The report warns of each name with an untyped use, shows all its uses, and counts the names of both kinds. -/
theorem report_eq {ledger : UseLedger} {uses : Text → List ArgumentUse} (h : ∀ p ∈ ledger, p.2 = uses p.1)
    (scope : Text) :
    let errors := (reportedNames ledger).filter fun name => isUntyped (uses name)
    let found := (reportedNames ledger).filter fun name => !isUntyped (uses name)
    report scope ledger =
      ⟨.info, .report, "==========".toList ++ scope ++ "==========".toList⟩ ::
        errors.map (fun name => warning name (uses name)) ++
        [⟨.info, .report, Text.ofNat found.length ++ " functions properly identified, ".toList ++
          Text.ofNat errors.length ++ " have errors".toList⟩] := by
  intro errors found
  have herrors := filter_reported h isUntyped
  have hfound := filter_reported h fun uses => !isUntyped uses
  unfold report
  rw [List.partition_eq_filter_filter]
  simp only [Function.comp_def, herrors, hfound, List.map_map, List.length_map]
  rfl

theorem origin_of_mem_report {scope : Text} {ledger : UseLedger} :
    ∀ entry ∈ report scope ledger, entry.origin = .report := by
  unfold report
  rw [List.partition_eq_filter_filter]
  intro entry hentry
  rcases List.mem_append.1 hentry with hentry | hcounts
  · rcases List.mem_cons.1 hentry with rfl | hwarning
    · rfl
    · obtain ⟨p, -, rfl⟩ := List.mem_map.1 hwarning
      rfl
  · rw [List.mem_singleton.1 hcounts]

end UseLedger

/-! ### The log of the lines -/

namespace Declared

theorem origin_of_argumentWarning? {l : Line} {a : Argument} {i : Nat} {entry : Log.Entry}
    (h : argumentWarning? l a i = some entry) : entry.origin = .scan := by
  unfold argumentWarning? at h
  split at h
  · obtain ⟨-, hwarning⟩ := Option.ite_none_right_eq_some.1 h
    exact Option.some.inj hwarning ▸ rfl
  · cases h

theorem origin_of_mem_warnings_readAll (v : Vocabulary) (lines : List Line) {d : Declared}
    (hd : ∀ entry ∈ d.warnings, entry.origin = .scan) :
    ∀ entry ∈ (d.readAll v lines).warnings, entry.origin = .scan := by
  induction lines generalizing d with
  | nil => exact hd
  | cons l lines ih =>
    refine ih (d := d.read v l) ?_
    intro entry hentry
    rcases List.mem_append.1 hentry with hold | hnew
    · exact hd entry hold
    · obtain ⟨p, -, hwarning⟩ := List.mem_filterMap.1 hnew
      exact origin_of_argumentWarning? hwarning

end Declared

namespace Scan

theorem origin_of_mem_rosterLog {ds : List Declared} (hds : ∀ d ∈ ds, ∀ entry ∈ d.warnings, entry.origin = .scan)
    (r : Roster) : ∀ entry ∈ rosterLog r ds, entry.origin = .scan := by
  induction ds generalizing r with
  | nil => simp [rosterLog]
  | cons d ds ih =>
    obtain ⟨hd, hds⟩ := List.forall_mem_cons.1 hds
    intro entry hentry
    rcases List.mem_append.1 hentry with hentry | hlater
    · rcases List.mem_append.1 hentry with hwarning | hskipped
      · exact hd entry hwarning
      · rw [Option.mem_toList, Roster.skipped] at hskipped
        obtain ⟨-, hentry⟩ := Option.ite_none_right_eq_some.1 hskipped
        exact Option.some.inj hentry ▸ rfl
    · exact ih hds _ entry hlater

theorem origin_of_mem_warnings {v : Vocabulary} {events : Bool} {text : Text} {d : Declared}
    (hd : d ∈ declarations v events text) : ∀ entry ∈ d.warnings, entry.origin = .scan := by
  obtain ⟨k, hk⟩ := List.getElem?_of_mem hd
  obtain ⟨o, usage, seg, -, -, rfl, -, -⟩ := exists_segment hk
  exact Declared.origin_of_mem_warnings_readAll v seg (by simp [Declared.ofUsage])

/-- What the log says about names comes from the report alone. -/
theorem filter_origin_log (v : Vocabulary) (events : Bool) (source : Source) (text : Text) :
    ((ofText v events source text).log.filter fun entry => entry.origin == .report) =
      UseLedger.report source.scope (ofText v events source text).uses := by
  have hroster : (rosterLog [] (declarations v events text)).filter (fun entry => entry.origin == .report) = [] := by
    rw [List.filter_eq_nil_iff]
    intro entry hentry
    rw [origin_of_mem_rosterLog (fun d hd => origin_of_mem_warnings hd) [] entry hentry]
    decide
  have hreport : ∀ entry ∈ UseLedger.report source.scope (ofText v events source text).uses,
      (entry.origin == .report) = true := by
    intro entry hentry
    rw [UseLedger.origin_of_mem_report entry hentry]
    decide
  rw [log_ofText, List.filter_append, hroster, List.nil_append, List.filter_eq_self.2 hreport]

/-- The ledger has every use of every argument of every declaration, be it kept by the roster or not, and whatever its
name stands for.  A declaration is a usage message with what the lines of its segment tell about it; the name of an
argument is what is written without brackets.  For each name the ledger has the uses in the order of the declarations,
and within one in the order of its arguments; the names stand in order, none twice, and no other names occur.  The
report is about each name but the receiver's.  It warns once of a name with an untyped use, showing all uses, and
counts it as an error; every other name it counts as identified. -/
theorem uses_of_every_declaration (v : Vocabulary) (events : Bool) (source : Source) (text : Text) :
    let scan := ofText v events source text
    let os := openings events text
    let fs := (declarations v events text).map Declared.function
    let uses := UseLedger.usesOf fs
    let names := (scan.uses.map Prod.fst).filter fun name => name != "THIS".toList
    let errors := names.filter fun name => UseLedger.isUntyped (uses name)
    let found := names.filter fun name => !UseLedger.isUntyped (uses name)
    (fs.length = os.length ∧ ∀ k o f, os[k]? = some o → fs[k]? = some f →
      ∃ usage seg, o.Opens usage ∧ f = ((Declared.ofUsage v usage).readAll v seg).function ∧
        seg.Pairwise (fun l l' => l.number < l'.number) ∧ (∀ l, l ∈ seg ↔ InSegment events text k l) ∧
        f.name = usage.name ∧ f.arguments.map Argument.name =
          usage.arguments.map fun written => written.filter fun c => !Argument.isBracket c) ∧
    (scan.uses.map Prod.fst).Pairwise (fun m n => Text.le m n = true ∧ m ≠ n) ∧
    (∀ name list, (name, list) ∈ scan.uses ↔
      (∃ f ∈ fs, ∃ a ∈ f.arguments, a.name = name) ∧ list = uses name) ∧
    (scan.log.filter fun entry => entry.origin == .report) =
      ⟨.info, .report, "==========".toList ++ source.scope ++ "==========".toList⟩ ::
        errors.map (fun name => UseLedger.warning name (uses name)) ++
        [⟨.info, .report, Text.ofNat found.length ++ " functions properly identified, ".toList ++
          Text.ofNat errors.length ++ " have errors".toList⟩] ∧
    errors.length + found.length = names.length := by
  intro scan os fs uses names errors found
  have hrecords : UseLedger.Records (UseLedger.occurrences fs) scan.uses := by
    rw [show scan.uses = UseLedger.ofFunctions fs from uses_ofText v events source text]
    exact UseLedger.records_ofFunctions fs
  refine ⟨⟨?_, ?_⟩, hrecords.names_pairwise, ?_, ?_, ?_⟩
  · rw [List.length_map]
    exact length_declarations v events text
  · intro k o f ho hf
    rw [List.getElem?_map, Option.map_eq_some_iff] at hf
    obtain ⟨d, hd, rfl⟩ := hf
    obtain ⟨o', usage, seg, ho', hopens, rfl, hsorted, hmem⟩ := exists_segment hd
    obtain rfl : o' = o := Option.some.inj (ho'.symm.trans ho)
    refine ⟨usage, seg, hopens, rfl, hsorted, hmem, Declared.readAll_name v seg _, ?_⟩
    rw [Declared.readAll_arguments_map v seg _ fun name _ => name]
    simp [Declared.ofUsage, BoundFunction.ofUsage, Argument.ofWritten]
  · intro name list
    rw [hrecords.mem_iff, UseLedger.mem_map_fst_occurrences]
    rfl
  · rw [filter_origin_log]
    exact UseLedger.report_eq hrecords.uses_eq source.scope
  · exact (List.length_eq_length_filter_add _).symm

/-- Of two declarations of one function the roster keeps the fuller one, and the ledger has the uses of both. -/
theorem uses_of_every_declaration_replaced :
    let scan := ofText ⟨[], [], [], [], []⟩ true ⟨[], "Mob".toList, none⟩
      ("Perl_croak(aTHX_ \"Usage: Mob::Say(a)\");\nint a = ST(0);\n" ++
        "Perl_croak(aTHX_ \"Usage: Mob::Say(a, [a])\");").toList
    scan.functions.length = 1 ∧
      ("a".toList, [⟨"Mob::Say".toList, some .int⟩, ⟨"Mob::Say".toList, none⟩, ⟨"Mob::Say".toList, none⟩]) ∈
        scan.uses := by
  intro scan
  obtain ⟨-, -, hledger, -⟩ := uses_of_every_declaration ⟨[], [], [], [], []⟩ true ⟨[], "Mob".toList, none⟩
    ("Perl_croak(aTHX_ \"Usage: Mob::Say(a)\");\nint a = ST(0);\n" ++
      "Perl_croak(aTHX_ \"Usage: Mob::Say(a, [a])\");").toList
  exact ⟨by decide +kernel, (hledger _ _).2 ⟨by decide +kernel, by decide +kernel⟩⟩

end Scan

end BindingDocs
