import BindingDocs.Proofs.ScanFunctions

/-!
# Placeholders for names

A usage message whose name is `%s` names no function, and none is made from it.  The whole name is looked at,
though, before the name space, what follows an arrow, and the sigil are taken off (`bareOf_eq`).  So a function of a
scan has a placeholder for a name exactly if some usage message has a name of which no more than that is left
(`placeholder_mem_functions_iff`); `Mob::` is one.
-/

namespace BindingDocs

namespace Text

/-- `before` is `s` up to the first `mark`, or all of `s` if there is no mark. -/
def IsBefore (mark s before : Text) : Prop :=
  (∃ rest, IsFirstCut mark s before rest) ∨ ¬ mark <:+: s ∧ before = s

/-- `rest` is what follows the first `mark` of `s`, or all of `s` if there is no mark. -/
def IsAfter (mark s rest : Text) : Prop :=
  (∃ before, IsFirstCut mark s before rest) ∨ ¬ mark <:+: s ∧ rest = s

theorem before_eq_iff {mark s b : Text} : before mark s = b ↔ IsBefore mark s b := by
  unfold before IsBefore
  simp only [← cut?_eq_some_iff, ← cut?_eq_none]
  cases cut? mark s with
  | none => simp [eq_comm]
  | some p => simp [Prod.ext_iff]

theorem isAfter_iff {mark s rest : Text} :
    IsAfter mark s rest ↔ (match cut? mark s with | some (_, rest) => rest | none => s) = rest := by
  unfold IsAfter
  simp only [← cut?_eq_some_iff, ← cut?_eq_none]
  cases cut? mark s with
  | none => simp [eq_comm]
  | some p => simp [Prod.ext_iff]

theorem exists_isBefore (mark s : Text) : ∃ before, IsBefore mark s before := ⟨_, before_eq_iff.1 rfl⟩

theorem exists_isAfter (mark s : Text) : ∃ rest, IsAfter mark s rest := ⟨_, isAfter_iff.2 rfl⟩

end Text

namespace ScriptName

/-- The text without one `$` at its beginning. -/
def dropSigil : Text → Text
  | '$' :: bare => bare
  | bare => bare

/-- The script name stands between the name space and the arrow, without the sigil. -/
theorem bareOf_eq {name rest core : Text} (hrest : Text.IsAfter "::".toList name rest)
    (hcore : Text.IsBefore "->".toList rest core) : bareOf name = dropSigil core := by
  rw [Text.isAfter_iff] at hrest
  rw [← Text.before_eq_iff] at hcore
  rw [← hcore, ← hrest]
  rfl

theorem isPlaceholder_iff {name : Text} : isPlaceholder name = true ↔ name = [] ∨ name = "%s".toList := by
  simp [isPlaceholder]

theorem isPlaceholder_dropSigil_iff {core : Text} :
    isPlaceholder (dropSigil core) = true ↔
      core ∈ [[], "$".toList, "%s".toList, "$%s".toList] := by
  rw [isPlaceholder_iff]
  unfold dropSigil
  split
  · simp
  · rename_i hsigil
    cases core with
    | nil => simp
    | cons c core =>
      have hc : c ≠ '$' := fun hc => hsigil core (hc ▸ rfl)
      simp [hc]

theorem isPlaceholder_bareOf_iff {name : Text} :
    isPlaceholder (bareOf name) = true ↔
      ∃ rest core, Text.IsAfter "::".toList name rest ∧ Text.IsBefore "->".toList rest core ∧
        core ∈ [[], "$".toList, "%s".toList, "$%s".toList] := by
  constructor
  · intro h
    obtain ⟨rest, hrest⟩ := Text.exists_isAfter "::".toList name
    obtain ⟨core, hcore⟩ := Text.exists_isBefore "->".toList rest
    rw [bareOf_eq hrest hcore] at h
    exact ⟨rest, core, hrest, hcore, isPlaceholder_dropSigil_iff.1 h⟩
  · rintro ⟨rest, core, hrest, hcore, h⟩
    rw [bareOf_eq hrest hcore]
    exact isPlaceholder_dropSigil_iff.2 h

end ScriptName

namespace Scan

/-- Some function of a scan has a placeholder for a name exactly if some usage message has a name that is no
placeholder itself, but of which only one is left between the name space and the arrow, without the sigil. -/
theorem placeholder_mem_functions_iff (v : Vocabulary) (events : Bool) (source : Source) (text : Text) :
    (∃ f ∈ (ofText v events source text).functions, f.name = [] ∨ f.name = "%s".toList) ↔
      ∃ o ∈ openings events text, ∃ usage, o.Opens usage ∧ ¬ (usage.name = [] ∨ usage.name = "%s".toList) ∧
        ∃ rest core, Text.IsAfter "::".toList usage.name rest ∧ Text.IsBefore "->".toList rest core ∧
          core ∈ [[], "$".toList, "%s".toList, "$%s".toList] := by
  simp only [← ScriptName.isPlaceholder_iff, ← ScriptName.isPlaceholder_bareOf_iff, Bool.not_eq_true]
  constructor
  · rintro ⟨f, hf, hname⟩
    obtain ⟨d, hd, -, hrenamed⟩ := mem_functions.1 hf
    obtain ⟨hwhole, rfl⟩ := ScriptName.ofFunction?_eq_some_iff.1 hrenamed
    have hbare : ScriptName.isPlaceholder (ScriptName.bareOf (Text.trim d.function.name)) = true := hname
    rw [trim_name_of_mem_declarations hd] at hwhole hbare
    obtain ⟨o, ho, usage, seg, hopens, rfl⟩ := exists_opening_of_mem_declarations hd
    rw [Declared.readAll_name] at hwhole hbare
    exact ⟨o, ho, usage, hopens, hwhole, hbare⟩
  · rintro ⟨o, ho, usage, hopens, hwhole, hbare⟩
    obtain ⟨d, hd, hdname⟩ := exists_declaration_of_mem_openings v ho hopens
    -- the roster may drop this declaration, but never all of its name
    obtain ⟨i, f, hfirst, hfname⟩ := Roster.exists_firstFullest (List.mem_map_of_mem (f := Declared.function) hd)
    obtain ⟨d', hd', rfl⟩ := List.mem_map.1 (List.mem_of_getElem? hfirst.getElem?)
    have htrim : Text.trim d'.function.name = usage.name := by
      rw [trim_name_of_mem_declarations hd', hfname, hdname]
    refine ⟨ScriptName.renamed v source d'.function, mem_functions.2 ⟨d', hd', hfirst.fullest, ?_⟩, ?_⟩
    · exact ScriptName.ofFunction?_eq_some_iff.2 ⟨by rw [htrim, hwhole], rfl⟩
    · show ScriptName.isPlaceholder (ScriptName.bareOf (Text.trim d'.function.name)) = true
      rw [htrim, hbare]

/-- A name space alone names no function, and yet one is made from it. -/
theorem exists_mem_functions_name_eq_nil :
    ∃ f ∈ (ofText ⟨[], [], [], [], []⟩ false ⟨[], "Mob".toList, none⟩
      "\tPerl_croak(aTHX_ \"Usage: Mob::()\");\n".toList).functions, f.name = [] :=
  ⟨⟨"$mob->".toList, [], "Mob".toList, none, []⟩, by decide +kernel, rfl⟩

end Scan

end BindingDocs
