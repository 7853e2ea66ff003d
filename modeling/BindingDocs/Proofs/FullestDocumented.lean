import BindingDocs.Proofs.OutlineByScope
import BindingDocs.Proofs.ScanFunctions
import BindingDocs.Proofs.SortedByName
import BindingDocs.Run

/-!
# The documented declaration

A function may be declared many times, and the catalog has one entry for it.  If one source has all its declarations
and they all have one name in the usage messages, then the entry documents the earliest of those with the most
arguments (`fullest_documented`).  The catalog takes the first function that comes, so this rests on every stage
before it: the roster keeps that declaration in front of all others of the name (`FirstFullest.find?_ofList`), script
names depend on the name in the usage message alone (`binds_iff_of_name_eq`), and sorting does not reorder functions
of one name (`filter_sortFunctions`).
-/

namespace BindingDocs

/-! ### Sorted functions -/

/-- Sorting leaves the functions of one name in their order. -/
theorem filter_sortFunctions (fs : List BoundFunction) (name : Text) :
    ((sortFunctions fs).filter fun f => f.name == name) = fs.filter fun f => f.name == name :=
  filter_mergeSort_name fs name

theorem find?_sortFunctions (fs : List BoundFunction) (scope name : Text) :
    ((sortFunctions fs).find? fun f => f.scope == scope && f.name == name) =
      fs.find? fun f => f.scope == scope && f.name == name := by
  have hfind : ∀ gs : List BoundFunction, (gs.find? fun f => f.scope == scope && f.name == name) =
      (gs.filter fun f => f.name == name).find? fun f => f.scope == scope := by
    intro gs
    rw [List.find?_filter]
    congr 1
    funext f
    rw [Bool.decide_and, Bool.decide_eq_true, Bool.decide_eq_true, Bool.and_comm]
  rw [hfind, filter_sortFunctions, ← hfind]

/-! ### Script names -/

namespace ScriptName

variable {v : Vocabulary} {source : Source} {scope name : Text}

/-- The declaration `f` of a source is one of the function `name` of `scope`. -/
def Binds (v : Vocabulary) (source : Source) (scope name : Text) (f : BoundFunction) : Prop :=
  ∃ g ∈ ofFunction? v source f, g.scope = scope ∧ g.name = name

instance (f : BoundFunction) : Decidable (Binds v source scope name f) :=
  inferInstanceAs (Decidable (∃ g ∈ ofFunction? v source f, g.scope = scope ∧ g.name = name))

theorem binds_iff {f : BoundFunction} :
    Binds v source scope name f ↔
      isPlaceholder (Text.trim f.name) = false ∧
        (renamed v source f).scope = scope ∧ (renamed v source f).name = name := by
  unfold Binds
  simp only [Option.mem_def, ofFunction?_eq_some_iff]
  constructor
  · rintro ⟨g, ⟨hwhole, rfl⟩, hscope, hname⟩
    exact ⟨hwhole, hscope, hname⟩
  · rintro ⟨hwhole, hscope, hname⟩
    exact ⟨_, ⟨hwhole, rfl⟩, hscope, hname⟩

/-- Which function a declaration is of depends on the name in the usage message alone. -/
theorem binds_iff_of_name_eq {f g : BoundFunction} (hname : f.name = g.name) (hreceiver : f.receiver = g.receiver) :
    Binds v source scope name f ↔ Binds v source scope name g := by
  have hin : receiverIn source f (Text.trim g.name) = receiverIn source g (Text.trim g.name) := by
    unfold receiverIn
    rw [hreceiver]
  rw [binds_iff, binds_iff]
  simp only [renamed, hname, hin]

theorem any_ofFunction?_eq_true_iff {f : BoundFunction} :
    ((ofFunction? v source f).any fun g => g.scope == scope && g.name == name) = true ↔
      Binds v source scope name f := by
  simp only [Binds, Option.any_eq_true, Option.mem_def, Bool.and_eq_true, beq_iff_eq]

end ScriptName

/-! ### One source -/

namespace Scan

variable {v : Vocabulary} {events : Bool} {source : Source} {text scope name : Text}

theorem find?_functions_eq_none
    (h : ∀ d ∈ declarations v events text, ¬ ScriptName.Binds v source scope name d.function) :
    ((ofText v events source text).functions.find? fun g => g.scope == scope && g.name == name) = none := by
  rw [List.find?_eq_none]
  intro g hg hfor
  obtain ⟨d, hd, -, hrenamed⟩ := mem_functions.1 hg
  simp only [Bool.and_eq_true, beq_iff_eq] at hfor
  exact h d hd ⟨g, hrenamed, hfor⟩

theorem binds_iff_of_mem_declarations {d e : Declared} (hd : d ∈ declarations v events text)
    (he : e ∈ declarations v events text) (hname : e.function.name = d.function.name) :
    ScriptName.Binds v source scope name e.function ↔ ScriptName.Binds v source scope name d.function := by
  have hreceiver : e.function.receiver = d.function.receiver := by
    rw [receiver_of_mem_declarations he, receiver_of_mem_declarations hd]
  exact ScriptName.binds_iff_of_name_eq hname hreceiver

/-- If all declarations of a function have one name in their usage messages, then its first record is made from the
earliest of those with the most arguments. -/
theorem find?_functions {d : Declared} (hd : d ∈ declarations v events text)
    (hbinds : ScriptName.Binds v source scope name d.function)
    (hsame : ∀ e ∈ declarations v events text, ScriptName.Binds v source scope name e.function →
      e.function.name = d.function.name) {i : Nat} {f : BoundFunction}
    (hfirst : Roster.FirstFullest ((declarations v events text).map Declared.function) i f)
    (hname : f.name = d.function.name) :
    ((ofText v events source text).functions.find? fun g => g.scope == scope && g.name == name) =
      ScriptName.ofFunction? v source f := by
  -- among the declarations that are kept, those of the function are those of the name
  have hkept : ∀ h ∈ Roster.ofList ((declarations v events text).map Declared.function),
      ((ScriptName.ofFunction? v source h).any fun g => g.scope == scope && g.name == name) = (h.name == f.name) := by
    intro h hh
    obtain ⟨e, he, rfl⟩ := List.mem_map.1 (Roster.mem_ofList.1 hh).1
    rw [Bool.eq_iff_iff, ScriptName.any_ofFunction?_eq_true_iff, beq_iff_eq, hname]
    exact ⟨hsame e he, fun hename => (binds_iff_of_mem_declarations hd he hename).2 hbinds⟩
  rw [functions_ofText, List.find?_filterMap, ← List.head?_filter, List.filter_congr hkept, List.head?_filter,
    hfirst.find?_ofList]
  rfl

end Scan

/-! ### All sources -/

namespace Findings

/-- What the texts of sources document together. -/
def ofTexts (v : Vocabulary) (events : Bool) (sources : List (Source × Text)) : Findings :=
  sources.foldl (fun found p => found.add (Scan.ofText v events p.1 p.2)) .empty

variable {v : Vocabulary} {events : Bool} {scope name : Text}

theorem functions_ofTexts (sources : List (Source × Text)) :
    (ofTexts v events sources).functions = sources.flatMap fun p => (Scan.ofText v events p.1 p.2).functions := by
  induction sources using List.reverseRecOn with
  | nil => rfl
  | append_singleton sources p ih =>
    rw [ofTexts, List.foldl_append, ← ofTexts, List.flatMap_append, ← ih, List.flatMap_singleton]
    rfl

/-- Other sources do not matter if they have no declaration of the function. -/
theorem find?_functions_ofTexts {before after : List (Source × Text)}
    (hothers : ∀ p ∈ before ++ after, ∀ d ∈ Scan.declarations v events p.2,
      ¬ ScriptName.Binds v p.1 scope name d.function) (source : Source) (text : Text) :
    ((ofTexts v events (before ++ (source, text) :: after)).functions.find? fun g =>
        g.scope == scope && g.name == name) =
      (Scan.ofText v events source text).functions.find? fun g => g.scope == scope && g.name == name := by
  have hnone : ∀ sources : List (Source × Text), (∀ p ∈ sources, p ∈ before ++ after) →
      ((sources.flatMap fun p => (Scan.ofText v events p.1 p.2).functions).find? fun g =>
        g.scope == scope && g.name == name) = none := by
    intro sources hsources
    rw [List.find?_flatMap, List.findSome?_eq_none_iff]
    exact fun p hp => Scan.find?_functions_eq_none (hothers p (hsources p hp))
  rw [functions_ofTexts, List.flatMap_append, List.flatMap_cons, List.find?_append, List.find?_append,
    hnone before fun p hp => List.mem_append_left _ hp, hnone after fun p hp => List.mem_append_right _ hp,
    Option.none_or, Option.or_none]

/-- If one source has all declarations of a function, and all of these have one name in their usage messages, then
the catalog has one entry for it, which documents the earliest of those with the most arguments. -/
theorem fullest_documented (v : Vocabulary) (events : Bool) (before after : List (Source × Text)) (source : Source)
    (text scope name raw : Text) (hscope : scope ≠ [])
    (hdeclared : ∃ d ∈ Scan.declarations v events text, ScriptName.Binds v source scope name d.function)
    (hraw : ∀ d ∈ Scan.declarations v events text, ScriptName.Binds v source scope name d.function →
      d.function.name = raw)
    (hothers : ∀ p ∈ before ++ after, ∀ d ∈ Scan.declarations v events p.2,
      ¬ ScriptName.Binds v p.1 scope name d.function) :
    ∃ i f g, Roster.FirstFullest ((Scan.declarations v events text).map Declared.function) i f ∧ f.name = raw ∧
      ScriptName.ofFunction? v source f = some g ∧ g.scope = scope ∧ g.name = name ∧
      Outline.entriesFor ((ofTexts v events (before ++ (source, text) :: after)).sorted.outline v).catalog
        scope name = [g.entry v] := by
  obtain ⟨d, hd, hbinds⟩ := hdeclared
  have hdraw := hraw d hd hbinds
  obtain ⟨i, f, hfirst, hname⟩ := Roster.exists_firstFullest (List.mem_map_of_mem (f := Declared.function) hd)
  obtain ⟨e, he, rfl⟩ := List.mem_map.1 (List.mem_of_getElem? hfirst.getElem?)
  obtain ⟨g, hg, hgscope, hgname⟩ := (Scan.binds_iff_of_mem_declarations hd he hname).2 hbinds
  refine ⟨i, e.function, g, hfirst, hname.trans hdraw, hg, hgscope, hgname, ?_⟩
  apply Outline.entriesFor_ofRecords hscope
  calc (sortFunctions (ofTexts v events (before ++ (source, text) :: after)).functions).find?
        (fun h => h.scope == scope && h.name == name)
      = (ofTexts v events (before ++ (source, text) :: after)).functions.find?
          (fun h => h.scope == scope && h.name == name) := find?_sortFunctions _ _ _
    _ = (Scan.ofText v events source text).functions.find? (fun h => h.scope == scope && h.name == name) :=
        find?_functions_ofTexts hothers source text
    _ = ScriptName.ofFunction? v source e.function :=
        Scan.find?_functions hd hbinds (fun e' he' hb => (hraw e' he' hb).trans hdraw.symm) hfirst hname
    _ = some g := hg

/-- The second of three declarations is documented, though another source has a function of the same script name with
more arguments. -/
theorem fullest_documented_second_of_three :
    Outline.entriesFor
        ((ofTexts ⟨[], [], [], [], []⟩ false
          [(⟨[], "NPC".toList, none⟩, "Perl_croak(aTHX_ \"Usage: NPC::Hit(a, b)\");".toList),
            (⟨[], "Mob".toList, none⟩,
              ("Perl_croak(aTHX_ \"Usage: Mob::Hit()\");\n" ++
                "Perl_croak(aTHX_ \"Usage: Mob::Hit(x)\");\nfloat x = ST(0);\n" ++
                "Perl_croak(aTHX_ \"Usage: Mob::Hit(y)\");").toList)]).sorted.outline ⟨[], [], [], [], []⟩).catalog
        "Mob".toList "Hit".toList =
      [(⟨"$mob->".toList, "Hit".toList, "Mob".toList, none, [⟨"x".toList, some .float, false⟩]⟩ : BoundFunction).entry
        ⟨[], [], [], [], []⟩] := by
  obtain ⟨i, f, g, hfirst, hname, hg, -, -, hentries⟩ :=
    fullest_documented ⟨[], [], [], [], []⟩ false
      [(⟨[], "NPC".toList, none⟩, "Perl_croak(aTHX_ \"Usage: NPC::Hit(a, b)\");".toList)] []
      ⟨[], "Mob".toList, none⟩
      ("Perl_croak(aTHX_ \"Usage: Mob::Hit()\");\n" ++
        "Perl_croak(aTHX_ \"Usage: Mob::Hit(x)\");\nfloat x = ST(0);\n" ++
        "Perl_croak(aTHX_ \"Usage: Mob::Hit(y)\");").toList
      "Mob".toList "Hit".toList "Mob::Hit".toList
      (by decide) (by decide +kernel) (by decide +kernel) (by decide +kernel)
  have hfind := hfirst.find?_ofList
  rw [hname] at hfind
  obtain rfl : f = ⟨[], "Mob::Hit".toList, [], none, [⟨"x".toList, some .float, false⟩]⟩ :=
    Option.some.inj (hfind.symm.trans (by decide +kernel))
  obtain rfl : g = ⟨"$mob->".toList, "Hit".toList, "Mob".toList, none, [⟨"x".toList, some .float, false⟩]⟩ :=
    Option.some.inj (hg.symm.trans (by decide +kernel))
  exact hentries

end Findings

end BindingDocs
