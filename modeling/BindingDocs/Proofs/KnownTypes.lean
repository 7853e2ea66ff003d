import BindingDocs.Proofs.ScanFunctions

/-!
# Known types

An argument whose name the vocabulary knows has the type that is known (`HasKnownType`).  Every stage of a scan
keeps this: an argument begins with the type of its written name, a line of the segment gives a type only to an
argument that has none (`HasKnownType.read`), the roster changes no declaration, and an argument that loses
the type in front of its name is looked up again under the name that stays (`hasKnownType_renameArgument`).
-/

namespace BindingDocs

variable {v : Vocabulary}

namespace Argument

/-- The argument has the type that the vocabulary knows for its name, if it knows one. -/
def HasKnownType (v : Vocabulary) (a : Argument) : Prop :=
  ∀ type, v.argumentType? a.name = some type → a.type? = some type

theorem hasKnownType_ofWritten (v : Vocabulary) (written : Text) : (ofWritten v written).HasKnownType v :=
  fun _ h => h

/-- A type that only fills in for a missing one does not replace the known one. -/
theorem HasKnownType.or {a : Argument} (h : a.HasKnownType v) (type? : Option ValueType) :
    HasKnownType v { a with type? := a.type?.or type? } := by
  intro type ht
  have hknown : a.type? = some type := h type ht
  simp only [hknown, Option.some_or]

end Argument

namespace BoundFunction

/-- Every argument of the function has its known type. -/
def HasKnownTypes (v : Vocabulary) (f : BoundFunction) : Prop := ∀ a ∈ f.arguments, a.HasKnownType v

theorem hasKnownTypes_ofUsage (v : Vocabulary) (usage : Usage) : (ofUsage v usage).HasKnownTypes v := by
  intro a ha
  obtain ⟨written, -, rfl⟩ := List.mem_map.1 ha
  exact Argument.hasKnownType_ofWritten v written

end BoundFunction

namespace Declared

/-- A line declares a type only for arguments that have none. -/
theorem hasKnownTypes_read {d : Declared} (h : d.function.HasKnownTypes v) (l : Line) :
    (d.read v l).function.HasKnownTypes v := by
  intro a ha
  obtain ⟨⟨a', i⟩, hmem, rfl⟩ := List.mem_map.1 ha
  rw [readArgument_eq]
  exact (h a' (List.mem_of_getElem? (List.mem_zipIdx_iff_getElem?.1 hmem))).or _

theorem hasKnownTypes_readAll {d : Declared} (h : d.function.HasKnownTypes v) (lines : List Line) :
    (d.readAll v lines).function.HasKnownTypes v := by
  induction lines generalizing d with
  | nil => exact h
  | cons l lines ih => exact ih (hasKnownTypes_read h l)

end Declared

namespace ScriptName

/-- An argument with another name is looked up again, and one that keeps its name keeps its type. -/
theorem hasKnownType_renameArgument {a : Argument} (h : a.HasKnownType v) :
    (renameArgument v a).HasKnownType v := by
  unfold renameArgument
  split
  · rename_i last _
    split
    · exact h
    · intro type ht
      have hknown : v.argumentType? last = some type := ht
      simp only [hknown, Option.some_or]
  · exact h

theorem hasKnownTypes_renamed {f : BoundFunction} (h : f.HasKnownTypes v) (source : Source) :
    (renamed v source f).HasKnownTypes v := by
  intro a ha
  obtain ⟨a', ha', rfl⟩ := List.mem_map.1 ha
  exact hasKnownType_renameArgument (h a' ha')

end ScriptName

namespace Scan

theorem hasKnownTypes_of_mem_declarations {events : Bool} {text : Text} {d : Declared}
    (hd : d ∈ declarations v events text) : d.function.HasKnownTypes v := by
  obtain ⟨-, -, usage, seg, -, rfl⟩ := exists_opening_of_mem_declarations hd
  exact Declared.hasKnownTypes_readAll (BoundFunction.hasKnownTypes_ofUsage v usage) seg

/-- An argument of a function of a scan has the type that the vocabulary knows for its name, if it knows one,
whatever the lines behind the usage message declare. -/
theorem argument_type_of_known (v : Vocabulary) (events : Bool) (source : Source) (text : Text)
    {f : BoundFunction} (hf : f ∈ (ofText v events source text).functions) {a : Argument} (ha : a ∈ f.arguments)
    {type : ValueType} (h : v.argumentType? a.name = some type) : a.type? = some type := by
  obtain ⟨d, hd, -, hrenamed⟩ := mem_functions.1 hf
  obtain ⟨-, rfl⟩ := ScriptName.ofFunction?_eq_some_iff.1 hrenamed
  exact ScriptName.hasKnownTypes_renamed (hasKnownTypes_of_mem_declarations hd) source a ha type h

/-- The name is written with a type and brackets, the function is declared twice, and a line declares another type.
-/
theorem argument_type_of_known_float_declared :
    ∃ f ∈ (ofText ⟨[], [], [], [("id".toList, .int)], []⟩ false ⟨[], "A".toList, none⟩
        ("Perl_croak(aTHX_ \"Usage: A::f()\");\nPerl_croak(aTHX_ \"Usage: A::f(uint32 [id])\");\n" ++
          "float id = ST(0);").toList).functions,
      ∃ a ∈ f.arguments, a.name = "id".toList ∧ a.type? = some .int := by
  have hf : (⟨"$a->".toList, "f".toList, "A".toList, none, [⟨"id".toList, some .int, true⟩]⟩ : BoundFunction) ∈
      (ofText ⟨[], [], [], [("id".toList, .int)], []⟩ false ⟨[], "A".toList, none⟩
        ("Perl_croak(aTHX_ \"Usage: A::f()\");\nPerl_croak(aTHX_ \"Usage: A::f(uint32 [id])\");\n" ++
          "float id = ST(0);").toList).functions := by
    decide +kernel
  exact ⟨_, hf, _, List.mem_singleton_self _, rfl,
    argument_type_of_known _ _ _ _ hf (List.mem_singleton_self _) (by decide)⟩

end Scan

end BindingDocs
