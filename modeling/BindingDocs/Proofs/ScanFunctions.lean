import BindingDocs.Proofs.Fullest
import BindingDocs.Proofs.Segments

/-!
# The functions of a scan

A function of a scan is a declaration with the most arguments among those of its name, under its script name
(`mem_functions`).  The names of the declarations are those of the usage messages that open them
(`exists_opening_of_mem_declarations`, `exists_declaration_of_mem_openings`); they have no white space around them
(`trim_name_of_mem_declarations`).
-/

namespace BindingDocs

namespace Usage

theorem trim_name_of_read? {s : Text} {usage : Usage} (h : read? s = some usage) :
    Text.trim usage.name = usage.name := by
  unfold read? at h
  simp only [Option.ite_none_left_eq_some, Option.some.injEq] at h
  obtain ⟨-, rfl⟩ := h
  split <;> exact Text.trim_trim _

end Usage

namespace Line

theorem Opens.trim_name {l : Line} {usage : Usage} (h : l.Opens usage) : Text.trim usage.name = usage.name := by
  obtain ⟨before, rest, -, hread⟩ := h
  exact Usage.trim_name_of_read? hread

theorem Opens.unique {l : Line} {usage usage' : Usage} (h : l.Opens usage) (h' : l.Opens usage') :
    usage = usage' := by
  rw [← usageOfLine?_eq_some_iff] at h h'
  exact Option.some.inj (h.symm.trans h')

end Line

namespace Declared

theorem readAll_receiver (v : Vocabulary) (lines : List Line) (d : Declared) :
    (d.readAll v lines).function.receiver = d.function.receiver := by
  induction lines generalizing d with
  | nil => rfl
  | cons l lines ih => exact ih (d.read v l)

end Declared

namespace ScriptName

/-- The function under its script name, whether its name is that of a function or not. -/
def renamed (v : Vocabulary) (source : Source) (f : BoundFunction) : BoundFunction where
  receiver := receiverIn source f (Text.trim f.name)
  name := bareOf (Text.trim f.name)
  scope := Title.ofScope (scopeOf (receiverIn source f (Text.trim f.name)))
  returns := f.returns
  arguments := f.arguments.map (renameArgument v)

theorem ofFunction?_eq_some_iff {v : Vocabulary} {source : Source} {f g : BoundFunction} :
    ofFunction? v source f = some g ↔ isPlaceholder (Text.trim f.name) = false ∧ g = renamed v source f := by
  have h : ofFunction? v source f =
      if isPlaceholder (Text.trim f.name) = true then none else some (renamed v source f) := rfl
  rw [h, Option.ite_none_left_eq_some, Bool.not_eq_true, Option.some.injEq, eq_comm (a := g)]

end ScriptName

namespace Scan

variable {v : Vocabulary} {events : Bool} {source : Source} {text : Text}

theorem mem_functions {f : BoundFunction} :
    f ∈ (ofText v events source text).functions ↔
      ∃ d ∈ declarations v events text,
        Roster.Fullest ((declarations v events text).map Declared.function) d.function ∧
          ScriptName.ofFunction? v source d.function = some f := by
  rw [functions_ofText, List.mem_filterMap]
  constructor
  · rintro ⟨g, hg, hf⟩
    obtain ⟨hg, hfull⟩ := Roster.mem_ofList.1 hg
    obtain ⟨d, hd, rfl⟩ := List.mem_map.1 hg
    exact ⟨d, hd, hfull, hf⟩
  · rintro ⟨d, hd, hfull, hf⟩
    exact ⟨d.function, Roster.mem_ofList.2 ⟨List.mem_map_of_mem hd, hfull⟩, hf⟩

/-- Every declaration is read from an opening line and the lines of its segment. -/
theorem exists_opening_of_mem_declarations {d : Declared} (hd : d ∈ declarations v events text) :
    ∃ o ∈ openings events text, ∃ usage seg, o.Opens usage ∧ d = (Declared.ofUsage v usage).readAll v seg := by
  obtain ⟨k, hk⟩ := List.getElem?_of_mem hd
  obtain ⟨o, usage, seg, ho, hopens, rfl, -, -⟩ := exists_segment hk
  exact ⟨o, List.mem_of_getElem? ho, usage, seg, hopens, rfl⟩

/-- Every opening line opens a declaration. -/
theorem exists_declaration_of_mem_openings (v : Vocabulary) {o : Line} {usage : Usage}
    (ho : o ∈ openings events text) (hopens : o.Opens usage) :
    ∃ d ∈ declarations v events text, d.function.name = usage.name := by
  obtain ⟨k, hk⟩ := List.getElem?_of_mem ho
  have hlt : k < (declarations v events text).length := by
    rw [length_declarations]
    exact (List.getElem?_eq_some_iff.1 hk).1
  obtain ⟨o', usage', seg, ho', hopens', hd, -, -⟩ := exists_segment (List.getElem?_eq_getElem hlt)
  obtain rfl : o' = o := Option.some.inj (ho'.symm.trans hk)
  obtain rfl := hopens.unique hopens'
  refine ⟨_, List.getElem_mem hlt, ?_⟩
  rw [hd, Declared.readAll_name]
  rfl

theorem trim_name_of_mem_declarations {d : Declared} (hd : d ∈ declarations v events text) :
    Text.trim d.function.name = d.function.name := by
  obtain ⟨o, -, usage, seg, hopens, rfl⟩ := exists_opening_of_mem_declarations hd
  rw [Declared.readAll_name]
  exact hopens.trim_name

theorem receiver_of_mem_declarations {d : Declared} (hd : d ∈ declarations v events text) :
    d.function.receiver = [] := by
  obtain ⟨o, -, usage, seg, -, rfl⟩ := exists_opening_of_mem_declarations hd
  rw [Declared.readAll_receiver]
  rfl

end Scan

end BindingDocs
