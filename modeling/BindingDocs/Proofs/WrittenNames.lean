import BindingDocs.Proofs.EventsApart
import BindingDocs.Proofs.ScriptNames

/-!
# Names as they are written

What a scan calls a function and its arguments stands in one usage message (`exists_stems_of_mem_functions`).  A message
is cut at its parentheses and at commas, so the name of a function holds no parenthesis that opens
(`notMem_name_of_read?`), and an argument no comma and no parenthesis that closes (`notMem_argument_of_read?`).  An
argument is called by the last word of what is written, so white space is in its name only if nothing else is
(`IsWritten.isBlank_name`).
-/

namespace BindingDocs

/-! ### Pieces of texts -/

namespace Text

variable {s : Text} {c : Char}

theorem trim_sublist (s : Text) : (trim s).Sublist s :=
  (trimEnd_isPrefix _).sublist.trans (List.dropWhile_suffix isBlank).sublist

/-- What stands before the first mark does not hold it. -/
theorem not_infix_before {mark : Text} (hne : mark ≠ []) (s : Text) : ¬ mark <:+: before mark s := by
  rcases before_eq_iff.1 (rfl : before mark s = before mark s) with ⟨rest, hcut⟩ | ⟨hnone, hall⟩
  · have hamong : IsFirstCutAmong [mark] s (before mark s) := by
      refine ⟨⟨mark, List.mem_singleton_self mark, hcut.isPrefix⟩, fun mark' hmark' before' hbefore' => ?_⟩
      obtain rfl := List.mem_singleton.1 hmark'
      exact hcut.length_le hbefore'
    exact hamong.not_infix (List.mem_singleton_self mark) hne
  · rwa [hall]

theorem notMem_before (c : Char) (s : Text) : c ∉ before [c] s := fun hc =>
  not_infix_before (List.cons_ne_nil c []) s ((List.singleton_infix_iff c _).2 hc)

theorem before_isPrefix (mark s : Text) : before mark s <+: s := by
  rcases before_eq_iff.1 (rfl : before mark s = before mark s) with ⟨rest, hcut⟩ | ⟨-, hall⟩
  · exact (List.prefix_append _ _).trans hcut.isPrefix
  · rw [hall]

/-- The words of a text hold its characters, save white space. -/
theorem exists_mem_words_iff : (∃ word ∈ words s, c ∈ word) ↔ c ∈ s ∧ isBlank c = false := by
  rw [← exists_mem_splitOnP_iff]
  constructor
  · rintro ⟨word, hword, hc⟩
    exact ⟨word, (List.mem_filter.1 hword).1, hc⟩
  · rintro ⟨word, hword, hc⟩
    refine ⟨word, List.mem_filter.2 ⟨hword, ?_⟩, hc⟩
    rw [Bool.not_eq_true', List.isEmpty_eq_false_iff]
    exact List.ne_nil_of_mem hc

theorem lastWord_mem_words (h : ∃ c ∈ s, isBlank c = false) : lastWord s ∈ words s := by
  obtain ⟨word, hword, -⟩ := exists_mem_words_iff.2 h.choose_spec
  rw [lastWord, List.getLast?_eq_some_getLast (List.ne_nil_of_mem hword), Option.getD_some]
  exact List.getLast_mem _

theorem lastWord_of_blank (h : ¬ ∃ c ∈ s, isBlank c = false) : lastWord s = s := by
  have hnone : words s = [] := by
    refine List.eq_nil_iff_forall_not_mem.2 fun word hword => h ?_
    have hempty := (List.mem_filter.1 hword).2
    rw [Bool.not_eq_true', List.isEmpty_eq_false_iff] at hempty
    obtain ⟨c, hc⟩ := List.exists_mem_of_ne_nil word hempty
    exact ⟨c, exists_mem_words_iff.1 ⟨word, hword, hc⟩⟩
  rw [lastWord, hnone]
  rfl

theorem mem_of_mem_lastWord (h : c ∈ lastWord s) : c ∈ s := by
  by_cases hs : ∃ c ∈ s, isBlank c = false
  · exact (exists_mem_words_iff.1 ⟨_, lastWord_mem_words hs, h⟩).1
  · rwa [lastWord_of_blank hs] at h

/-- White space is in the last word only if nothing else is. -/
theorem isBlank_lastWord (h : ∃ c ∈ lastWord s, isBlank c = false) : ∀ c ∈ lastWord s, isBlank c = false := by
  obtain ⟨d, hd, hblank⟩ := h
  intro c hc
  exact (exists_mem_words_iff.1 ⟨_, lastWord_mem_words ⟨d, mem_of_mem_lastWord hd, hblank⟩, hc⟩).2

end Text

/-! ### Usage messages -/

namespace Usage

variable {s written piece : Text} {usage : Usage}

/-- A message is its name, up to the first parenthesis, and the arguments that are read from what follows. -/
theorem eq_of_read? (h : read? s = some usage) :
    usage.name = Text.trim (Text.before "(".toList (Text.before "\");".toList s)) ∧
      ∀ piece ∈ usage.arguments, ∃ written, piece ∈ readArguments written := by
  unfold read? at h
  simp only [Option.ite_none_left_eq_some, Option.some.injEq] at h
  obtain ⟨-, rfl⟩ := h
  split
  · rename_i name rest hcut
    have hbefore := Text.before_eq_iff.2 (.inl ⟨rest, Text.cut?_eq_some_iff.1 hcut⟩)
    exact ⟨congrArg Text.trim hbefore.symm, fun piece hpiece => ⟨rest, hpiece⟩⟩
  · rename_i hcut
    have hbefore := Text.before_eq_iff.2 (.inr ⟨Text.cut?_eq_none.1 hcut, rfl⟩)
    exact ⟨congrArg Text.trim hbefore.symm, fun piece hpiece => absurd hpiece List.not_mem_nil⟩

theorem notMem_name_of_read? (h : read? s = some usage) : '(' ∉ usage.name := by
  rw [(eq_of_read? h).1]
  exact fun hopen => Text.notMem_before '(' _ ((Text.trim_sublist _).subset hopen)

/-- The arguments are cut at commas, up to the first parenthesis that closes and the first equals sign. -/
theorem notMem_argument_of_read? (h : read? s = some usage) (hpiece : piece ∈ usage.arguments) :
    ',' ∉ piece ∧ ')' ∉ piece ∧ '=' ∉ piece := by
  obtain ⟨written, hwritten⟩ := (eq_of_read? h).2 piece hpiece
  obtain ⟨part, hpart, rfl⟩ := List.mem_map.1 (List.mem_filter.1 hwritten).1
  have hbefore {c : Char} (hc : c ∈ Text.trim part) :
      c ∈ Text.before "=".toList (Text.before ")".toList written) := by
    rw [List.splitOn_eq_splitOnP] at hpart
    have hmem := Text.exists_mem_splitOnP_iff.1 ⟨part, hpart, (Text.trim_sublist part).subset hc⟩
    exact (Text.trim_sublist _).subset hmem.1
  refine ⟨fun hc => ?_, fun hc => ?_, fun hc => ?_⟩
  · exact Text.not_mem_of_mem_splitOn hpart ((Text.trim_sublist part).subset hc)
  · exact Text.notMem_before ')' _ ((Text.before_isPrefix _ _).subset (hbefore hc))
  · exact Text.notMem_before '=' _ (hbefore hc)

end Usage

/-! ### Functions and arguments -/

namespace Argument

/-- The argument is called by the last word of what is written, without brackets and question marks, and is optional if
a bracket is closed there. -/
structure IsWritten (written : Text) (a : Argument) : Prop where
  name : a.name = Text.lastWord (written.filter fun c => !isBracket c)
  optional : a.optional = written.contains ']'

variable {written : Text} {a : Argument}

theorem IsWritten.mem_of_mem_name (h : IsWritten written a) {c : Char} (hc : c ∈ a.name) :
    c ∈ written ∧ isBracket c = false := by
  rw [h.name] at hc
  obtain ⟨hwritten, hbracket⟩ := List.mem_filter.1 (Text.mem_of_mem_lastWord hc)
  exact ⟨hwritten, by rwa [Bool.not_eq_true'] at hbracket⟩

theorem IsWritten.isBlank_name (h : IsWritten written a) (hname : ∃ c ∈ a.name, isBlank c = false) :
    ∀ c ∈ a.name, isBlank c = false := by
  rw [h.name] at hname ⊢
  exact Text.isBlank_lastWord hname

end Argument

namespace ScriptName

theorem bareOf_sublist (name : Text) : (bareOf name).Sublist name := by
  obtain ⟨rest, hrest⟩ := Text.exists_isAfter "::".toList name
  obtain ⟨core, hcore⟩ := Text.exists_isBefore "->".toList rest
  have hsuffix : rest.Sublist name := by
    rcases hrest with ⟨before, hcut⟩ | ⟨-, rfl⟩
    · rw [hcut.1]
      exact List.sublist_append_right _ _
    · exact List.Sublist.refl _
  have hfront : core.Sublist rest := by
    rw [← Text.before_eq_iff.2 hcore]
    exact (Text.before_isPrefix _ _).sublist
  have hsigil : (dropSigil core).Sublist core := by
    unfold dropSigil
    split
    · exact List.sublist_cons_self _ _
    · exact List.Sublist.refl _
  rw [bareOf_eq hrest hcore]
  exact hsigil.trans (hfront.trans hsuffix)

end ScriptName

namespace BoundFunction

/-- The function has the bare name of the usage message, and its arguments one by one. -/
structure Stems (usage : Usage) (f : BoundFunction) : Prop where
  name : f.name = ScriptName.bareOf usage.name
  arguments : List.Forall₂ Argument.IsWritten usage.arguments f.arguments

theorem Stems.exists_isWritten {usage : Usage} {f : BoundFunction} (h : f.Stems usage) {a : Argument}
    (ha : a ∈ f.arguments) : ∃ written ∈ usage.arguments, a.IsWritten written := by
  obtain ⟨i, hi, rfl⟩ := List.getElem_of_mem ha
  have hlt : i < usage.arguments.length := by rwa [h.arguments.length_eq]
  exact ⟨usage.arguments[i], List.getElem_mem hlt, h.arguments.get hlt hi⟩

end BoundFunction

namespace Scan

variable {v : Vocabulary} {events : Bool} {source : Source} {text : Text} {f : BoundFunction}

/-- The lines after a usage message change neither the names of the arguments nor which of them are optional. -/
theorem stems_renamed (v : Vocabulary) (source : Source) (usage : Usage) (h : Text.trim usage.name = usage.name)
    (lines : List Line) :
    (ScriptName.renamed v source ((Declared.ofUsage v usage).readAll v lines).function).Stems usage where
  name := by
    show ScriptName.bareOf (Text.trim _) = _
    rw [Declared.readAll_name]
    exact congrArg ScriptName.bareOf h
  arguments := by
    have hkept := Declared.readAll_arguments_map v lines (Declared.ofUsage v usage) Prod.mk
    have hpairs : (usage.arguments.map fun written =>
          ((Argument.ofWritten v written).name, (Argument.ofWritten v written).optional)) =
        ((Declared.ofUsage v usage).readAll v lines).function.arguments.map fun a => (a.name, a.optional) := by
      have hdeclared : (Declared.ofUsage v usage).function.arguments = usage.arguments.map (Argument.ofWritten v) := rfl
      rw [hkept, hdeclared, List.map_map]
      rfl
    rw [← List.forall₂_eq_eq_eq, List.forall₂_map_left_iff, List.forall₂_map_right_iff] at hpairs
    refine List.forall₂_map_right_iff.2 (hpairs.imp fun written a hpair => ?_)
    obtain ⟨hname, hoptional⟩ := Prod.mk.inj hpair
    exact ⟨by rw [ScriptName.renameArgument_name, ← hname]; rfl,
      by rw [ScriptName.renameArgument_optional, ← hoptional]; rfl⟩

/-- Every function of a scan stems from a usage message. -/
theorem exists_stems_of_mem_functions (hf : f ∈ (ofText v events source text).functions) :
    ∃ o ∈ openings events text, ∃ usage, o.Opens usage ∧ f.Stems usage := by
  obtain ⟨d, hd, -, hrenamed⟩ := mem_functions.1 hf
  obtain ⟨-, rfl⟩ := ScriptName.ofFunction?_eq_some_iff.1 hrenamed
  obtain ⟨o, ho, usage, seg, hopens, rfl⟩ := exists_opening_of_mem_declarations hd
  exact ⟨o, ho, usage, hopens, stems_renamed v source usage hopens.trim_name seg⟩

end Scan

end BindingDocs
