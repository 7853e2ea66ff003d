import BindingDocs.Proofs.WrittenNames
import Mathlib.Data.List.DropRight

/-!
# Arguments as they are written

Every function of a scan comes from one usage message, and its arguments are the pieces of that message, one by one
(`ofPieces_of_mem_functions`).  Two things decide what an argument is: whether a bracket is closed in its piece, and
the last word of what is left without brackets and question marks (`Text.IsLastWord`).
-/

namespace BindingDocs

/-! ### The last word -/

namespace Text

variable {s word : Text} {c : Char}

/-- The word ends `s`, up to white space, and stands behind white space or at the beginning. -/
def IsLastWord (s word : Text) : Prop :=
  word ≠ [] ∧ (∀ c ∈ word, isBlank c = false) ∧
    ∃ before after, s = before ++ word ++ after ∧ (∀ c ∈ before.getLast?, isBlank c = true) ∧
      ∀ c ∈ after, isBlank c = true

theorem words_append_cons (hc : isBlank c = true) (s t : Text) : words (s ++ c :: t) = words s ++ words t := by
  rw [words, words, words, List.splitOnP_append_cons s t hc, List.filter_append]

theorem words_of_blank (h : ∀ c ∈ s, isBlank c = true) : words s = [] := by
  induction s with
  | nil => rfl
  | cons c s ih =>
    obtain ⟨hc, hs⟩ := List.forall_mem_cons.1 h
    have hcut := words_append_cons hc [] s
    rw [ih hs] at hcut
    exact hcut

theorem words_word (hne : word ≠ []) (hword : ∀ c ∈ word, isBlank c = false) : words word = [word] := by
  rw [words, List.splitOnP_eq_singleton hword]
  simp [hne]

theorem IsLastWord.lastWord_eq (h : IsLastWord s word) : lastWord s = word := by
  obtain ⟨hne, hword, before, after, rfl, hbefore, hafter⟩ := h
  have hend : words (word ++ after) = [word] := by
    cases after with
    | nil => rw [List.append_nil, words_word hne hword]
    | cons c after =>
      obtain ⟨hc, hafter⟩ := List.forall_mem_cons.1 hafter
      rw [words_append_cons hc, words_word hne hword, words_of_blank hafter, List.append_nil]
  have hall : ∃ earlier, words (before ++ word ++ after) = earlier ++ [word] := by
    rcases List.eq_nil_or_concat before with rfl | ⟨front, c, rfl⟩
    · exact ⟨[], hend⟩
    · rw [List.concat_eq_append] at hbefore ⊢
      have hc : isBlank c = true := hbefore c List.getLast?_concat
      refine ⟨words front, ?_⟩
      rw [List.append_assoc, List.append_assoc, List.singleton_append, words_append_cons hc, hend]
  obtain ⟨earlier, hearlier⟩ := hall
  rw [lastWord, hearlier, List.getLast?_concat, Option.getD_some]

theorem exists_isLastWord (h : ∃ c ∈ s, isBlank c = false) : ∃ word, IsLastWord s word := by
  have hrest : trimEnd s ++ s.rtakeWhile isBlank = s := List.rdropWhile_append_rtakeWhile
  have hword : (trimEnd s).rdropWhile (fun c => !isBlank c) ++ (trimEnd s).rtakeWhile (fun c => !isBlank c) =
      trimEnd s := List.rdropWhile_append_rtakeWhile
  have hne : trimEnd s ≠ [] := by
    obtain ⟨c, hc, hblank⟩ := h
    intro hnil
    have hall := List.rdropWhile_eq_nil_iff.1 hnil c hc
    rw [hblank] at hall
    cases hall
  refine ⟨(trimEnd s).rtakeWhile fun c => !isBlank c, ?_, fun c hc => ?_, (trimEnd s).rdropWhile fun c => !isBlank c,
    s.rtakeWhile isBlank, by rw [hword, hrest], fun c hc => ?_, fun c hc => List.mem_rtakeWhile_imp hc⟩
  · intro hnil
    have hlast : isBlank ((trimEnd s).getLast hne) = false :=
      Bool.eq_false_iff.2 (List.rdropWhile_last_not isBlank s hne)
    exact List.rtakeWhile_eq_nil_iff.1 hnil hne (by rw [hlast]; rfl)
  · simpa using List.mem_rtakeWhile_imp hc
  · obtain ⟨hne', rfl⟩ := List.mem_getLast?_eq_getLast hc
    simpa using List.rdropWhile_last_not _ _ hne'

theorem isLastWord_lastWord (h : ∃ c ∈ s, isBlank c = false) : IsLastWord s (lastWord s) := by
  obtain ⟨word, hword⟩ := exists_isLastWord h
  rwa [hword.lastWord_eq]

end Text

theorem ScriptName.not_infix_bareOf (name : Text) : ¬ "->".toList <:+: bareOf name := by
  obtain ⟨rest, hrest⟩ := Text.exists_isAfter "::".toList name
  obtain ⟨core, hcore⟩ := Text.exists_isBefore "->".toList rest
  have hcore' : ¬ "->".toList <:+: core := by
    rw [← Text.before_eq_iff.2 hcore]
    exact Text.not_infix_before (by decide) rest
  have hsigil : dropSigil core <:+ core := by
    unfold dropSigil
    split
    · exact List.suffix_cons _ _
    · exact List.suffix_refl _
  rw [bareOf_eq hrest hcore]
  exact fun harrow => hcore' (harrow.trans hsigil.isInfix)

/-! ### Arguments -/

namespace Argument

/-- The argument is the one that the piece of a usage message shows. -/
structure IsOfPiece (piece : Text) (a : Argument) : Prop where
  optional : a.optional = true ↔ ']' ∈ piece
  marks : ∀ mark ∈ "[]?,)=".toList, mark ∉ a.name
  word : (∃ c ∈ piece.filter fun c => !isBracket c, isBlank c = false) →
    Text.IsLastWord (piece.filter fun c => !isBracket c) a.name

theorem IsWritten.isOfPiece {piece : Text} {a : Argument} (h : IsWritten piece a)
    (hpiece : ',' ∉ piece ∧ ')' ∉ piece ∧ '=' ∉ piece) : IsOfPiece piece a where
  optional := by rw [h.optional, List.contains_iff_mem]
  marks mark hmark hname := by
    obtain ⟨hmem, hbracket⟩ := h.mem_of_mem_name hname
    obtain ⟨hcomma, hclose, hequals⟩ := hpiece
    obtain rfl | rfl | rfl | rfl | rfl | rfl : mark = '[' ∨ mark = ']' ∨ mark = '?' ∨ mark = ',' ∨ mark = ')' ∨
        mark = '=' := by simpa using hmark
    · cases hbracket
    · cases hbracket
    · cases hbracket
    · exact hcomma hmem
    · exact hclose hmem
    · exact hequals hmem
  word hleft := by
    rw [h.name]
    exact Text.isLastWord_lastWord hleft

end Argument

/-- A function has the bare name of its usage message, and one argument for each piece between the commas. -/
theorem Scan.ofPieces_of_mem_functions {v : Vocabulary} {events : Bool} {source : Source} {text : Text}
    {f : BoundFunction} (hf : f ∈ (ofText v events source text).functions) :
    (∃ o ∈ openings events text, ∃ usage, o.Opens usage ∧ f.name = ScriptName.bareOf usage.name ∧
      List.Forall₂ Argument.IsOfPiece usage.arguments f.arguments) ∧
      '(' ∉ f.name ∧ ¬ "->".toList <:+: f.name := by
  obtain ⟨o, ho, usage, hopens, hstems⟩ := exists_stems_of_mem_functions hf
  have ⟨before, rest, _, hread⟩ := hopens
  have harguments : List.Forall₂ Argument.IsOfPiece usage.arguments f.arguments := by
    have hpieces : ∀ piece ∈ usage.arguments, ',' ∉ piece ∧ ')' ∉ piece ∧ '=' ∉ piece :=
      fun piece hpiece => Usage.notMem_argument_of_read? hread hpiece
    refine ((List.forall₂_and_left _ _).2 ⟨hpieces, hstems.arguments⟩).imp ?_
    rintro piece a ⟨hpiece, hwritten⟩
    exact hwritten.isOfPiece hpiece
  have hname : '(' ∉ f.name := by
    rw [hstems.name]
    exact fun hopen => Usage.notMem_name_of_read? hread ((ScriptName.bareOf_sublist _).subset hopen)
  refine ⟨⟨o, ho, usage, hopens, hstems.name, harguments⟩, hname, ?_⟩
  rw [hstems.name]
  exact ScriptName.not_infix_bareOf _

/-- White space of another kind, a bracket inside a word, a default value, and a piece of brackets only. -/
theorem Scan.ofPieces_of_brackets :
    let v : Vocabulary := ⟨[], [], [], [], []⟩
    let source : Source := ⟨[], "Mob".toList, none⟩
    let text : Text := "\tPerl_croak(aTHX_ \"Usage: Mob::Get->Set([int\u00a0i[te]m?], [?], x [= 5])\");\n".toList
    let f : BoundFunction := ⟨"$mob->".toList, "Get".toList, "Mob".toList, none,
      [⟨"item".toList, none, true⟩, ⟨[], none, true⟩, ⟨"x".toList, none, false⟩]⟩
    f ∈ (ofText v false source text).functions ∧
      (∃ o ∈ openings false text, ∃ usage, o.Opens usage ∧ f.name = ScriptName.bareOf usage.name ∧
        List.Forall₂ Argument.IsOfPiece usage.arguments f.arguments) ∧
        '(' ∉ f.name ∧ ¬ "->".toList <:+: f.name := by
  intro v source text f
  have hf : f ∈ (ofText v false source text).functions := by decide +kernel
  exact ⟨hf, ofPieces_of_mem_functions hf⟩

end BindingDocs
