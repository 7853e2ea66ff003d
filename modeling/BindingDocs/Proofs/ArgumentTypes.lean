import BindingDocs.Proofs.Segments
import Mathlib.Data.List.Basic

/-!
# Types of arguments

An argument whose name the vocabulary knows has the type that is known.  Any other argument gets its type from
the first line of the function's segment that declares one for its slot.  A line declares a type for one slot
only if it names that slot, and no slot is part of another (`slot_infix_slot_iff`); once an argument has a type,
no line changes it (`getElem?_read_arguments_of_keeps`).
-/

namespace BindingDocs

namespace Declaration

/-- The text by which a line names a slot is no part of that for another slot. -/
theorem slot_infix_slot_iff {i j : Nat} : slot i <:+: slot j ↔ i = j := by
  constructor
  · rintro ⟨before, rest, h⟩
    have hdigit : ∀ {c : Char} {n : Nat}, c ∈ Text.ofNat n → c.isDigit := Text.isDigit_of_mem_ofNat
    -- the first characters match only at the beginning, as the digits hold no `S`
    have hfront : [] ++ 'S' :: ("T(".toList ++ (Text.ofNat j ++ [')'])) =
        before ++ 'S' :: ("T(".toList ++ (Text.ofNat i ++ ')' :: rest)) := by
      rw [show [] ++ 'S' :: ("T(".toList ++ (Text.ofNat j ++ [')'])) = slot j by simp [slot], ← h]
      simp [slot]
    have hS : 'S' ∉ "T(".toList ++ (Text.ofNat j ++ [')']) := by
      simp only [List.mem_append, not_or]
      exact ⟨by decide, fun hm => absurd (hdigit hm) (by decide), by decide⟩
    obtain ⟨-, -, htail⟩ := (List.append_cons_inj_of_notMem List.not_mem_nil hS).1 hfront
    -- and the bracket ends the digits on both sides
    have hbracket : ')' ∉ Text.ofNat j := fun hm => absurd (hdigit hm) (by decide)
    obtain ⟨hdigits, -, -⟩ :=
      (List.append_cons_inj_of_notMem hbracket (by simp)).1 (List.append_cancel_left htail)
    exact (Text.ofNat_inj.1 hdigits).symm
  · rintro rfl
    exact List.infix_refl _

end Declaration

namespace Line

/-- The line declares a type for the argument in slot `i`: it names the slot, and the keyword of its declaration,
without the white space around it, has that type. -/
def Declares (l : Line) (i : Nat) (type : ValueType) : Prop :=
  Declaration.slot i <:+: l.text ∧ ∃ keyword, Declaration.keyword? l.text = some keyword ∧
    Declaration.typeOf? (Text.trim keyword) l.text = some type

theorem declaredType?_eq_some_iff {l : Line} {i : Nat} {type : ValueType} :
    Declaration.declaredType? i l.text = some type ↔ l.Declares i type := by
  unfold Declaration.declaredType? Declaration.keywordFor? Declares
  by_cases hs : Text.includes (Declaration.slot i) l.text
  · rw [if_pos hs, Option.bind_map, Option.bind_eq_some_iff]
    simp only [Function.comp_apply, Text.includes_iff.1 hs, true_and]
  · rw [if_neg hs]
    simp [mt Text.includes_iff.2 hs]

end Line

namespace Declared

/-- A line that declares no type for an argument leaves it as it is, and so does every line once the argument has
a type. -/
theorem getElem?_read_arguments_of_keeps {v : Vocabulary} {l : Line} {d : Declared} {i : Nat} {a : Argument}
    (ha : d.function.arguments[i]? = some a) (h : a.type?.isSome ∨ ∀ type, ¬ l.Declares i type) :
    (d.read v l).function.arguments[i]? = some a := by
  have hread := getElem?_readAll_arguments v [l] d i
  rw [ha, Option.map_some, List.findSome?_singleton] at hread
  have hkeep : a.type?.or (Declaration.declaredType? i l.text) = a.type? := by
    rcases h with h | h
    · exact Option.or_eq_left_of_isSome h
    · have hnone : Declaration.declaredType? i l.text = none := by
        rw [Option.eq_none_iff_forall_ne_some]
        exact fun type ht => h type (Line.declaredType?_eq_some_iff.1 ht)
      rw [hnone, Option.or_none]
  rw [hkeep] at hread
  exact hread

end Declared

namespace Scan

/-- At the end of its segment, an argument has the type that the vocabulary knows for its name; if it knows none,
the type that the first line of the segment declares for its slot.  Line by line, an argument with a type keeps
it, and a line that declares none for the slot changes nothing; and no slot is named by naming another one. -/
theorem argument_types_by_segment (v : Vocabulary) (events : Bool) (text : Text) :
    (∀ k d, (declarations v events text)[k]? = some d →
      ∃ o usage, (openings events text)[k]? = some o ∧ o.Opens usage ∧
        d.function.arguments.length = usage.arguments.length ∧
        ∀ i written a, usage.arguments[i]? = some written → d.function.arguments[i]? = some a →
          a.name = written.filter (fun c => !Argument.isBracket c) ∧
          (∀ type, v.argumentType? a.name = some type → a.type? = some type) ∧
          (v.argumentType? a.name = none → ∀ type, a.type? = some type ↔
            ∃ l, InSegment events text k l ∧ l.Declares i type ∧
              ∀ l', InSegment events text k l' → l'.number < l.number → ∀ type', ¬ l'.Declares i type')) ∧
    (∀ (d : Declared) l i a, d.function.arguments[i]? = some a →
      (a.type?.isSome ∨ ∀ type, ¬ l.Declares i type) → (d.read v l).function.arguments[i]? = some a) ∧
    ∀ i j, Declaration.slot i <:+: Declaration.slot j ↔ i = j := by
  refine ⟨?_, fun d l i a => Declared.getElem?_read_arguments_of_keeps,
    fun i j => Declaration.slot_infix_slot_iff⟩
  intro k d hd
  obtain ⟨o, usage, seg, ho, hopens, rfl, hsorted, hmem⟩ := exists_segment hd
  refine ⟨o, usage, ho, hopens, ?_, ?_⟩
  · have hnames := congrArg List.length (Declared.readAll_arguments_map v seg (.ofUsage v usage) Prod.mk)
    rw [List.length_map, List.length_map] at hnames
    rw [hnames]
    exact List.length_map _
  · intro i written a hw ha
    rw [Declared.getElem?_readAll_arguments] at ha
    have hofUsage : (Declared.ofUsage v usage).function.arguments[i]? = some (Argument.ofWritten v written) := by
      simp only [Declared.ofUsage, BoundFunction.ofUsage, List.getElem?_map, hw, Option.map_some]
    rw [hofUsage, Option.map_some, Option.some.injEq] at ha
    subst ha
    refine ⟨rfl, ?_, ?_⟩
    · intro type ht
      have htype : (Argument.ofWritten v written).type? = some type := ht
      simp only [htype, Option.some_or]
    · intro hnone type
      have htype : (Argument.ofWritten v written).type? = none := hnone
      simp only [htype, Option.none_or]
      rw [findSome?_eq_some_iff_first hsorted]
      simp only [hmem, Line.declaredType?_eq_some_iff, Option.eq_none_iff_forall_ne_some, ne_eq]

end Scan

end BindingDocs
