import BindingDocs.Proofs.DeclarationPattern
import BindingDocs.Proofs.EventsApart

/-!
# Types that declarations give

A line that declares a variable by a keyword and reads slot `i` gives the argument in that slot the type of the keyword
(`type_of_spelled_keyword`).  There is one exception: `uint` without a width is no keyword of the pattern, which finds
the `int` in it.
-/

namespace BindingDocs

namespace Declaration

/-- The spellings of a keyword that have a type, whatever else stands in the line. -/
def spelledTypes : List (Text × ValueType) := keywordTypes ++ [("char*".toList, .string)]

/-- White space, the keyword, spaces, an identifier, an equals sign, and behind it the argument in slot `i`. -/
def Spells (keyword : Text) (i : Nat) (line : Text) : Prop :=
  ∃ blank spaces name gap value,
    line = blank ++ (keyword ++ ' ' :: (spaces ++ (name ++ (gap ++ '=' :: value)))) ∧
      (∀ c ∈ blank, isBlank c = true) ∧ (∀ c ∈ spaces, c = ' ') ∧ (name ≠ [] ∧ ∀ c ∈ name, c.isAlpha = true) ∧
      (∀ c ∈ gap, c = ' ') ∧ slot i <:+: value

/-- The keyword that the pattern finds where one is spelled. -/
def foundIn (keyword : Text) : Text := if keyword = "uint".toList then "int".toList else keyword

theorem exists_cons_of_matches {e : Expression} {keyword : Text} (he : e ∈ alternatives) (h : e.Matches keyword) :
    ∃ c rest, keyword = c :: rest ∧ isBlank c = false := by
  simp only [alternatives, List.mem_cons, List.not_mem_nil, or_false] at he
  rcases he with rfl | rfl | rfl | rfl | rfl | rfl | rfl | rfl | rfl | rfl
  case inr.inr.inr.inr.inl =>
    obtain ⟨word, digits, rfl, -, rfl⟩ := h
    exact ⟨_, _, rfl, by decide⟩
  case inr.inr.inr.inr.inr.inr.inr.inr.inr =>
    obtain ⟨word, last, rfl, -, rfl⟩ := h
    exact ⟨_, _, rfl, by decide⟩
  all_goals
    obtain rfl := h
    exact ⟨_, _, rfl, by decide⟩

theorem keyword?_cons_of_eq_nil {c : Char} {s : Text} (h : keywordsAt (c :: s) = []) :
    keyword? (c :: s) = keyword? s := by
  rw [keyword?, h, List.find?_nil]

/-- No keyword begins in white space. -/
theorem keyword?_append_of_blank {blank : Text} (h : ∀ c ∈ blank, isBlank c = true) (s : Text) :
    keyword? (blank ++ s) = keyword? s := by
  induction blank with
  | nil => rfl
  | cons c blank ih =>
    obtain ⟨hc, hblank⟩ := List.forall_mem_cons.1 h
    have hnone : keywordsAt (c :: (blank ++ s)) = [] := by
      refine List.eq_nil_iff_forall_not_mem.2 ?_
      rintro ⟨keyword, rest⟩ hmem
      obtain ⟨⟨e, he, hmatches⟩, hs⟩ := mem_keywordsAt.1 hmem
      obtain ⟨d, word, rfl, hd⟩ := exists_cons_of_matches he hmatches
      obtain rfl := (List.cons.inj hs).1
      rw [hc] at hd
      cases hd
    rw [List.cons_append, keyword?_cons_of_eq_nil hnone]
    exact ih hblank

theorem keyword?_of_head? {s keyword rest : Text} (h : (keywordsAt s).head? = some (keyword, rest))
    (hcompletes : completes rest = true) : keyword? s = some keyword := by
  cases s with
  | nil => cases h
  | cons c s =>
    obtain ⟨later, hlater⟩ := List.head?_eq_some_iff.1 h
    rw [keyword?, hlater, List.find?_cons, hcompletes]

/-- Where a keyword with a space behind it is spelled, the pattern prefers no other. -/
theorem head?_keywordsAt {keyword : Text} {type : ValueType} (h : (keyword, type) ∈ spelledTypes)
    (hsized : keyword ≠ "uint".toList) (s : Text) :
    (keywordsAt (keyword ++ ' ' :: s)).head? = some (keyword, ' ' :: s) := by
  simp only [spelledTypes, keywordTypes, List.cons_append, List.nil_append, List.mem_cons, List.not_mem_nil, or_false,
    Prod.mk.injEq] at h
  rcases h with h | h | h | h | h | h | h | h | h | h | h | h
  case inr.inr.inr.inr.inl => exact absurd h.1 hsized
  all_goals
    obtain ⟨rfl, -⟩ := h
    simp [keywordsAt, fixedAt, sizedAt, digitSplits, Text.after?]

theorem keyword?_of_spelled {keyword : Text} {type : ValueType} (h : (keyword, type) ∈ spelledTypes) {s : Text}
    (hcompletes : completes (' ' :: s) = true) : keyword? (keyword ++ ' ' :: s) = some (foundIn keyword) := by
  unfold foundIn
  by_cases hsized : keyword = "uint".toList
  · rw [if_pos hsized, hsized]
    -- without a digit nothing is found at the `u`
    have hnone : keywordsAt ('u' :: ("int".toList ++ ' ' :: s)) = [] := by
      simp [keywordsAt, fixedAt, sizedAt, digitSplits, Text.after?]
    have hint : ("int".toList, ValueType.int) ∈ spelledTypes := by decide
    exact (keyword?_cons_of_eq_nil hnone).trans (keyword?_of_head? (head?_keywordsAt hint (by decide) s) hcompletes)
  · rw [if_neg hsized]
    exact keyword?_of_head? (head?_keywordsAt h hsized s) hcompletes

theorem completes_of_identifier {spaces name gap value : Text} (hname : name ≠ [] ∧ ∀ c ∈ name, c.isAlpha = true)
    (hgap : ∀ c ∈ gap, c = ' ') : completes (' ' :: (spaces ++ (name ++ (gap ++ '=' :: value)))) = true := by
  have htarget : ∀ c ∈ name ++ gap, isTargetChar c = true := by
    intro c hc
    rcases List.mem_append.1 hc with hc | hc
    · simp [isTargetChar, hname.2 c hc]
    · simp [isTargetChar, hgap c hc]
  obtain ⟨before, c, hlast⟩ := (List.eq_nil_or_concat (name ++ gap)).resolve_left (by simp [hname.1])
  have hline : spaces ++ (name ++ (gap ++ '=' :: value)) = (spaces ++ before) ++ c :: '=' :: value := by
    rw [← List.append_assoc name, hlast]
    simp
  rw [completes, assigns_iff]
  exact ⟨spaces ++ before, c, value, hline, htarget c (by simp [hlast])⟩

theorem keyword?_of_spells {keyword : Text} {type : ValueType} {i : Nat} {line : Text}
    (h : (keyword, type) ∈ spelledTypes) (hline : Spells keyword i line) :
    keyword? line = some (foundIn keyword) ∧ slot i <:+: line := by
  obtain ⟨blank, spaces, name, gap, value, rfl, hblank, -, hname, hgap, hslot⟩ := hline
  constructor
  · rw [keyword?_append_of_blank hblank]
    exact keyword?_of_spelled h (completes_of_identifier hname hgap)
  · refine hslot.trans (List.IsSuffix.isInfix ⟨blank ++ keyword ++ ' ' :: spaces ++ name ++ gap ++ ['='], ?_⟩)
    simp

theorem typeOf?_of_spelled {keyword : Text} {type : ValueType} (h : (keyword, type) ∈ spelledTypes) (line : Text) :
    Text.trim keyword = keyword ∧ typeOf? keyword line = some type := by
  simp only [spelledTypes, keywordTypes, List.cons_append, List.nil_append, List.mem_cons, List.not_mem_nil, or_false,
    Prod.mk.injEq] at h
  rcases h with h | h | h | h | h | h | h | h | h | h | h | h
  all_goals
    obtain ⟨rfl, rfl⟩ := h
    exact ⟨by decide, rfl⟩

/-- What is found where a keyword is spelled is itself a spelling, of the same type unless the keyword is `uint`. -/
theorem foundIn_mem_spelledTypes {keyword : Text} {type : ValueType} (h : (keyword, type) ∈ spelledTypes) :
    (foundIn keyword, if keyword = "uint".toList then .int else type) ∈ spelledTypes := by
  unfold foundIn
  split_ifs
  · decide
  · exact h

theorem declaredType?_of_spells {keyword : Text} {type : ValueType} {i : Nat} {line : Text}
    (h : (keyword, type) ∈ spelledTypes) (hline : Spells keyword i line) :
    declaredType? i line = some (if keyword = "uint".toList then .int else type) := by
  obtain ⟨hkeyword, hslot⟩ := keyword?_of_spells h hline
  obtain ⟨htrim, htype⟩ := typeOf?_of_spelled (foundIn_mem_spelledTypes h) line
  unfold declaredType? keywordFor?
  rw [if_pos (Text.includes_iff.2 hslot), hkeyword, Option.map_some, htrim]
  exact htype

end Declaration

namespace SignatureScan

variable {v : Vocabulary}

/-- An argument without a type gets the one that a line declares for its slot, and keeps it whatever follows. -/
theorem getElem?_arguments_of_declaredType? {before after : List Line} {l : Line} {d : Declared} {i : Nat}
    {a : Argument} {type : ValueType} (hopen : (ofLines v before).opened = some d)
    (ha : d.function.arguments[i]? = some a) (huntyped : a.type? = none)
    (htype : Declaration.declaredType? i l.text = some type) :
    ∃ d', (ofLines v (before ++ l :: after)).declared[(ofLines v before).closed.length]? = some d' ∧
      d'.function.arguments[i]? = some { a with type? := some type } := by
  obtain ⟨seg, hseg⟩ : ∃ seg, untilOpening (l :: after) = l :: seg := by
    unfold untilOpening
    split
    · exact ⟨[], rfl⟩
    · exact ⟨untilOpening after, rfl⟩
  refine ⟨d.readAll v (l :: seg), ?_, ?_⟩
  · have hrun : ofLines v (before ++ l :: after) = (l :: after).foldl (step v) (ofLines v before) := List.foldl_append
    rw [hrun, declared_foldl_step, hopen, hseg, List.append_assoc, List.getElem?_append_right (Nat.le_refl _),
      Nat.sub_self]
    rfl
  · rw [Declared.getElem?_readAll_arguments, ha, Option.map_some, huntyped, Option.none_or, List.findSome?_cons, htype]

end SignatureScan

namespace Scan

/-- In a scan without events, a line that declares a variable by a keyword and reads slot `i` gives the open argument
without a type in that slot the type of the keyword, or that of `int` if the keyword is `uint`; no line after it changes
this. -/
theorem type_of_spelled_keyword (v : Vocabulary) (before after : List Line) (l : Line) {d : Declared} {i : Nat}
    {a : Argument} {keyword : Text} {type : ValueType}
    (hopen : (SignatureScan.ofLines v (functionLines false before)).opened = some d)
    (ha : d.function.arguments[i]? = some a) (huntyped : a.type? = none)
    (hkeyword : (keyword, type) ∈ Declaration.spelledTypes) (hline : Declaration.Spells keyword i l.text) :
    Declaration.typeOf? keyword l.text = some type ∧
    ∃ d', (SignatureScan.ofLines v (functionLines false (before ++ l :: after))).declared[
        (SignatureScan.ofLines v (functionLines false before)).closed.length]? = some d' ∧
      d'.function.arguments[i]? = some { a with type? := some (if keyword = "uint".toList then .int else type) } := by
  rw [functionLines_false] at hopen
  rw [functionLines_false, functionLines_false]
  refine ⟨(Declaration.typeOf?_of_spelled hkeyword l.text).2, ?_⟩
  exact SignatureScan.getElem?_arguments_of_declaredType? hopen ha huntyped
    (Declaration.declaredType?_of_spells hkeyword hline)

/-- A keyword holds another one, no space is in front of the equals sign, and the line opens another function. -/
theorem type_of_spelled_keyword_unsigned_int :
    let usage : Line := ⟨1, "Perl_croak(aTHX_ \"Usage: Mob::f(THIS, hp)\");".toList⟩
    let l : Line := ⟨2, "\tunsigned int  hp= ST(1); a = Perl_croak(aTHX_ \"Usage: g()\");".toList⟩
    let v : Vocabulary := ⟨[], [], [], [], []⟩
    let d : Declared := .ofUsage v ⟨"Mob::f".toList, ["THIS".toList, "hp".toList]⟩
    (SignatureScan.ofLines v (functionLines false [usage])).opened = some d ∧
      Declaration.Spells "unsigned int".toList 1 l.text ∧
      Declaration.typeOf? "unsigned int".toList l.text = some .uint ∧
      ∃ d', (SignatureScan.ofLines v (functionLines false [usage, l])).declared[0]? = some d' ∧
        d'.function.arguments[1]? = some ⟨"hp".toList, some .uint, false⟩ := by
  intro usage l v d
  have hopen : (SignatureScan.ofLines v (functionLines false [usage])).opened = some d := rfl
  have hline : Declaration.Spells "unsigned int".toList 1 l.text := by
    refine ⟨['\t'], [' '], "hp".toList, [], " ST(1); a = Perl_croak(aTHX_ \"Usage: g()\");".toList, rfl, ?_⟩
    exact ⟨List.all_eq_true.1 rfl, List.forall_mem_singleton.2 rfl, ⟨by decide, List.all_eq_true.1 rfl⟩,
      fun c hc => absurd hc List.not_mem_nil, by decide⟩
  have hkeyword : ("unsigned int".toList, ValueType.uint) ∈ Declaration.spelledTypes := by decide
  have ha : d.function.arguments[1]? = some ⟨"hp".toList, none, false⟩ := rfl
  obtain ⟨htype, d', hd', ha'⟩ := type_of_spelled_keyword v [usage] [] l hopen ha rfl hkeyword hline
  exact ⟨hopen, hline, htype, d', hd', ha'⟩

/-- A variable of type `uint` is declared, and the argument gets the type of `int`. -/
theorem exists_argument_of_other_type :
    ∃ line, Declaration.Spells "uint".toList 0 line ∧ Declaration.typeOf? "uint".toList line = some .uint ∧
      (⟨"$mob->".toList, "f".toList, "Mob".toList, none, [⟨"hp".toList, some .int, false⟩]⟩ : BoundFunction) ∈
        (ofText ⟨[], [], [], [], []⟩ false ⟨[], "Mob".toList, none⟩
          ("Perl_croak(aTHX_ \"Usage: Mob::f(hp)\");\n".toList ++ line)).functions := by
  refine ⟨"\tuint hp = (uint) SvUV(ST(0));".toList, ?_, by decide, by decide +kernel⟩
  refine ⟨['\t'], [], "hp".toList, [' '], " (uint) SvUV(ST(0));".toList, rfl, ?_⟩
  exact ⟨List.all_eq_true.1 rfl, fun c hc => absurd hc List.not_mem_nil, ⟨by decide, List.all_eq_true.1 rfl⟩,
    List.forall_mem_singleton.2 rfl, by decide⟩

end Scan

end BindingDocs
