import BindingDocs.Proofs.Placeholders
import Mathlib.Data.List.Forall2

/-!
# Script names in closed form

The receiver of a method is the variable up to the first name space mark or arrow, whichever comes first, with an arrow
after it, and its scope is the title of what stands in between (`exists_receiverOf_eq`, `scopeOf_arrow`).
The two cuts that make it see each other's output, but no mark comes into being between them: an arrow can neither be
completed by the arrow that is put behind the first cut (`cut?_append_pair`) nor begin before a mark and end within it
(`isPrefix_or_length_le`).
-/

namespace BindingDocs

/-! ### Cuts -/

namespace Text

variable {mark s before rest : Text}

/-- `s` reads `before` and then one of the marks, and none of the marks begins further to the left. -/
def IsFirstCutAmong (marks : List Text) (s before : Text) : Prop :=
  (∃ mark ∈ marks, before ++ mark <+: s) ∧
    ∀ mark ∈ marks, ∀ before', before' ++ mark <+: s → before.length ≤ before'.length

theorem IsFirstCut.isPrefix (h : IsFirstCut mark s before rest) : before ++ mark <+: s := ⟨rest, h.1.symm⟩

theorem IsFirstCut.length_le (h : IsFirstCut mark s before rest) {before' : Text} (h' : before' ++ mark <+: s) :
    before.length ≤ before'.length := by
  obtain ⟨rest', hs⟩ := h'
  exact h.2 before' rest' hs.symm

theorem IsFirstCut.append (h : IsFirstCut mark s before rest) (t : Text) :
    IsFirstCut mark (s ++ t) before (rest ++ t) := by
  refine ⟨by rw [h.1, List.append_assoc], fun before' rest' hs => ?_⟩
  by_contra hlt
  have hlength : (before' ++ mark).length ≤ s.length := by
    rw [h.1]
    simp only [List.length_append]
    omega
  have hfront : before' ++ mark <+: s :=
    List.prefix_of_prefix_length_le ⟨rest', hs.symm⟩ (List.prefix_append s t) hlength
  exact hlt (h.length_le hfront)

theorem cut?_append_pair {a b : Char} (hab : a ≠ b) {w : Text} (h : ¬ [a, b] <:+: w) (t : Text) :
    cut? [a, b] (w ++ a :: b :: t) = some (w, t) := by
  induction w with
  | nil => simp [cut?, after?]
  | cons c w ih =>
    rw [List.infix_cons_iff, not_or] at h
    have hafter : after? [a, b] (c :: (w ++ a :: b :: t)) = none := by
      rw [after?_eq_none]
      rintro ⟨rest, hrest⟩
      cases w with
      | nil =>
        -- `c` is the last character before the pair, and the pair would have to overlap itself to begin with it
        obtain ⟨-, hb⟩ := List.cons.inj hrest
        exact hab (List.cons.inj hb).1.symm
      | cons d w =>
        obtain ⟨rfl, hb⟩ := List.cons.inj hrest
        obtain ⟨rfl, -⟩ := List.cons.inj hb
        exact h.1 ⟨w, rfl⟩
    rw [List.cons_append, cut?, hafter, ih h.2]
    rfl

/-- With the mark put at the end of a text, the first cut is where it was, or at the end if there was none. -/
theorem exists_cut?_append_pair {a b : Char} (hab : a ≠ b) (w : Text) :
    ∃ t, cut? [a, b] (w ++ [a, b]) = some (Text.before [a, b] w, t) := by
  unfold Text.before
  cases hcut : cut? [a, b] w with
  | none => exact ⟨[], cut?_append_pair hab (cut?_eq_none.1 hcut) []⟩
  | some p => exact ⟨p.2 ++ [a, b], cut?_eq_some_iff.2 ((cut?_eq_some_iff.1 hcut).append [a, b])⟩

theorem IsFirstCutAmong.not_infix {marks : List Text} (h : IsFirstCutAmong marks s before) (hmark : mark ∈ marks)
    (hne : mark ≠ []) : ¬ mark <:+: before := by
  rintro ⟨before', rest', hbefore⟩
  obtain ⟨⟨mark', -, hfront⟩, hfirst⟩ := h
  have hearlier : before' ++ mark <+: s := by
    refine List.IsPrefix.trans ⟨rest', hbefore⟩ ?_
    exact (List.prefix_append _ _).trans hfront
  have hle := hfirst mark hmark before' hearlier
  have hlength := congrArg List.length hbefore
  simp only [List.length_append] at hlength
  have hpos := List.length_pos_of_ne_nil hne
  omega

/-- The last word, or everything if there is none. -/
def lastWord (s : Text) : Text := (words s).getLast?.getD s

theorem replace_cons_of_ne {c d : Char} (h : c ≠ d) (old new s : Text) :
    replace (c :: old) new (d :: s) = d :: replace (c :: old) new s := by
  simp [replace, replaceFrom, after?, h]

end Text

namespace ScriptName

variable {v : Vocabulary} {source : Source} {f : BoundFunction} {name stem : Text}

/-! ### Receivers -/

/-- What ends the name of a variable. -/
def receiverMarks : List Text := ["::".toList, "->".toList]

theorem colons_mem_receiverMarks : "::".toList ∈ receiverMarks := List.mem_cons_self

theorem arrow_mem_receiverMarks : "->".toList ∈ receiverMarks := List.mem_cons_of_mem _ List.mem_cons_self

theorem cut?_eq_none_of_not_infix {s : Text} (h : ∀ mark ∈ receiverMarks, ¬ mark <:+: s) :
    Text.cut? "::".toList s = none ∧ Text.cut? "->".toList s = none :=
  ⟨Text.cut?_eq_none.2 (h _ colons_mem_receiverMarks), Text.cut?_eq_none.2 (h _ arrow_mem_receiverMarks)⟩

/-- The two scopes with an underscore are spelled out behind the sigil. -/
theorem variableOf_eq (name : Text) :
    variableOf name =
      '$' :: Text.replace "hateentry".toList "hate_entry".toList
        (Text.replace "entitylist".toList "entity_list".toList (Text.lowercase name)) := by
  unfold variableOf
  have he : 'e' ≠ '$' := by decide
  have hh : 'h' ≠ '$' := by decide
  rw [show "entitylist".toList = 'e' :: "ntitylist".toList from rfl, Text.replace_cons_of_ne he,
    show "hateentry".toList = 'h' :: "ateentry".toList from rfl, Text.replace_cons_of_ne hh]

theorem isPrefix_or_length_le {s word before : Text} (hword : word ++ "::".toList <+: s)
    (hbefore : before ++ "->".toList <+: s) : before ++ "->".toList <+: word ∨ word.length ≤ before.length := by
  by_cases hle : word.length ≤ before.length
  · exact .inr hle
  · left
    have hcolon : word ++ [':'] <+: s :=
      List.IsPrefix.trans ⟨[':'], by rw [List.append_assoc]; rfl⟩ hword
    have hshort : (before ++ "->".toList).length ≤ (word ++ [':']).length := by
      simp only [List.length_append, String.length_toList, List.length_singleton]
      have harrow : "->".length = 2 := rfl
      omega
    -- the arrow begins before the mark, so it goes no further than the first colon, and a colon does not end it
    rcases List.prefix_concat_iff.1 (List.prefix_of_prefix_length_le hbefore hcolon hshort) with hsame | hinside
    · have hlast := congrArg List.getLast? hsame
      rw [List.getLast?_concat, List.getLast?_append] at hlast
      exact absurd (Option.some.inj hlast) (by decide)
    · exact hinside

/-- Behind a cut at the first name space mark, a cut at the first arrow is one at the first mark of all. -/
theorem isFirstCutAmong_before {s word rest : Text} (hword : Text.IsFirstCut "::".toList s word rest) :
    Text.IsFirstCutAmong receiverMarks s (Text.before "->".toList word) := by
  unfold Text.before
  cases hcut : Text.cut? "->".toList word with
  | none =>
    refine ⟨⟨_, colons_mem_receiverMarks, hword.isPrefix⟩, fun mark hmark before hbefore => ?_⟩
    rcases List.mem_pair.1 hmark with rfl | rfl
    · exact hword.length_le hbefore
    · rcases isPrefix_or_length_le hword.isPrefix hbefore with hinside | hle
      · exact absurd ((List.suffix_append _ _).isInfix.trans hinside.isInfix) (Text.cut?_eq_none.1 hcut)
      · exact hle
  | some p =>
    obtain ⟨stem, after⟩ := p
    have hstem := Text.cut?_eq_some_iff.1 hcut
    have hle : stem.length ≤ word.length := by
      rw [hstem.1]
      simp only [List.length_append]
      omega
    have hfront := hstem.isPrefix.trans ((List.prefix_append _ _).trans hword.isPrefix)
    refine ⟨⟨_, arrow_mem_receiverMarks, hfront⟩, fun mark hmark before hbefore => ?_⟩
    rcases List.mem_pair.1 hmark with rfl | rfl
    · exact hle.trans (hword.length_le hbefore)
    · rcases isPrefix_or_length_le hword.isPrefix hbefore with hinside | hlater
      · exact hstem.length_le hinside
      · exact hle.trans hlater

/-- The receiver ends where the first mark begins, with an arrow. -/
theorem exists_isFirstCutAmong_receiverOf (h : ∃ mark ∈ receiverMarks, mark <:+: variableOf name) :
    ∃ word, Text.IsFirstCutAmong receiverMarks (variableOf name) word ∧ receiverOf name = word ++ "->".toList := by
  unfold receiverOf
  cases hcolon : Text.cut? "::".toList (variableOf name) with
  | some p =>
    obtain ⟨word, rest⟩ := p
    have hbefore : arrowAt "::".toList (variableOf name) = word ++ "->".toList := by rw [arrowAt, hcolon]
    obtain ⟨after, harrow⟩ := Text.exists_cut?_append_pair (by decide : '-' ≠ '>') word
    refine ⟨Text.before "->".toList word, isFirstCutAmong_before (Text.cut?_eq_some_iff.1 hcolon), ?_⟩
    rw [hbefore, arrowAt, show "->".toList = ['-', '>'] from rfl, harrow]
  | none =>
    have hsame : arrowAt "::".toList (variableOf name) = variableOf name := by rw [arrowAt, hcolon]
    have hnone := Text.cut?_eq_none.1 hcolon
    have harrow : "->".toList <:+: variableOf name := by
      obtain ⟨mark, hmark, hinfix⟩ := h
      rcases List.mem_pair.1 hmark with rfl | rfl
      · exact absurd hinfix hnone
      · exact hinfix
    cases hcut : Text.cut? "->".toList (variableOf name) with
    | none => exact absurd harrow (Text.cut?_eq_none.1 hcut)
    | some p =>
      obtain ⟨word, rest⟩ := p
      have hword := Text.cut?_eq_some_iff.1 hcut
      refine ⟨word, ⟨⟨_, arrow_mem_receiverMarks, hword.isPrefix⟩, ?_⟩, ?_⟩
      · intro mark hmark before hbefore
        rcases List.mem_pair.1 hmark with rfl | rfl
        · exact absurd ((List.suffix_append _ _).isInfix.trans hbefore.isInfix) hnone
        · exact hword.length_le hbefore
      · rw [hsame, arrowAt, hcut]

theorem receiverOf_of_not_infix (h : ∀ mark ∈ receiverMarks, ¬ mark <:+: variableOf name) :
    receiverOf name = variableOf name := by
  obtain ⟨hcolon, harrow⟩ := cut?_eq_none_of_not_infix h
  have hsame : arrowAt "::".toList (variableOf name) = variableOf name := by rw [arrowAt, hcolon]
  rw [receiverOf, hsame, arrowAt, harrow]

/-! ### Scopes -/

/-- A text without an arrow, which begins with the sigil, is in the scope behind the sigil. -/
theorem scopeOf_arrow (h : ¬ "->".toList <:+: '$' :: stem) : scopeOf ('$' :: stem ++ "->".toList) = stem := by
  have hcut := Text.cut?_append_pair (by decide : '-' ≠ '>') h []
  have hword : wordBefore? "->".toList ('$' :: stem ++ "->".toList) = some ('$' :: stem) := by
    rw [wordBefore?, show "->".toList = ['-', '>'] from rfl, hcut]
    simp
  unfold scopeOf
  simp only [hword, Option.some_or, Option.getD_some]
  rfl

theorem exists_receiverOf_eq (h : ∃ mark ∈ receiverMarks, mark <:+: variableOf name) :
    ∃ stem, Text.IsFirstCutAmong receiverMarks (variableOf name) ('$' :: stem) ∧
      receiverOf name = '$' :: stem ++ "->".toList ∧ scopeOf (receiverOf name) = stem := by
  obtain ⟨word, hfirst, hreceiver⟩ := exists_isFirstCutAmong_receiverOf h
  obtain ⟨stem, rfl⟩ : ∃ stem, word = '$' :: stem := by
    obtain ⟨mark, hmark, hfront⟩ := hfirst.1
    rw [variableOf_eq] at hfront
    cases word with
    | nil =>
      rcases List.mem_pair.1 hmark with rfl | rfl
      · exact absurd (List.cons_prefix_cons.1 hfront).1 (by decide)
      · exact absurd (List.cons_prefix_cons.1 hfront).1 (by decide)
    | cons c stem => exact ⟨stem, by rw [(List.cons_prefix_cons.1 hfront).1]⟩
  refine ⟨stem, hfirst, hreceiver, ?_⟩
  rw [hreceiver, scopeOf_arrow (hfirst.not_infix arrow_mem_receiverMarks (by decide))]

theorem scopeOf_of_not_infix {receiver : Text} (h : ∀ mark ∈ receiverMarks, ¬ mark <:+: receiver) :
    scopeOf receiver = [] := by
  obtain ⟨hcolon, harrow⟩ := cut?_eq_none_of_not_infix h
  rw [scopeOf, wordBefore?, wordBefore?, hcolon, harrow]
  rfl

/-- A function that comes from a usage message has no receiver yet, so in the general scope it gets the general one. -/
theorem receiverIn_general (h : source.scope = Source.generalScope) (hf : f.receiver = []) (name : Text) :
    receiverIn source f name = generalReceiver := by
  have htoken : source.token ≠ [] := by
    unfold Source.token
    split
    · split_ifs with hempty
      · rw [h]
        decide
      · exact hempty
    · rw [h]
      decide
  have hincludes : Text.includes source.token f.receiver = false := by
    rw [Bool.eq_false_iff, ne_eq, Text.includes_iff, hf, List.infix_nil]
    exact htoken
  rw [receiverIn, if_pos h, hincludes]
  rfl

/-! ### Arguments -/

theorem renameArgument_optional (v : Vocabulary) (a : Argument) : (renameArgument v a).optional = a.optional := by
  unfold renameArgument
  split
  · split <;> rfl
  · rfl

theorem renameArgument_name (v : Vocabulary) (a : Argument) :
    (renameArgument v a).name = Text.lastWord a.name := by
  unfold renameArgument Text.lastWord
  cases hlast : (Text.words a.name).getLast? with
  | none => rfl
  | some last =>
    dsimp only
    split_ifs with hsame
    · exact hsame.symm
    · rfl

theorem ofFunctions_eq (v : Vocabulary) (source : Source) (fs : List BoundFunction) :
    ofFunctions v source fs =
      (fs.filter fun f => !isPlaceholder (Text.trim f.name)).map (renamed v source) := by
  induction fs with
  | nil => rfl
  | cons f fs ih =>
    cases hwhole : isPlaceholder (Text.trim f.name) with
    | true =>
      have hnone : ofFunction? v source f = none := if_pos hwhole
      rw [List.filter_cons_of_neg (by simp [hwhole]), ← ih]
      exact List.filterMap_cons_none hnone
    | false =>
      have hsome : ofFunction? v source f = some (renamed v source f) := ofFunction?_eq_some_iff.2 ⟨hwhole, rfl⟩
      rw [List.filter_cons_of_pos (by simp [hwhole]), List.map_cons, ← ih]
      exact List.filterMap_cons_some hsome

/-! ### Script names as a whole -/

/-- What a record keeps when it gets its script name: its return type, and its arguments one by one, each as optional as
before and called by the last word of its name. -/
structure Keeps (f g : BoundFunction) : Prop where
  returns : g.returns = f.returns
  arguments : List.Forall₂ (fun a b : Argument => b.optional = a.optional ∧ b.name = Text.lastWord a.name)
    f.arguments g.arguments

theorem keeps_renamed (v : Vocabulary) (source : Source) (f : BoundFunction) : Keeps f (renamed v source f) where
  returns := rfl
  arguments := by
    refine List.forall₂_map_right_iff.2 (List.forall₂_same.2 fun a _ => ?_)
    exact ⟨renameArgument_optional v a, renameArgument_name v a⟩

/-- Outside the general scope the receiver is the variable up to its first mark with an arrow, or all of it. -/
theorem renamed_of_ne_general (hscope : source.scope ≠ Source.generalScope) (v : Vocabulary) (f : BoundFunction) :
    let g := renamed v source f
    let object := variableOf (Text.trim f.name)
    ((∃ mark ∈ receiverMarks, mark <:+: object) →
      ∃ stem, Text.IsFirstCutAmong receiverMarks object ('$' :: stem) ∧
        g.receiver = '$' :: stem ++ "->".toList ∧ g.scope = Title.ofScope stem) ∧
    ((∀ mark ∈ receiverMarks, ¬ mark <:+: object) → g.receiver = object ∧ g.scope = []) := by
  intro g object
  have hreceiver : g.receiver = receiverOf (Text.trim f.name) := if_neg hscope
  have hscopeOf : g.scope = Title.ofScope (scopeOf (receiverOf (Text.trim f.name))) :=
    congrArg (fun receiver => Title.ofScope (scopeOf receiver)) hreceiver
  constructor
  · intro hmark
    obtain ⟨stem, hfirst, hstem, hscopeStem⟩ := exists_receiverOf_eq hmark
    exact ⟨stem, hfirst, hreceiver.trans hstem, by rw [hscopeOf, hscopeStem]⟩
  · intro hnone
    rw [hreceiver, hscopeOf, receiverOf_of_not_infix hnone, scopeOf_of_not_infix hnone]
    exact ⟨rfl, rfl⟩

/-- In the general scope a scan gives every function the same receiver. -/
theorem receiver_of_general (hscope : source.scope = Source.generalScope) {events : Bool} {text : Text}
    (hf : f ∈ (Scan.ofText v events source text).functions) :
    f.receiver = "quest::".toList ∧ f.scope = "Quest".toList := by
  obtain ⟨d, hd, -, hrenamed⟩ := Scan.mem_functions.1 hf
  obtain ⟨-, rfl⟩ := ofFunction?_eq_some_iff.1 hrenamed
  have hreceiver := receiverIn_general hscope (Scan.receiver_of_mem_declarations hd) (Text.trim d.function.name)
  have htitle : Title.ofScope (scopeOf generalReceiver) = "Quest".toList := by decide
  exact ⟨hreceiver, (congrArg (fun receiver => Title.ofScope (scopeOf receiver)) hreceiver).trans htitle⟩

/-- Outside the general scope the receiver and the scope of a method are what stands in front of the first mark of its
variable, and its name is what stands between the name space and the arrow.  In the general scope a scan gives every
function the same receiver.  Either way the records stay in order and keep everything else. -/
theorem ofFunctions_closed_form (v : Vocabulary) (source : Source) :
    (source.scope ≠ Source.generalScope → ∀ f : BoundFunction,
      let name := Text.trim f.name
      let object := '$' :: Text.replace "hateentry".toList "hate_entry".toList
        (Text.replace "entitylist".toList "entity_list".toList (Text.lowercase name))
      name ≠ [] → name ≠ "%s".toList → ∃ g, ofFunction? v source f = some g ∧
        ((∃ mark ∈ receiverMarks, mark <:+: object) →
          ∃ stem, Text.IsFirstCutAmong receiverMarks object ('$' :: stem) ∧
            g.receiver = '$' :: stem ++ "->".toList ∧ g.scope = Title.ofScope stem) ∧
        ((∀ mark ∈ receiverMarks, ¬ mark <:+: object) → g.receiver = object ∧ g.scope = []) ∧
        ∃ rest core, Text.IsAfter "::".toList name rest ∧ Text.IsBefore "->".toList rest core ∧
          g.name = dropSigil core) ∧
    (source.scope = Source.generalScope → ∀ events text, ∀ f ∈ (Scan.ofText v events source text).functions,
      f.receiver = "quest::".toList ∧ f.scope = "Quest".toList) ∧
    ∀ fs : List BoundFunction,
      List.Forall₂ Keeps (fs.filter fun f => Text.trim f.name ≠ [] ∧ Text.trim f.name ≠ "%s".toList)
        (ofFunctions v source fs) := by
  refine ⟨?_, fun hscope events text f hf => receiver_of_general hscope hf, fun fs => ?_⟩
  · intro hscope f name object hempty hholder
    have hwhole : isPlaceholder name = false := by
      rw [Bool.eq_false_iff, ne_eq, isPlaceholder_iff, not_or]
      exact ⟨hempty, hholder⟩
    have hobject : variableOf name = object := variableOf_eq name
    obtain ⟨hmark, hnone⟩ := renamed_of_ne_general hscope v f
    obtain ⟨rest, hrest⟩ := Text.exists_isAfter "::".toList name
    obtain ⟨core, hcore⟩ := Text.exists_isBefore "->".toList rest
    rw [hobject] at hmark hnone
    exact ⟨renamed v source f, ofFunction?_eq_some_iff.2 ⟨hwhole, rfl⟩, hmark, hnone, rest, core, hrest, hcore,
      bareOf_eq hrest hcore⟩
  · have hfilter : (fs.filter fun f => Text.trim f.name ≠ [] ∧ Text.trim f.name ≠ "%s".toList) =
        fs.filter fun f => !isPlaceholder (Text.trim f.name) := by
      refine List.filter_congr fun f _ => ?_
      rw [Bool.eq_iff_iff, decide_eq_true_iff, Bool.not_eq_true', Bool.eq_false_iff, ← not_or, ← isPlaceholder_iff]
    rw [hfilter, ofFunctions_eq]
    exact List.forall₂_map_right_iff.2 (List.forall₂_same.2 fun f _ => keeps_renamed v source f)

/-- The arrow comes before the name space mark, and the variable has an underscore that the name has not. -/
theorem ofFunctions_closed_form_entity_list :
    let source : Source := ⟨[], "EntityList".toList, none⟩
    let f : BoundFunction := ⟨[], "EntityList->Mob::$Get->x".toList, [], none, []⟩
    let object := "$entity_list->mob::$get->x".toList
    source.scope ≠ Source.generalScope ∧ Text.trim f.name ≠ [] ∧ Text.trim f.name ≠ "%s".toList ∧
      (∃ mark ∈ receiverMarks, mark <:+: object) ∧
      ∃ g, ofFunction? ⟨[], [], [], [], []⟩ source f = some g ∧
        ∃ stem, Text.IsFirstCutAmong receiverMarks object ('$' :: stem) ∧
          g.receiver = '$' :: stem ++ "->".toList ∧ g.scope = Title.ofScope stem := by
  intro source f object
  have hscope : source.scope ≠ Source.generalScope := by decide
  have hempty : Text.trim f.name ≠ [] := by decide
  have hholder : Text.trim f.name ≠ "%s".toList := by decide
  have hmark : ∃ mark ∈ receiverMarks, mark <:+: object := by decide
  have hobject : '$' :: Text.replace "hateentry".toList "hate_entry".toList
      (Text.replace "entitylist".toList "entity_list".toList (Text.lowercase (Text.trim f.name))) = object := by
    decide +kernel
  obtain ⟨g, hg, hcut, -, -⟩ :=
    (ofFunctions_closed_form ⟨[], [], [], [], []⟩ source).1 hscope f hempty hholder
  rw [hobject] at hcut
  exact ⟨hscope, hempty, hholder, hmark, g, hg, hcut hmark⟩

end ScriptName

end BindingDocs
