import BindingDocs.Outline
import BindingDocs.Proofs.ReadingBack
import BindingDocs.Proofs.WrittenNames

/-!
# Reading a scope page back

The list of a scope is free text made of names that stand in sources, and yet it determines the signatures in it
(`map_signature_eq_of_flatMap_signatureLine_eq`).  A line is read from the left: the receiver ends with the first arrow
unless it is that of the general scope (`IsReceiver.append_inj`), the name at the first parenthesis, the arguments at
the next one, and the return type at a bar.  The link after it follows from the scope and the name, and the scope from
the receiver, so nothing has to be known of the characters in it.
-/

namespace BindingDocs

/-! ### Parts of a line -/

namespace ValueType

theorem name_inj {type type' : ValueType} (h : type.name = type'.name) : type = type' := by
  cases type <;> cases type' <;> first | rfl | exact absurd h (by decide)

end ValueType

namespace Argument

variable {a b : Argument}

theorem signature_inj (ha : ' ' ∉ a.name) (hb : ' ' ∉ b.name) (h : a.signature = b.signature) :
    a.name = b.name ∧ a.type? = b.type? := by
  obtain ⟨name, type?, _⟩ := a
  obtain ⟨name', type?', _⟩ := b
  cases type? with
  | none =>
    cases type?' with
    | none => exact ⟨h, rfl⟩
    | some type' =>
      obtain rfl : name = type'.name ++ ' ' :: name' := h
      exact absurd (List.mem_append_right _ List.mem_cons_self) ha
  | some type =>
    cases type?' with
    | none =>
      obtain rfl : type.name ++ ' ' :: name = name' := h
      exact absurd (List.mem_append_right _ List.mem_cons_self) hb
    | some type' =>
      -- from the right the first space is the one in front of the name
      have hreverse : (type.name ++ ' ' :: name).reverse = (type'.name ++ ' ' :: name').reverse :=
        congrArg List.reverse h
      simp only [List.reverse_append, List.reverse_cons, List.append_assoc, List.singleton_append] at hreverse
      obtain ⟨hname, htypes⟩ := Text.append_cons_inj (mt List.mem_reverse.1 ha) (mt List.mem_reverse.1 hb) hreverse
      exact ⟨List.reverse_inj.1 hname, congrArg some (ValueType.name_inj (List.reverse_inj.1 htypes))⟩

theorem notMem_signature {c : Char} (htype : ∀ type : ValueType, c ∉ type.name) (hc : c ≠ ' ') (ha : c ∉ a.name) :
    c ∉ a.signature := by
  unfold signature
  split
  · rename_i type _
    simp [htype type, hc, ha]
  · exact ha

theorem signature_ne_nil (ha : a.name ≠ []) : a.signature ≠ [] := by
  unfold signature
  split
  · simp
  · exact ha

end Argument

namespace BoundFunction

variable {f g : BoundFunction}

theorem bar_notMem_returnName (f : BoundFunction) : '|' ∉ f.returnName := by
  unfold returnName
  cases f.returns with
  | none => decide
  | some type => cases type <;> decide

theorem returnName_inj (h : f.returnName = g.returnName) : f.returns = g.returns := by
  unfold returnName at h
  cases hf : f.returns with
  | none =>
    cases hg : g.returns with
    | none => rfl
    | some type =>
      rw [hf, hg] at h
      cases type <;> exact absurd h (by decide)
  | some type =>
    cases hg : g.returns with
    | none =>
      rw [hf, hg] at h
      cases type <;> exact absurd h (by decide)
    | some type' =>
      rw [hf, hg] at h
      exact congrArg some (ValueType.name_inj h)

end BoundFunction

namespace ScriptName

/-- What a function that belongs to a scope is called on: the general receiver, or a variable and an arrow. -/
inductive IsReceiver : Text → Prop where
  | general : IsReceiver generalReceiver
  | method {stem : Text} (h : ¬ "->".toList <:+: '$' :: stem) : IsReceiver ('$' :: stem ++ "->".toList)

theorem IsReceiver.append_inj {r q x y : Text} (hr : IsReceiver r) (hq : IsReceiver q) (h : r ++ x = q ++ y) :
    r = q ∧ x = y := by
  have hsigil : 'q' ≠ '$' := by decide
  cases hr with
  | general =>
    cases hq with
    | general => exact ⟨rfl, List.append_cancel_left h⟩
    | method _ => exact absurd (List.cons.inj h).1 hsigil
  | @method stem hstem =>
    cases hq with
    | general => exact absurd (List.cons.inj h).1.symm hsigil
    | @method stem' hstem' =>
      have hcut := Text.cut?_append_pair (by decide : '-' ≠ '>') hstem x
      have hcut' := Text.cut?_append_pair (by decide : '-' ≠ '>') hstem' y
      have hsame : '$' :: stem ++ '-' :: '>' :: x = '$' :: stem' ++ '-' :: '>' :: y := by simpa using h
      rw [hsame, hcut'] at hcut
      obtain ⟨hstems, rfl⟩ := Prod.mk.inj (Option.some.inj hcut)
      exact ⟨by rw [hstems], rfl⟩

end ScriptName

/-! ### Lines -/

/-- What a line says about a function, the link to its page aside. -/
structure Signature where
  receiver : Text
  name : Text
  scope : Text
  returns : Option ValueType
  /-- The names and types of the arguments that a caller passes. -/
  arguments : List (Text × Option ValueType)
  deriving DecidableEq, Repr

namespace BoundFunction

def signature (f : BoundFunction) : Signature :=
  ⟨f.receiver, f.name, f.scope, f.returns, f.callArguments.map fun a => (a.name, a.type?)⟩

/-- The parts of the signature can be told apart in a line. -/
structure IsLegible (f : BoundFunction) : Prop where
  receiver : ScriptName.IsReceiver f.receiver
  scope : f.scope = Title.ofScope (ScriptName.scopeOf f.receiver)
  name : '(' ∉ f.name
  arguments : ∀ a ∈ f.arguments, a.name ≠ [] ∧ ' ' ∉ a.name ∧ ',' ∉ a.name ∧ ')' ∉ a.name

variable {f g : BoundFunction}

theorem IsLegible.signature_pieces (hf : f.IsLegible) :
    ∀ p ∈ f.callArguments.map Argument.signature, p ≠ [] ∧ ',' ∉ p ∧ ')' ∉ p := by
  rintro p hp
  obtain ⟨a, ha, rfl⟩ := List.mem_map.1 hp
  obtain ⟨hempty, -, hcomma, hclose⟩ := hf.arguments a (List.mem_of_mem_filter ha)
  refine ⟨Argument.signature_ne_nil hempty, ?_, ?_⟩
  · exact Argument.notMem_signature (fun type => by cases type <;> decide) (by decide) hcomma
  · exact Argument.notMem_signature (fun type => by cases type <;> decide) (by decide) hclose

/-- No parenthesis closes before the end of the arguments. -/
theorem IsLegible.close_notMem (hf : f.IsLegible) :
    ')' ∉ Text.join ", ".toList (f.callArguments.map Argument.signature) := by
  intro hclose
  cases hpieces : f.callArguments.map Argument.signature with
  | nil => simp [hpieces, Text.join] at hclose
  | cons p ps =>
    have hp := hf.signature_pieces
    rw [hpieces] at hclose hp
    rw [Text.join_cons, List.mem_append, List.mem_flatMap] at hclose
    rcases hclose with hclose | ⟨q, hq, hclose⟩
    · exact (hp p List.mem_cons_self).2.2 hclose
    · rcases List.mem_append.1 hclose with hclose | hclose
      · exact absurd hclose (by decide)
      · exact (hp q (List.mem_cons_of_mem p hq)).2.2 hclose

theorem IsLegible.arguments_eq (hf : f.IsLegible) (hg : g.IsLegible)
    (h : f.callArguments.map Argument.signature = g.callArguments.map Argument.signature) :
    (f.callArguments.map fun a => (a.name, a.type?)) = g.callArguments.map fun a => (a.name, a.type?) := by
  rw [← List.forall₂_eq_eq_eq, List.forall₂_map_left_iff, List.forall₂_map_right_iff] at h ⊢
  obtain ⟨hlength, hpairs⟩ := List.forall₂_iff_zip.1 h
  refine List.forall₂_iff_zip.2 ⟨hlength, fun {a b} hab => ?_⟩
  obtain ⟨ha, hb⟩ := List.of_mem_zip hab
  have hspace (f : BoundFunction) (hf : f.IsLegible) {a : Argument} (ha : a ∈ f.callArguments) : ' ' ∉ a.name :=
    (hf.arguments a (List.mem_of_mem_filter ha)).2.1
  obtain ⟨hname, htype⟩ := Argument.signature_inj (hspace f hf ha) (hspace g hg hb) (hpairs hab)
  rw [hname, htype]

theorem signatureLine_append (f : BoundFunction) (x : Text) :
    f.signatureLine ++ x = "* [[".toList ++ (f.receiver ++ (f.name ++ '(' ::
      (Text.join ", ".toList (f.callArguments.map Argument.signature) ++ ')' ::
        (" # ".toList ++ (f.returnName ++ '|' ::
          (PageName.functionLink f.scope f.name ++ ("]]\n".toList ++ x))))))) := by
  have hclose : ") # ".toList = ')' :: " # ".toList := rfl
  unfold signatureLine
  simp only [hclose, List.append_assoc, List.cons_append]

/-- A line tells the signature and where it ends. -/
theorem readsBack_signatureLine : Text.ReadsBack IsLegible (fun _ => True) signatureLine signature := by
  intro f g hf hg x y _ _ h
  rw [signatureLine_append, signatureLine_append] at h
  obtain ⟨hreceiver, hname⟩ := hf.receiver.append_inj hg.receiver (List.append_cancel_left h)
  obtain ⟨hname, harguments⟩ := Text.append_cons_inj hf.name hg.name hname
  obtain ⟨harguments, hreturns⟩ := Text.append_cons_inj hf.close_notMem hg.close_notMem harguments
  obtain ⟨hreturns, hlink⟩ :=
    Text.append_cons_inj (bar_notMem_returnName f) (bar_notMem_returnName g) (List.append_cancel_left hreturns)
  -- the link is made of the scope and the name, and the receiver tells the scope
  have hscope : f.scope = g.scope := by rw [hf.scope, hg.scope, hreceiver]
  have hpieces := Text.join_inj (fun p hp => ⟨(hf.signature_pieces p hp).1, (hf.signature_pieces p hp).2.1⟩)
    (fun p hp => ⟨(hg.signature_pieces p hp).1, (hg.signature_pieces p hp).2.1⟩) harguments
  refine ⟨?_, ?_⟩
  · rw [signature, signature, hreceiver, hname, hscope, returnName_inj hreturns, hf.arguments_eq hg hpieces]
  · rw [hscope, hname] at hlink
    exact List.append_cancel_left (List.append_cancel_left hlink)

/-- The function is one of those that some scan gives. -/
def IsScanned (f : BoundFunction) : Prop :=
  ∃ v events source text, f ∈ (Scan.ofText v events source text).functions

theorem IsScanned.isReceiver (hf : f.IsScanned) (hscope : f.scope ≠ []) :
    ScriptName.IsReceiver f.receiver ∧ f.scope = Title.ofScope (ScriptName.scopeOf f.receiver) := by
  obtain ⟨v, events, source, text, hf⟩ := hf
  by_cases hgeneral : source.scope = Source.generalScope
  · obtain ⟨hreceiver, hquest⟩ := ScriptName.receiver_of_general hgeneral hf
    rw [hreceiver, hquest]
    exact ⟨.general, by decide⟩
  · obtain ⟨d, -, -, hrenamed⟩ := Scan.mem_functions.1 hf
    obtain ⟨-, rfl⟩ := ScriptName.ofFunction?_eq_some_iff.1 hrenamed
    obtain ⟨hmark, hnone⟩ := ScriptName.renamed_of_ne_general hgeneral v d.function
    refine ⟨?_, rfl⟩
    by_cases h : ∃ mark ∈ ScriptName.receiverMarks, mark <:+: ScriptName.variableOf (Text.trim d.function.name)
    · obtain ⟨stem, hfirst, hreceiver, -⟩ := hmark h
      rw [hreceiver]
      exact .method (hfirst.not_infix ScriptName.arrow_mem_receiverMarks (by decide))
    · exact absurd (hnone fun mark hmark hinfix => h ⟨mark, hmark, hinfix⟩).2 hscope

/-- A scan gives the function, it belongs to a scope, and no name of an argument is mere white space. -/
structure IsListed (f : BoundFunction) : Prop where
  scanned : f.IsScanned
  scope : f.scope ≠ []
  arguments : ∀ a ∈ f.arguments, ∃ c ∈ a.name, isBlank c = false

theorem IsListed.isLegible (h : f.IsListed) : f.IsLegible := by
  obtain ⟨hreceiver, htitle⟩ := h.scanned.isReceiver h.scope
  obtain ⟨v, events, source, text, hf⟩ := h.scanned
  obtain ⟨o, -, usage, ⟨before, rest, -, hread⟩, hstems⟩ := Scan.exists_stems_of_mem_functions hf
  refine ⟨hreceiver, htitle, ?_, fun a ha => ?_⟩
  · rw [hstems.name]
    exact fun hopen => Usage.notMem_name_of_read? hread ((ScriptName.bareOf_sublist _).subset hopen)
  · obtain ⟨written, hmem, hwritten⟩ := hstems.exists_isWritten ha
    obtain ⟨hcomma, hclose, -⟩ := Usage.notMem_argument_of_read? hread hmem
    have hname := h.arguments a ha
    refine ⟨?_, fun hc => ?_, fun hc => hcomma (hwritten.mem_of_mem_name hc).1,
      fun hc => hclose (hwritten.mem_of_mem_name hc).1⟩
    · obtain ⟨c, hc, -⟩ := hname
      exact List.ne_nil_of_mem hc
    · exact absurd (hwritten.isBlank_name hname _ hc) (by decide)

/-- Lists of functions with the same lines have the same signatures, one by one. -/
theorem map_signature_eq_of_flatMap_signatureLine_eq {fs gs : List BoundFunction} (hfs : ∀ f ∈ fs, f.IsListed)
    (hgs : ∀ g ∈ gs, g.IsListed) (h : fs.flatMap signatureLine = gs.flatMap signatureLine) :
    fs.map signature = gs.map signature := by
  have hlines : Text.ReadsBack (fun fs : List BoundFunction => ∀ f ∈ fs, f.IsLegible) (· = [])
      (fun fs => fs.flatMap signatureLine) (List.map signature) := by
    refine readsBack_signatureLine.flatMap (fun _ _ => trivial) (fun _ _ _ => trivial) ?_
    rintro f - x rfl hnil
    exact absurd (List.prefix_nil.1 hnil) (List.cons_ne_nil _ _)
  exact (hlines (fun f hf => (hfs f hf).isLegible) (fun g hg => (hgs g hg).isLegible) rfl rfl
    (congrArg (· ++ []) h)).1

/-- The line does not show that an argument is optional, and the signatures are the same all the same. -/
theorem map_signature_eq_of_brackets :
    let f : BoundFunction := ⟨"$mob->".toList, "Get".toList, "Mob".toList, none, [⟨"x".toList, none, true⟩]⟩
    let g : BoundFunction := ⟨"$mob->".toList, "Get".toList, "Mob".toList, none, [⟨"x".toList, none, false⟩]⟩
    (∀ h ∈ [f], h.IsListed) ∧ (∀ h ∈ [g], h.IsListed) ∧
      [f].flatMap signatureLine = [g].flatMap signatureLine ∧ [f].map signature = [g].map signature := by
  intro f g
  have hf : f.IsScanned := ⟨⟨[], [], [], [], []⟩, false, ⟨[], "Mob".toList, none⟩,
    "\tPerl_croak(aTHX_ \"Usage: Mob::Get([x])\");\n".toList, by decide +kernel⟩
  have hg : g.IsScanned := ⟨⟨[], [], [], [], []⟩, false, ⟨[], "Mob".toList, none⟩,
    "\tPerl_croak(aTHX_ \"Usage: Mob::Get(x)\");\n".toList, by decide +kernel⟩
  have hname : ∃ c ∈ "x".toList, isBlank c = false := ⟨'x', List.mem_cons_self, rfl⟩
  have hfs : ∀ h ∈ [f], h.IsListed :=
    List.forall_mem_singleton.2 ⟨hf, by decide, List.forall_mem_singleton.2 hname⟩
  have hgs : ∀ h ∈ [g], h.IsListed :=
    List.forall_mem_singleton.2 ⟨hg, by decide, List.forall_mem_singleton.2 hname⟩
  have hlines : [f].flatMap signatureLine = [g].flatMap signatureLine := rfl
  exact ⟨hfs, hgs, hlines, map_signature_eq_of_flatMap_signatureLine_eq hfs hgs hlines⟩

end BoundFunction

end BindingDocs
