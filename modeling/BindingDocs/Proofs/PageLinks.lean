import BindingDocs.Proofs.PageNames

/-!
# Links and the files they lead to

A file has the title of the scope and the name of the function as it is, a link has it the other way round
(`functionPage_eq_functionLink_iff`).  Scopes are titles, so a link fails where the name of the function is no title:
for a word, where it begins with a small letter (`ofText_eq_self_iff`).  The names of events begin with a capital, and
the links to them lead somewhere (`links_match_files`).
-/

namespace BindingDocs

namespace Text

/-- The text has letters and digits of ASCII and underscores only. -/
def IsWord (s : Text) : Prop := ∀ c ∈ s, c.isAlphanum = true ∨ c = '_'

instance (s : Text) : Decidable (IsWord s) :=
  List.decidableBAll (fun c : Char => c.isAlphanum = true ∨ c = '_') s

theorem toNat_lt_of_isAlphanum {c : Char} (hc : c.isAlphanum = true) : c.toNat < 0x80 := by
  rcases Bool.or_eq_true_iff.1 hc with halpha | hdigit
  · exact (Bool.or_eq_true_iff.1 halpha).elim toNat_lt_of_isUpper toNat_lt_of_isLower
  · have hle : c.toNat ≤ 0x39 := of_decide_eq_true (Bool.and_eq_true_iff.1 hdigit).2
    omega

end Text

namespace Title

theorem toNat_lt_of_mem_isWord {s : Text} (hs : Text.IsWord s) {c : Char} (hc : c ∈ s) : c.toNat < 0x80 := by
  rcases hs c hc with halphanum | rfl
  · exact Text.toNat_lt_of_isAlphanum halphanum
  · decide

theorem isSeparator_of_mem_isWord {s : Text} (hs : Text.IsWord s) {c : Char} (hc : c ∈ s) :
    isSeparator c = false := by
  rcases hs c hc with halphanum | rfl
  · simp [isSeparator, Text.toNat_lt_of_isAlphanum halphanum, halphanum]
  · decide

theorem ofText_cons_of_isWord {c : Char} {s : Text} (h : Text.IsWord (c :: s)) :
    ofText (c :: s) = c.toUpper :: s := by
  have hc : isSeparator c = false := isSeparator_of_mem_isWord h List.mem_cons_self
  have hrest : ofTextAfter false s = s := by
    have hword : ∀ d ∈ s, isSeparator d = false := fun d hd =>
      isSeparator_of_mem_isWord h (List.mem_cons_of_mem c hd)
    simpa [ofTextAfter] using ofTextAfter_false_append hword []
  have hstep : ofText (c :: s) = Text.upper c ++ ofTextAfter (isSeparator c) s := rfl
  rw [hstep, hc, hrest, Text.upper_of_ascii (toNat_lt_of_mem_isWord h List.mem_cons_self), List.singleton_append]

/-- A word is its own title unless it begins with a small letter. -/
theorem ofText_eq_self_iff {s : Text} (hs : Text.IsWord s) :
    ofText s = s ↔ ∀ c ∈ s.head?, c.isLower = false := by
  cases s with
  | nil => simp [ofText, ofTextAfter]
  | cons c s =>
    have hupper : c.toUpper = c ↔ c.isLower = false :=
      Text.forall_ascii (P := fun c => c.toUpper = c ↔ c.isLower = false) (by decide)
        (toNat_lt_of_mem_isWord hs List.mem_cons_self)
    rw [ofText_cons_of_isWord hs]
    simp [hupper]

end Title

namespace PageName

/-- The link to a function of a scope leads to its file exactly if the function's name is a title. -/
theorem functionPage_eq_functionLink_iff {scope : Text} (h : Title.IsTitle scope) (name : Text) :
    functionPage scope name = functionLink scope name ++ extension ↔ Title.ofText name = name := by
  have hpage : functionPage scope name = (start ++ scope ++ ['-']) ++ (name ++ extension) := by
    rw [functionPage, h.ofText]
    simp
  have hlink : functionLink scope name ++ extension =
      (start ++ scope ++ ['-']) ++ (Title.ofText name ++ extension) := by
    simp [functionLink]
  rw [hpage, hlink, List.append_cancel_left_eq, List.append_cancel_right_eq, eq_comm]

theorem eventPage_eq_eventLink {name : Text} (hword : Text.IsWord name) (hevent : "EVENT".toList <+: name) :
    eventPage name = eventLink name ++ extension := by
  have hcapital : ∀ c ∈ name.head?, c.isLower = false := by
    obtain ⟨rest, rfl⟩ := hevent
    intro c hc
    obtain rfl : 'E' = c := Option.some.inj hc
    decide
  rw [eventPage, eventLink, (Title.ofText_eq_self_iff hword).2 hcapital]

end PageName

namespace Scan

/-- The title of a title is that title, and so is the title of the title of a scope.  So the list of a scope is in the
file named for the scope, and the link to one of its functions leads to the function's file exactly if the function's
name is a title, which a word is unless it begins with a small letter.  The link to an event whose name is a word leads
to the event's file. -/
theorem links_match_files (v : Vocabulary) (events : Bool) (source : Source) (text : Text) :
    (∀ s : Text, Title.ofText (Title.ofText s) = Title.ofText s ∧
      Title.ofText (Title.ofScope s) = Title.ofScope s) ∧
    (∀ f ∈ (ofText v events source text).functions,
      PageName.scopePage f.scope = "Perl-".toList ++ f.scope ++ ".md".toList ∧
      ∀ name : Text, PageName.functionPage f.scope name = PageName.functionLink f.scope name ++ ".md".toList ↔
        Title.ofText name = name) ∧
    (∀ name : Text, Text.IsWord name → (Title.ofText name = name ↔ ∀ c ∈ name.head?, c.isLower = false)) ∧
    ∀ e ∈ (ofText v events source text).events, Text.IsWord e.name →
      PageName.eventPage e.name = PageName.eventLink e.name ++ ".md".toList := by
  refine ⟨fun s => ⟨Title.ofText_ofText s, Title.ofText_ofScope s⟩, ?_, ?_, ?_⟩
  · intro f hf
    have htitle : Title.IsTitle f.scope := isTitle_scope_of_mem_functions hf
    exact ⟨PageName.scopePage_eq htitle, PageName.functionPage_eq_functionLink_iff htitle⟩
  · intro name hword
    exact Title.ofText_eq_self_iff hword
  · intro e he hword
    exact PageName.eventPage_eq_eventLink hword (isPrefix_name_of_mem_events he)

/-- The link to a function that begins with a small letter leads nowhere, and that to an event leads to its page. -/
theorem links_match_files_additem :
    let scan := ofText ⟨[], [], [], [], []⟩ true ⟨[], "NPC".toList, none⟩
      "Perl_croak(aTHX_ \"Usage: NPC::additem(THIS)\");\ncase EVENT_SAY:".toList
    ∃ f ∈ scan.functions, ∃ e ∈ scan.events, Text.IsWord f.name ∧ Text.IsWord e.name ∧
      PageName.scopePage f.scope = "Perl-NPC.md".toList ∧
      PageName.functionPage f.scope f.name ≠ PageName.functionLink f.scope f.name ++ ".md".toList ∧
      PageName.eventPage e.name = PageName.eventLink e.name ++ ".md".toList := by
  intro scan
  have hfunction : ⟨"$npc->".toList, "additem".toList, "NPC".toList, none, [⟨"THIS".toList, none, false⟩]⟩ ∈
      scan.functions := by decide +kernel
  have hevent : ⟨"EVENT_SAY".toList, []⟩ ∈ scan.events := by decide +kernel
  obtain ⟨-, hfunctions, hwords, hevents⟩ := links_match_files ⟨[], [], [], [], []⟩ true ⟨[], "NPC".toList, none⟩
    "Perl_croak(aTHX_ \"Usage: NPC::additem(THIS)\");\ncase EVENT_SAY:".toList
  obtain ⟨hscope, hlink⟩ := hfunctions _ hfunction
  have hword : Text.IsWord "additem".toList := by decide
  have hsmall : ¬ ∀ c ∈ "additem".toList.head?, c.isLower = false := fun h =>
    absurd (h 'a' rfl) (by decide)
  refine ⟨_, hfunction, _, hevent, hword, by decide, hscope.trans (by decide), ?_, hevents _ hevent (by decide)⟩
  exact mt (hlink "additem".toList).1 (mt (hwords _ hword).1 hsmall)

end Scan

end BindingDocs
