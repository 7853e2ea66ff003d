import BindingDocs.Proofs.ReadingBack
import BindingDocs.Proofs.WrittenNames
import Mathlib.Data.List.DropRight
import Mathlib.Data.List.TakeWhile

/-!
# Usage messages read back

A usage message gives back the name and the arguments that it was written from (`read?_write`).  Each of the five cuts
has to be made at the mark that the writer put.

* The string literal ends at a quote, a parenthesis and a semicolon.  These neither stand in the name nor come about
  where the parts meet (`not_infix_call`), and they do not overlap themselves (`cut?_append_self`).
* The name and the arguments do not hold the parenthesis that ends them.  A default value ends the arguments, whatever
  comes after it.
* White space around the arguments does not count, so the one behind each comma does not, and neither does the one in
  front of a default value (`map_trim_splitOn_trim`).
-/

namespace BindingDocs

/-! ### Cuts -/

namespace Text

/-- A mark that does not repeat its first character cannot overlap itself. -/
theorem cut?_append_self {a : Char} {m w : Text} (ha : a ∉ m) (h : ¬ a :: m <:+: w) (t : Text) :
    cut? (a :: m) (w ++ (a :: m ++ t)) = some (w, t) := by
  rw [cut?_eq_some_iff]
  refine ⟨(List.append_assoc _ _ _).symm, fun before' rest' hsame => ?_⟩
  by_contra hlt
  rw [not_le] at hlt
  obtain ⟨gap, rfl⟩ : before' <+: w := by
    refine List.prefix_of_prefix_length_le ?_ (List.prefix_append w (a :: m ++ t)) hlt.le
    rw [hsame, List.append_assoc]
    exact List.prefix_append _ _
  have hgap : gap ≠ [] := by
    rintro rfl
    simp at hlt
  have hmeet : a :: m ++ rest' = gap ++ (a :: m ++ t) := by
    rw [List.append_assoc, List.append_assoc] at hsame
    exact (List.append_cancel_left hsame).symm
  rcases List.append_eq_append_iff.1 hmeet with ⟨inside, rfl, -⟩ | ⟨beyond, hbeyond, hrest⟩
  · exact h ⟨before', inside, List.append_assoc _ _ _⟩
  · -- the earlier mark ends with the beginning of the other one
    obtain ⟨g, gap, rfl⟩ := List.exists_cons_of_ne_nil hgap
    obtain ⟨rfl, rfl⟩ := List.cons.inj hbeyond
    cases beyond with
    | nil => exact h ⟨before', [], by simp⟩
    | cons b beyond =>
      obtain rfl := (List.cons.inj hrest).1
      exact ha (List.mem_append_right _ List.mem_cons_self)

theorem cut?_append_cons {c : Char} {w : Text} (h : c ∉ w) (s : Text) : cut? [c] (w ++ c :: s) = some (w, s) :=
  cut?_append_self List.not_mem_nil (mt (List.singleton_infix_iff c w).1 h) s

theorem before_append_cons {c : Char} {w : Text} (h : c ∉ w) (s : Text) : before [c] (w ++ c :: s) = w := by
  rw [before, cut?_append_cons h]
  rfl

theorem before_of_notMem {c : Char} {w : Text} (h : c ∉ w) : before [c] w = w := by
  have hnone : cut? [c] w = none := cut?_eq_none.2 (mt (List.singleton_infix_iff c w).1 h)
  rw [before, hnone]
  rfl

theorem not_infix_blank_append {a : Char} {m blank s : Text} (ha : isBlank a = false)
    (hblank : ∀ c ∈ blank, isBlank c = true) (h : ¬ a :: m <:+: s) : ¬ a :: m <:+: blank ++ s := by
  induction blank with
  | nil => exact h
  | cons c blank ih =>
    obtain ⟨hc, hblank⟩ := List.forall_mem_cons.1 hblank
    rw [List.cons_append, List.infix_cons_iff, not_or]
    refine ⟨fun hmark => ?_, ih hblank⟩
    obtain rfl := (List.cons_prefix_cons.1 hmark).1
    rw [ha] at hc
    cases hc

/-- A mark does not come about around a character that it does not hold. -/
theorem not_infix_append_cons {c : Char} {mark s t : Text} (hc : c ∉ mark) (hs : ¬ mark <:+: s)
    (ht : ¬ mark <:+: t) : ¬ mark <:+: s ++ c :: t := by
  have hfront : ∀ front, front <+: c :: t → (∀ d ∈ front, d ∈ mark) → front = [] := by
    intro front hprefix hsubset
    cases front with
    | nil => rfl
    | cons d front =>
      obtain rfl := (List.cons_prefix_cons.1 hprefix).1
      exact absurd (hsubset d List.mem_cons_self) hc
  rw [List.infix_append_iff, List.infix_cons_iff]
  rintro (hmark | (hmark | hmark) | ⟨back, front, rfl, hback, hmark⟩)
  · exact hs hmark
  · obtain rfl := hfront mark hmark fun _ => id
    exact hs (List.nil_infix)
  · exact ht hmark
  · obtain rfl := hfront front hmark fun d hd => List.mem_append_right back hd
    rw [List.append_nil] at hs
    exact hs hback.isInfix

/-! ### White space -/

theorem trim_blank_append {blank : Text} (h : ∀ c ∈ blank, isBlank c = true) (s : Text) :
    trim (blank ++ s) = trim s := by
  rw [trim, trim, trimStart, trimStart, List.dropWhile_append_of_pos h]

theorem trimEnd_append_blank {blank : Text} (h : ∀ c ∈ blank, isBlank c = true) (s : Text) :
    trimEnd (s ++ blank) = trimEnd s := by
  have hreverse : ∀ c ∈ blank.reverse, isBlank c = true := fun c hc => h c (List.mem_reverse.1 hc)
  rw [trimEnd, trimEnd, List.reverse_append, List.dropWhile_append_of_pos hreverse]

theorem trim_append_blank {blank : Text} (h : ∀ c ∈ blank, isBlank c = true) (s : Text) :
    trim (s ++ blank) = trim s := by
  have hblank : trimStart blank = [] := List.dropWhile_eq_nil_iff.2 h
  have hstart : trimStart (s ++ blank) = if (trimStart s).isEmpty then trimStart blank else trimStart s ++ blank :=
    List.dropWhile_append
  rw [trim, trim, hstart]
  split_ifs with hempty
  · rw [hblank, List.isEmpty_iff.1 hempty]
  · exact trimEnd_append_blank h _

theorem exists_eq_trim (s : Text) :
    ∃ front back, s = front ++ trim s ++ back ∧ (∀ c ∈ front, isBlank c = true) ∧ ∀ c ∈ back, isBlank c = true := by
  refine ⟨s.takeWhile isBlank, (trimStart s).rtakeWhile isBlank, ?_, fun c hc => List.mem_takeWhile_imp hc,
    fun c hc => List.mem_rtakeWhile_imp hc⟩
  have hend : trim s ++ (trimStart s).rtakeWhile isBlank = trimStart s := List.rdropWhile_append_rtakeWhile
  rw [List.append_assoc, hend]
  exact List.takeWhile_append_dropWhile.symm

/-! ### Pieces between commas -/

theorem map_trim_splitOn_blank_append {blank : Text} (h : ∀ c ∈ blank, isBlank c = true) (s : Text) :
    ((blank ++ s).splitOn ',').map trim = (s.splitOn ',').map trim := by
  have hblank : ',' ∉ blank := fun hc => absurd (h ',' hc) (by decide)
  by_cases hs : ',' ∈ s
  · obtain ⟨first, rest, rfl, hfirst⟩ := List.eq_append_cons_of_mem hs
    have hlead : ',' ∉ blank ++ first := by simp [hblank, hfirst]
    rw [← List.append_assoc, List.splitOn_append_cons_self_of_not_mem hlead,
      List.splitOn_append_cons_self_of_not_mem hfirst, List.map_cons, List.map_cons, trim_blank_append h]
  · have hall : ',' ∉ blank ++ s := by simp [hblank, hs]
    rw [List.splitOn_eq_singleton hall, List.splitOn_eq_singleton hs, List.map_singleton, List.map_singleton,
      trim_blank_append h]

theorem map_trim_splitOn_append_blank {blank : Text} (h : ∀ c ∈ blank, isBlank c = true) (s : Text) :
    ((s ++ blank).splitOn ',').map trim = (s.splitOn ',').map trim := by
  have hblank : ',' ∉ blank := fun hc => absurd (h ',' hc) (by decide)
  by_cases hs : ',' ∈ s
  · -- the last comma
    obtain ⟨last, rest, hsplit, hlast⟩ := List.eq_append_cons_of_mem (List.mem_reverse.2 hs)
    obtain rfl : s = rest.reverse ++ ',' :: last.reverse := by
      rw [← List.reverse_reverse s, hsplit]
      simp
    have hlast' : ',' ∉ last.reverse := by simpa using hlast
    have htail : ',' ∉ last.reverse ++ blank := by simp [hblank, hlast]
    rw [List.append_assoc, List.cons_append, List.splitOn_append_cons_self, List.splitOn_append_cons_self,
      List.splitOn_eq_singleton htail, List.splitOn_eq_singleton hlast', List.map_append, List.map_append,
      List.map_singleton, List.map_singleton, trim_append_blank h]
  · have hall : ',' ∉ s ++ blank := by simp [hblank, hs]
    rw [List.splitOn_eq_singleton hall, List.splitOn_eq_singleton hs, List.map_singleton, List.map_singleton,
      trim_append_blank h]

/-- White space at the ends of a text does not show in its trimmed pieces. -/
theorem map_trim_splitOn_trim (s : Text) : ((trim s).splitOn ',').map trim = (s.splitOn ',').map trim := by
  obtain ⟨front, back, hs, hfront, hback⟩ := exists_eq_trim s
  conv_rhs => rw [hs]
  rw [map_trim_splitOn_append_blank hback, map_trim_splitOn_blank_append hfront]

/-- Pieces that hold no comma are the pieces of the text that is joined from them. -/
theorem splitOn_join {p : Text} {ps : List Text} (h : ∀ q ∈ p :: ps, ',' ∉ q) :
    (join ", ".toList (p :: ps)).splitOn ',' = p :: ps.map (' ' :: ·) := by
  have hjoin : join ", ".toList (p :: ps) = [','].intercalate (p :: ps.map (' ' :: ·)) := by
    have hcomma := join_cons [','] p (ps.map (' ' :: ·))
    rw [join] at hcomma
    rw [join_cons, hcomma, List.flatMap_map]
    rfl
  rw [hjoin, List.splitOn_intercalate ',' ?_ (List.cons_ne_nil _ _)]
  intro q hq
  rcases List.mem_cons.1 hq with rfl | hq
  · exact h q List.mem_cons_self
  · obtain ⟨piece, hpiece, rfl⟩ := List.mem_map.1 hq
    have hcomma := h piece (List.mem_cons_of_mem p hpiece)
    simpa using hcomma

/-- Pieces that hold no comma come back, trimmed, from the text that is joined from them. -/
theorem filter_map_trim_splitOn_join {qs : List Text} (h : ∀ q ∈ qs, ',' ∉ q) :
    (((join ", ".toList qs).splitOn ',').map trim).filter (fun piece => !piece.isEmpty) =
      (qs.map trim).filter fun piece => !piece.isEmpty := by
  cases qs with
  | nil => rfl
  | cons q qs =>
    have hspace : ∀ c ∈ [' '], isBlank c = true := List.forall_mem_singleton.2 rfl
    have hblank (p : Text) : trim (' ' :: p) = trim p := trim_blank_append hspace p
    rw [splitOn_join h, List.map_cons, List.map_map, List.map_cons]
    simp only [Function.comp_def, hblank]

theorem join_append_cons (separator p t : Text) (qs ps : List Text) :
    join separator (qs ++ (p ++ t) :: ps) =
      join separator (qs ++ [p]) ++ (t ++ ps.flatMap fun q => separator ++ q) := by
  cases qs with
  | nil =>
    rw [List.nil_append, List.nil_append, join_cons, join_cons, List.flatMap_nil, List.append_nil, List.append_assoc]
  | cons q qs =>
    simp only [List.cons_append, join_cons, List.flatMap_append, List.flatMap_cons, List.flatMap_nil, List.append_assoc,
      List.append_nil]

theorem mem_or_exists_mem_of_mem_join {c : Char} {separator : Text} {ps : List Text} (h : c ∈ join separator ps) :
    c ∈ separator ∨ ∃ p ∈ ps, c ∈ p := by
  cases ps with
  | nil => cases h
  | cons p ps =>
    rw [join_cons, List.mem_append, List.mem_flatMap] at h
    rcases h with hc | ⟨q, hq, hc⟩
    · exact .inr ⟨p, List.mem_cons_self, hc⟩
    · rcases List.mem_append.1 hc with hc | hc
      · exact .inl hc
      · exact .inr ⟨q, List.mem_cons_of_mem p hq, hc⟩

end Text

namespace Usage

/-! ### Writing a message -/

/-- The message as it stands in the source, up to the end of its string literal. -/
def write (usage : Usage) : Text :=
  usage.name ++ '(' :: Text.join ", ".toList usage.arguments ++ ")\");".toList

/-- A piece that can be written as an argument, with or without a default value. -/
structure IsPiece (piece : Text) : Prop where
  trim : Text.trim piece = piece
  ne_nil : piece ≠ []
  comma : ',' ∉ piece
  close : ')' ∉ piece

instance : DecidablePred IsPiece := fun piece =>
  decidable_of_iff (Text.trim piece = piece ∧ piece ≠ [] ∧ ',' ∉ piece ∧ ')' ∉ piece)
    ⟨fun ⟨htrim, hne, hcomma, hclose⟩ => ⟨htrim, hne, hcomma, hclose⟩, fun ⟨htrim, hne, hcomma, hclose⟩ =>
      ⟨htrim, hne, hcomma, hclose⟩⟩

variable {lead name body following : Text}

theorem not_infix_call (hlead : ∀ c ∈ lead, isBlank c = true) (hend : ¬ "\");".toList <:+: name)
    (hclose : ')' ∉ body) : ¬ "\");".toList <:+: lead ++ name ++ '(' :: (body ++ [')']) := by
  have hbody : ¬ "\");".toList <:+: body ++ [')'] := by
    rw [List.infix_concat_iff, List.suffix_concat_iff]
    rintro ((hnil | ⟨front, hfront, -⟩) | hmark)
    · cases hnil
    · have hlast := congrArg List.getLast? hfront
      rw [List.getLast?_concat] at hlast
      cases hlast
    · exact hclose (hmark.subset (by decide))
  exact Text.not_infix_append_cons (by decide) (Text.not_infix_blank_append (by decide) hlead hend) hbody

/-- A message is read as its name and what is read between the parentheses. -/
theorem read?_call (hlead : ∀ c ∈ lead, isBlank c = true) (htrim : Text.trim name = name) (hne : name ≠ [])
    (hopen : '(' ∉ name) (hend : ¬ "\");".toList <:+: name) (hclose : ')' ∉ body) :
    read? (lead ++ name ++ '(' :: (body ++ [')']) ++ "\");".toList ++ following) =
      some ⟨name, readArguments (body ++ [')'])⟩ := by
  have hliteral : Text.cut? "\");".toList (lead ++ name ++ '(' :: (body ++ [')']) ++ ("\");".toList ++ following)) =
      some (lead ++ name ++ '(' :: (body ++ [')']), following) :=
    Text.cut?_append_self (by decide) (not_infix_call hlead hend hclose) following
  have hopen' : '(' ∉ lead ++ name := by
    rw [List.mem_append, not_or]
    exact ⟨fun hc => absurd (hlead '(' hc) (by decide), hopen⟩
  have hparenthesis : Text.cut? "(".toList (lead ++ name ++ '(' :: (body ++ [')'])) =
      some (lead ++ name, body ++ [')']) := Text.cut?_append_cons hopen' _
  have hname : Text.trim (lead ++ name) = name := by rw [Text.trim_blank_append hlead, htrim]
  rw [List.append_assoc _ _ following, read?, Text.before, hliteral]
  simp only [Option.map_some, Option.getD_some, hparenthesis, hname, if_neg hne]

/-! ### Reading arguments -/

theorem readArguments_append (hclose : ')' ∉ body) :
    readArguments (body ++ [')']) =
      (((Text.before "=".toList body).splitOn ',').map Text.trim).filter fun piece => !piece.isEmpty := by
  have hbefore : Text.before ")".toList (body ++ [')']) = body := Text.before_append_cons hclose []
  rw [readArguments, hbefore, Text.map_trim_splitOn_trim]

theorem notMem_join {c : Char} {pieces : List Text} (hc : c ∉ ", ".toList) (h : ∀ piece ∈ pieces, c ∉ piece) :
    c ∉ Text.join ", ".toList pieces := by
  intro hmem
  rcases Text.mem_or_exists_mem_of_mem_join hmem with hseparator | ⟨piece, hpiece, hmem⟩
  · exact hc hseparator
  · exact h piece hpiece hmem

/-- The pieces are read up to the default value, if `rest` begins with one. -/
theorem readArguments_join_append {pieces : List Text} {rest : Text} (hcomma : ∀ piece ∈ pieces, ',' ∉ piece)
    (hequals : ∀ piece ∈ pieces, '=' ∉ piece) (hrest : Text.IsMarked '=' rest)
    (hclose : ')' ∉ Text.join ", ".toList pieces ++ rest) :
    readArguments (Text.join ", ".toList pieces ++ rest ++ [')']) =
      (pieces.map Text.trim).filter fun piece => !piece.isEmpty := by
  have hjoin : '=' ∉ Text.join ", ".toList pieces := notMem_join (by decide) hequals
  have hbefore : Text.before "=".toList (Text.join ", ".toList pieces ++ rest) = Text.join ", ".toList pieces := by
    cases rest with
    | nil =>
      rw [List.append_nil]
      exact Text.before_of_notMem hjoin
    | cons c rest =>
      obtain rfl : c = '=' := hrest c rfl
      exact Text.before_append_cons hjoin rest
  rw [readArguments_append hclose, hbefore, Text.filter_map_trim_splitOn_join hcomma]

theorem filter_map_trim_of_isPiece {pieces : List Text} (h : ∀ piece ∈ pieces, IsPiece piece) :
    ((pieces.map Text.trim).filter fun piece => !piece.isEmpty) = pieces := by
  have htrim : pieces.map Text.trim = pieces := by
    rw [List.map_congr_left fun piece hpiece => (h piece hpiece).trim, List.map_id']
  rw [htrim, List.filter_eq_self]
  intro piece hpiece
  rw [Bool.not_eq_true', List.isEmpty_eq_false_iff]
  exact (h piece hpiece).ne_nil

/-! ### Messages as written -/

theorem read?_write_eq (hlead : ∀ c ∈ lead, isBlank c = true) (htrim : Text.trim name = name) (hne : name ≠ [])
    (hopen : '(' ∉ name) (hend : ¬ "\");".toList <:+: name) {pieces : List Text}
    (hclose : ')' ∉ Text.join ", ".toList pieces) (following : Text) :
    read? (lead ++ write ⟨name, pieces⟩ ++ following) =
      some ⟨name, readArguments (Text.join ", ".toList pieces ++ [')'])⟩ := by
  have hwrite : lead ++ write ⟨name, pieces⟩ ++ following =
      lead ++ name ++ '(' :: (Text.join ", ".toList pieces ++ [')']) ++ "\");".toList ++ following := by
    simp [write]
  rw [hwrite, read?_call hlead htrim hne hopen hend hclose]

/-- What is written is read: all of it, or what stands in front of the first default value. -/
theorem read?_write (hlead : ∀ c ∈ lead, isBlank c = true) (htrim : Text.trim name = name) (hne : name ≠ [])
    (hopen : '(' ∉ name) (hend : ¬ "\");".toList <:+: name) (following : Text) :
    (∀ pieces : List Text, (∀ piece ∈ pieces, IsPiece piece) → (∀ piece ∈ pieces, '=' ∉ piece) →
        read? (lead ++ write ⟨name, pieces⟩ ++ following) = some ⟨name, pieces⟩) ∧
      ∀ (earlier later : List Text) (n value : Text),
        (∀ piece ∈ earlier ++ (n ++ '=' :: value) :: later, IsPiece piece) → (∀ piece ∈ earlier, '=' ∉ piece) →
          '=' ∉ n →
            read? (lead ++ write ⟨name, earlier ++ (n ++ '=' :: value) :: later⟩ ++ following) =
              some ⟨name, earlier ++ if Text.trim n = [] then [] else [Text.trim n]⟩ := by
  constructor
  · intro pieces hpieces hequals
    have hclose : ')' ∉ Text.join ", ".toList pieces := notMem_join (by decide) fun piece h => (hpieces piece h).close
    have hcomma : ∀ piece ∈ pieces, ',' ∉ piece := fun piece h => (hpieces piece h).comma
    have hmarked : Text.IsMarked '=' [] := fun c hc => by cases hc
    have harguments := readArguments_join_append hcomma hequals hmarked (by rwa [List.append_nil])
    rw [List.append_nil, filter_map_trim_of_isPiece hpieces] at harguments
    rw [read?_write_eq hlead htrim hne hopen hend hclose, harguments]
  · intro earlier later n value hpieces hequals hn
    have hclose := notMem_join (by decide) fun piece h => (hpieces piece h).close
    obtain ⟨hearlier, hlater⟩ := List.forall_mem_append.1 hpieces
    have hcomma : ∀ piece ∈ earlier ++ [n], ',' ∉ piece := by
      refine List.forall_mem_append.2 ⟨fun piece h => (hearlier piece h).comma, List.forall_mem_singleton.2 ?_⟩
      exact fun hc => (hlater _ List.mem_cons_self).comma (List.mem_append_left _ hc)
    have hequals' : ∀ piece ∈ earlier ++ [n], '=' ∉ piece :=
      List.forall_mem_append.2 ⟨hequals, List.forall_mem_singleton.2 hn⟩
    have hmarked (rest : Text) : Text.IsMarked '=' ('=' :: rest) := fun c hc => (Option.some.inj hc).symm
    have hkept : ((earlier ++ [n]).map Text.trim).filter (fun piece => !piece.isEmpty) =
        earlier ++ if Text.trim n = [] then [] else [Text.trim n] := by
      rw [List.map_append, List.filter_append, filter_map_trim_of_isPiece hearlier]
      by_cases hblank : Text.trim n = []
      · simp [hblank]
      · simp [hblank]
    rw [read?_write_eq hlead htrim hne hopen hend hclose, Text.join_append_cons, List.cons_append]
    rw [Text.join_append_cons, List.cons_append] at hclose
    rw [readArguments_join_append hcomma hequals' (hmarked _) hclose, hkept]

/-- Marks stand where they end nothing: the beginning of the end of the literal in the name and in an argument, a
second equals sign, and commas and parentheses behind the end. -/
theorem read?_write_of_marks :
    read? ("\t ".toList ++ write ⟨"Foo ::\") bar".toList, ["THIS".toList, "[x; \"".toList]⟩ ++ "(a, b)\");".toList) =
        some ⟨"Foo ::\") bar".toList, ["THIS".toList, "[x; \"".toList]⟩ ∧
      read? ([] ++ write ⟨"a".toList, ["b(".toList, "c = d=".toList, "e".toList]⟩ ++ []) =
        some ⟨"a".toList, ["b(".toList, "c".toList]⟩ ∧
      read? ([] ++ write ⟨"a".toList, ["b".toList, "= c".toList]⟩ ++ []) = some ⟨"a".toList, ["b".toList]⟩ := by
  have hlead : ∀ c ∈ "\t ".toList, isBlank c = true := List.all_eq_true.1 rfl
  have hnone : ∀ c ∈ ([] : Text), isBlank c = true := fun c hc => absurd hc List.not_mem_nil
  refine ⟨?_, ?_, ?_⟩
  · exact (read?_write hlead (by decide) (by decide) (by decide) (by decide) _).1 _ (by decide) (by decide)
  · exact (read?_write hnone (by decide) (by decide) (by decide) (by decide) []).2 ["b(".toList] ["e".toList]
      "c ".toList " d=".toList (by decide) (by decide) (by decide)
  · exact (read?_write hnone (by decide) (by decide) (by decide) (by decide) []).2 ["b".toList] []
      [] " c".toList (by decide) (by decide) (by decide)

end Usage

end BindingDocs
