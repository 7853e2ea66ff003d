import BindingDocs.Text.Blank
import BindingDocs.Text.Case
import Mathlib.Data.List.Basic
import Mathlib.Tactic.SplitIfs

/-!
# Letter case

What is in upper case stays as it is in upper case (`upper_of_mem_upper`).  White space has no upper case
(`upper_of_isBlank`) and is none (`mem_upper_cases`).  Nothing in lower case is a capital letter of ASCII
(`isUpper_of_mem_lowercase`), and of its small letters `i` and `k` alone come from outside ASCII too (`lower_cases`).
Outside ASCII the tables of the mappings decide.  Two sets of code points from them are apart if their numbers in
binary, with one digit for each code point, have no digit in common (`apart_of_digits`).
-/

namespace BindingDocs.Text

/-! ### Sets of code points -/

/-- The number with the binary digit 1 at each place of a list. -/
def digits (places : List Nat) : Nat := places.foldr (fun n rest => rest ||| 1 <<< n) 0

private theorem testBit_digits (places : List Nat) (n : Nat) : (digits places).testBit n = decide (n ∈ places) := by
  induction places with
  | nil => simp [digits]
  | cons m places ih =>
    have hcons : digits (m :: places) = digits places ||| 1 <<< m := rfl
    rw [hcons, Nat.testBit_or, ih, Nat.one_shiftLeft, Nat.testBit_two_pow, Bool.eq_iff_iff, Bool.or_eq_true]
    simp only [decide_eq_true_eq, List.mem_cons]
    exact or_comm.trans (or_congr eq_comm Iff.rfl)

theorem apart_of_digits {ms ns : List Nat} (h : digits ms &&& digits ns = 0) {n : Nat} (hm : n ∈ ms) :
    n ∉ ns := by
  intro hn
  have hbit := congrArg (Nat.testBit · n) h
  simp [Nat.testBit_and, testBit_digits, hm, hn] at hbit

/-! ### Runs -/

namespace CaseRun

/-- The code points that a run moves. -/
def sources (run : CaseRun) : List Nat :=
  (List.range ((run.last - run.first) / run.step + 1)).map fun k => run.first + run.step * k

/-- The code points to which a run moves them. -/
def targets (run : CaseRun) : List Nat := run.sources.map fun (n : Nat) => ((n : Int) + run.shift).toNat

theorem image?_eq_some {run : CaseRun} {m n : Nat} (h : run.image? n = some m) :
    n ∈ run.sources ∧ m ∈ run.targets := by
  unfold image? at h
  split at h
  · rename_i hn
    have hsource : n ∈ run.sources := by
      refine List.mem_map.2 ⟨(n - run.first) / run.step, ?_, ?_⟩
      · rw [List.mem_range]
        have hle := Nat.div_le_div_right (c := run.step) (Nat.sub_le_sub_right hn.2.1 run.first)
        omega
      · rw [Nat.mul_div_cancel' (Nat.dvd_of_mod_eq_zero hn.2.2)]
        omega
    exact ⟨hsource, List.mem_map.2 ⟨n, hsource, Option.some.inj h⟩⟩
  · cases h

end CaseRun

/-- A code point that no run moves stays, and any other is moved to a target. -/
theorem mapCase_eq (runs : List CaseRun) (n : Nat) :
    mapCase runs n = n ∨ n ∈ runs.flatMap CaseRun.sources ∧ mapCase runs n ∈ runs.flatMap CaseRun.targets := by
  unfold mapCase
  cases hm : runs.findSome? (·.image? n) with
  | none => exact .inl rfl
  | some m =>
    obtain ⟨run, hrun, himage⟩ := List.exists_of_findSome?_eq_some hm
    obtain ⟨hsource, htarget⟩ := CaseRun.image?_eq_some himage
    exact .inr ⟨List.mem_flatMap.2 ⟨run, hrun, hsource⟩, List.mem_flatMap.2 ⟨run, hrun, htarget⟩⟩

/-! ### ASCII -/

theorem forall_ascii {P : Char → Prop} (h : ∀ n < 0x80, P (Char.ofNat n)) {c : Char} (hc : c.toNat < 0x80) :
    P c := by
  have hofNat := h c.toNat hc
  rwa [Char.ofNat_toNat] at hofNat

theorem toNat_ofNat {n : Nat} (h : n.isValidChar) : (Char.ofNat n).toNat = n :=
  congrArg Char.toNat (dif_pos h)

theorem toNat_lt_of_isUpper {c : Char} (hc : c.isUpper = true) : c.toNat < 0x80 := by
  have hle : c.toNat ≤ 0x5A := (of_decide_eq_true hc).2
  omega

theorem toNat_lt_of_isLower {c : Char} (hc : c.isLower = true) : c.toNat < 0x80 := by
  have hle : c.toNat ≤ 0x7A := of_decide_eq_true (Bool.and_eq_true_iff.1 hc).2
  omega

theorem toLower_of_not_ascii {c : Char} (hc : 0x80 ≤ c.toNat) : c.toLower = c := by
  refine dif_neg fun hupper => ?_
  have hle : c.toNat ≤ 0x5A := hupper.2
  omega

/-! ### Upper case -/

/-- The code points outside ASCII that are white space. -/
def blankPoints : List Nat :=
  [0x85, 0xA0, 0x1680] ++ List.range' 0x2000 11 ++ [0x2028, 0x2029, 0x202F, 0x205F, 0x3000]

theorem mem_blankPoints {c : Char} (hc : 0x80 ≤ c.toNat) (h : isBlank c = true) : c.toNat ∈ blankPoints := by
  simp only [isBlank, Bool.or_eq_true, Bool.and_eq_true, decide_eq_true_eq, beq_iff_eq] at h
  simp only [blankPoints, List.mem_append, List.mem_cons, List.mem_range'_1, List.not_mem_nil, or_false]
  omega

/-- The code points outside ASCII that have an upper case of their own. -/
def upperSources : List Nat := upperRuns.flatMap CaseRun.sources ++ upperExpansions.map Prod.fst

/-- The code points that the upper case of these consists of. -/
def upperTargets : List Nat := upperRuns.flatMap CaseRun.targets ++ upperExpansions.flatMap Prod.snd

private theorem upperTargets_apart : digits upperTargets &&& digits (upperSources ++ blankPoints) = 0 := by
  decide +kernel

private theorem blankPoints_apart : digits blankPoints &&& digits upperSources = 0 := by decide +kernel

private theorem of_mem_upperTargets :
    ∀ m ∈ upperTargets, m.isValidChar ∧ (m < 0x80 → (Char.ofNat m).isUpper = true ∧ m ≠ 'E'.toNat) := by
  decide +kernel

private theorem upperExpansions_ne_nil : ∀ p ∈ upperExpansions, p.2 ≠ [] := by decide

theorem upper_of_ascii {c : Char} (hc : c.toNat < 0x80) : upper c = [c.toUpper] := if_pos hc

/-- The upper case of a character outside ASCII is the character itself, or it comes from the tables. -/
theorem upper_cases {c : Char} (hc : 0x80 ≤ c.toNat) :
    upper c = [c] ∨ c.toNat ∈ upperSources ∧ upper c ≠ [] ∧ ∀ u ∈ upper c, u.toNat ∈ upperTargets := by
  unfold upper
  rw [if_neg (Nat.not_lt.2 hc)]
  split
  · rename_i expansion hlookup
    obtain ⟨before, after, hsplit, -⟩ := List.lookup_eq_some_iff.1 hlookup
    have hmem : (c.toNat, expansion) ∈ upperExpansions := hsplit ▸ by simp
    refine .inr ⟨List.mem_append_right _ (List.mem_map_of_mem (f := Prod.fst) hmem), ?_, ?_⟩
    · simpa using upperExpansions_ne_nil _ hmem
    · intro u hu
      obtain ⟨m, hm, rfl⟩ := List.mem_map.1 hu
      have htarget : m ∈ upperTargets := List.mem_append_right _ (List.mem_flatMap.2 ⟨_, hmem, hm⟩)
      rwa [toNat_ofNat (of_mem_upperTargets m htarget).1]
  · rcases mapCase_eq upperRuns c.toNat with hstay | ⟨hsource, htarget⟩
    · left
      rw [hstay, Char.ofNat_toNat]
    · refine .inr ⟨List.mem_append_left _ hsource, List.cons_ne_nil _ _, ?_⟩
      intro u hu
      obtain rfl := List.mem_singleton.1 hu
      have htarget := List.mem_append_left (upperExpansions.flatMap Prod.snd) htarget
      rw [toNat_ofNat (of_mem_upperTargets _ htarget).1]
      exact htarget

theorem upper_of_notMem {c : Char} (hc : 0x80 ≤ c.toNat) (h : c.toNat ∉ upperSources) : upper c = [c] :=
  (upper_cases hc).resolve_right fun hmoved => h hmoved.1

theorem upper_ne_nil (c : Char) : upper c ≠ [] := by
  by_cases hc : c.toNat < 0x80
  · rw [upper_of_ascii hc]
    exact List.cons_ne_nil _ _
  · rcases upper_cases (Nat.not_lt.1 hc) with hsame | ⟨-, hne, -⟩
    · rw [hsame]
      exact List.cons_ne_nil _ _
    · exact hne

/-- White space has no upper case. -/
theorem upper_of_isBlank {c : Char} (h : isBlank c = true) : upper c = [c] := by
  by_cases hc : c.toNat < 0x80
  · have hsame : c.toUpper = c :=
      forall_ascii (P := fun c => isBlank c = true → c.toUpper = c) (by decide) hc h
    rw [upper_of_ascii hc, hsame]
  · have hc := Nat.not_lt.1 hc
    exact upper_of_notMem hc (apart_of_digits blankPoints_apart (mem_blankPoints hc h))

/-- A character of an upper case is the character itself, a capital of ASCII, or a character outside ASCII that is no
white space and has no other upper case. -/
theorem mem_upper_cases {c u : Char} (h : u ∈ upper c) :
    u = c ∨ u.isUpper = true ∨ 0x80 ≤ u.toNat ∧ upper u = [u] ∧ isBlank u = false := by
  by_cases hc : c.toNat < 0x80
  · obtain rfl : u = c.toUpper := by simpa [upper_of_ascii hc] using h
    have hcapital : c.toUpper = c ∨ c.toUpper.isUpper = true :=
      forall_ascii (P := fun c => c.toUpper = c ∨ c.toUpper.isUpper = true) (by decide) hc
    exact hcapital.imp_right .inl
  · rcases upper_cases (Nat.not_lt.1 hc) with hsame | ⟨-, -, htargets⟩
    · left
      simpa [hsame] using h
    · right
      have htarget := htargets u h
      by_cases hu : u.toNat < 0x80
      · left
        have hupper := ((of_mem_upperTargets _ htarget).2 hu).1
        rwa [Char.ofNat_toNat] at hupper
      · right
        have hu := Nat.not_lt.1 hu
        have hapart := apart_of_digits upperTargets_apart htarget
        rw [List.mem_append, not_or] at hapart
        refine ⟨hu, upper_of_notMem hu hapart.1, Bool.eq_false_iff.2 fun hblank => ?_⟩
        exact hapart.2 (mem_blankPoints hu hblank)

/-- What is in upper case stays as it is in upper case. -/
theorem upper_of_mem_upper {c u : Char} (h : u ∈ upper c) : upper u = [u] := by
  rcases mem_upper_cases h with rfl | hupper | ⟨-, hsame, -⟩
  · by_cases hu : u.toNat < 0x80
    · rw [upper_of_ascii hu] at h ⊢
      rw [← List.mem_singleton.1 h]
    · rcases upper_cases (Nat.not_lt.1 hu) with hsame | ⟨hsource, -, htargets⟩
      · exact hsame
      · have hapart := apart_of_digits upperTargets_apart (htargets u h)
        exact absurd (List.mem_append_left _ hsource) hapart
  · have hu := toNat_lt_of_isUpper hupper
    have hsame : u.toUpper = u := forall_ascii (P := fun u => u.isUpper = true → u.toUpper = u) (by decide) hu hupper
    rw [upper_of_ascii hu, hsame]
  · exact hsame

theorem mem_upper_E {c : Char} (h : 'E' ∈ upper c) : c = 'e' ∨ c = 'E' := by
  by_cases hc : c.toNat < 0x80
  · rw [upper_of_ascii hc, List.mem_singleton] at h
    exact forall_ascii (P := fun c => 'E' = c.toUpper → c = 'e' ∨ c = 'E') (by decide) hc h
  · rcases upper_cases (Nat.not_lt.1 hc) with hsame | ⟨-, -, htargets⟩
    · rw [hsame, List.mem_singleton] at h
      exact .inr h.symm
    · exact absurd rfl ((of_mem_upperTargets _ (htargets _ h)).2 (by decide)).2

/-! ### Lower case -/

private theorem of_mem_lowerTargets :
    ∀ m ∈ lowerRuns.flatMap CaseRun.targets,
      m.isValidChar ∧ (Char.ofNat m).isUpper = false ∧ (m < 0x80 → m = 'k'.toNat) := by decide +kernel

theorem isUpper_of_mem_lower {c u : Char} (h : u ∈ lower c) : u.isUpper = false := by
  unfold lower at h
  split at h
  · rename_i hc
    obtain rfl := List.mem_singleton.1 h
    exact forall_ascii (P := fun c => c.toLower.isUpper = false) (by decide) hc
  · rename_i hc
    split at h
    · simp only [List.mem_cons, List.not_mem_nil, or_false] at h
      rcases h with rfl | rfl <;> decide
    · obtain rfl := List.mem_singleton.1 h
      rcases mapCase_eq lowerRuns c.toNat with hstay | ⟨-, htarget⟩
      · rw [hstay, Char.ofNat_toNat, Bool.eq_false_iff]
        exact fun hupper => hc (toNat_lt_of_isUpper hupper)
      · exact (of_mem_lowerTargets _ htarget).2.1

/-- Outside ASCII, the dotted capital I has an `i` of ASCII in its lower case, and the Kelvin sign has a `k` for it. -/
theorem lower_cases {c : Char} (hc : 0x80 ≤ c.toNat) :
    lower c = ['i', '\u0307'] ∨ ∃ u, lower c = [u] ∧ (0x80 ≤ u.toNat ∨ u = 'k') := by
  unfold lower
  rw [if_neg (Nat.not_lt.2 hc)]
  split_ifs
  · exact .inl rfl
  · refine .inr ⟨_, rfl, ?_⟩
    rcases mapCase_eq lowerRuns c.toNat with hstay | ⟨-, htarget⟩
    · rw [hstay, Char.ofNat_toNat]
      exact .inl hc
    · rw [toNat_ofNat (of_mem_lowerTargets _ htarget).1]
      by_cases hascii : mapCase lowerRuns c.toNat < 0x80
      · right
        rw [(of_mem_lowerTargets _ htarget).2.2 hascii, Char.ofNat_toNat]
      · exact .inl (Nat.not_lt.1 hascii)

theorem lowercaseFrom_cons_of_ascii {c : Char} (hc : c.toNat < 0x80) (seen s : Text) :
    lowercaseFrom seen (c :: s) = c.toLower :: lowercaseFrom (c :: seen) s := by
  have hsigma : c ≠ 'Σ' := by
    rintro rfl
    exact absurd hc (by decide)
  rw [lowercaseFrom, if_neg hsigma, lower, if_pos hc, List.singleton_append]

/-- What a character outside ASCII puts in front of the lower case of the characters after it. -/
theorem lowercaseFrom_cons_cases {c : Char} (hc : 0x80 ≤ c.toNat) (seen s : Text) :
    lowercaseFrom seen (c :: s) = 'i' :: '\u0307' :: lowercaseFrom (c :: seen) s ∨
      ∃ u, lowercaseFrom seen (c :: s) = u :: lowercaseFrom (c :: seen) s ∧ (0x80 ≤ u.toNat ∨ u = 'k') := by
  rw [lowercaseFrom]
  split_ifs
  · exact .inr ⟨'ς', rfl, .inl (by decide)⟩
  · exact .inr ⟨'σ', rfl, .inl (by decide)⟩
  · rcases lower_cases hc with hdotted | ⟨u, hu, hascii⟩
    · rw [hdotted]
      exact .inl rfl
    · rw [hu]
      exact .inr ⟨u, rfl, hascii⟩

/-- A text in lower case has no capital of ASCII. -/
theorem isUpper_of_mem_lowercase {s : Text} {u : Char} (h : u ∈ lowercase s) : u.isUpper = false := by
  unfold lowercase at h
  -- the characters before a capital sigma are looked at too
  generalize [] = seen at h
  induction s generalizing seen with
  | nil => cases h
  | cons c s ih =>
    unfold lowercaseFrom at h
    rcases List.mem_append.1 h with hc | hs
    · split_ifs at hc
      · exact List.mem_singleton.1 hc ▸ by decide
      · exact List.mem_singleton.1 hc ▸ by decide
      · exact isUpper_of_mem_lower hc
    · exact ih (c :: seen) hs

end BindingDocs.Text
