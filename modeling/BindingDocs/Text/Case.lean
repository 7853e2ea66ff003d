import BindingDocs.Text.Basic
import BindingDocs.Text.CaseClass
import BindingDocs.Text.CaseMapping
import BindingDocs.Text.CodeRange

/-!
# Letter case

The full Unicode case mappings of characters and of texts.  They act on one character at a time, with one
exception: a capital sigma at the end of a word becomes `ς`.
-/

namespace BindingDocs.Text

/-- Where `run` moves the code point `n`. -/
def CaseRun.image? (run : CaseRun) (n : Nat) : Option Nat :=
  if run.first ≤ n ∧ n ≤ run.last ∧ (n - run.first) % run.step = 0 then some ((n : Int) + run.shift).toNat
  else none

/-- Where the first run that holds `n` moves it; `n` itself if none does. -/
def mapCase (runs : List CaseRun) (n : Nat) : Nat := (runs.findSome? (·.image? n)).getD n

/-- The upper case of a character. -/
def upper (c : Char) : Text :=
  if c.toNat < 0x80 then [c.toUpper]
  else match upperExpansions.lookup c.toNat with
    | some expansion => expansion.map Char.ofNat
    | none => [Char.ofNat (mapCase upperRuns c.toNat)]

/-- The lower case of a character that stands alone.  The dotted capital I keeps its dot. -/
def lower (c : Char) : Text :=
  if c.toNat < 0x80 then [c.toLower]
  else if c = 'İ' then ['i', '\u0307']
  else [Char.ofNat (mapCase lowerRuns c.toNat)]

/-- The property Uppercase. -/
def isUppercase (c : Char) : Bool :=
  if c.toNat < 0x80 then c.isUpper
  else uppercaseRuns.any fun run =>
    run.1 ≤ c.toNat && c.toNat ≤ run.2.1 && (c.toNat - run.1) % run.2.2 == 0

/-- The property Cased. -/
def isCased (c : Char) : Bool :=
  if c.toNat < 0x80 then c.isAlpha else inRanges casedRanges c.toNat

/-- The property Case_Ignorable. -/
def isCaseIgnorable (c : Char) : Bool := inRanges caseIgnorableRanges c.toNat

/-- Is the first character that is not ignorable a cased one? -/
def reachesCased (s : Text) : Bool := ((s.dropWhile isCaseIgnorable).head?.map isCased).getD false

/-- The lower case of the text after `seen`, which is reversed.  A capital sigma with a letter before it and
none after it in its word is a final one. -/
def lowercaseFrom (seen : Text) : Text → Text
  | [] => []
  | c :: s =>
    (if c = 'Σ' then (if reachesCased seen && !reachesCased s then ['ς'] else ['σ']) else lower c) ++
      lowercaseFrom (c :: seen) s

/-- The lower case of a text. -/
def lowercase (s : Text) : Text := lowercaseFrom [] s

end BindingDocs.Text
