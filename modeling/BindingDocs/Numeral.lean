import BindingDocs.Text.Basic

/-!
# Numerals

Numbers as they are written: signs, digits in a base, and decimal numbers with a point and an exponent.
-/

namespace BindingDocs.Numeral

/-- A plus or minus sign. -/
def isSign (c : Char) : Bool := c == '+' || c == '-'

/-- Does the text begin with a sign? -/
def isSigned (s : Text) : Bool := (s.head?.map isSign).getD false

/-- The text without one sign in front. -/
def dropSign (s : Text) : Text := if isSigned s then s.drop 1 else s

/-- The value of a digit in base 16 or below. -/
def digit? (base : Nat) (c : Char) : Option Nat :=
  let value :=
    if c.isDigit then c.toNat - '0'.toNat
    else if c.isLower then c.toNat - 'a'.toNat + 10
    else if c.isUpper then c.toNat - 'A'.toNat + 10
    else base
  if value < base then some value else none

/-- The number that the digits write; there must be at least one. -/
def natural? (base : Nat) (digits : Text) : Option Nat :=
  if digits = [] then none
  else digits.foldlM (fun n c => (digit? base c).map fun d => n * base + d) 0

/-- The exponent that ends a decimal number: nothing, or an `e` and digits that may have a sign. -/
def exponent? (s : Text) : Option Int :=
  match s with
  | [] => some 0
  | c :: rest =>
    if c = 'e' ∨ c = 'E' then
      (natural? 10 (dropSign rest)).map fun n => if rest.head? = some '-' then -(n : Int) else n
    else none

/-- The number `mantissa * 10 ^ exponent`. -/
structure Decimal where
  mantissa : Nat
  exponent : Int
  deriving DecidableEq, Repr

/-- The size of a decimal number that may have a sign, a point and an exponent.  It must have a digit before
the exponent. -/
def decimal? (s : Text) : Option Decimal :=
  let s := dropSign s
  let whole := s.takeWhile Char.isDigit
  let rest := s.dropWhile Char.isDigit
  let (fraction, rest) :=
    match rest with
    | '.' :: after => (after.takeWhile Char.isDigit, after.dropWhile Char.isDigit)
    | _ => ([], rest)
  match natural? 10 (whole ++ fraction), exponent? rest with
  | some mantissa, some exponent => some ⟨mantissa, exponent - fraction.length⟩
  | _, _ => none

end BindingDocs.Numeral
