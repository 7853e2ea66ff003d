import BindingDocs.Numeral

/-!
# What a plain scalar reads as

A YAML reader takes some unquoted scalars for something else than text: for nothing, a truth value, or a
number.  These rules say which, so that a writer knows what to quote.  Besides, a number with superfluous
zeros in front is text to one reader and a number to another, so it is quoted as well (`isZeroPadded`).
-/

namespace BindingDocs.Yaml

open Numeral (dropSign isSigned natural?)

/-- Is `s` one of these words? -/
def isWord (words : List String) (s : Text) : Bool := words.any fun word => word.toList == s

/-- Reads as nothing. -/
def isNull (s : Text) : Bool := isWord ["", "~", "null", "Null", "NULL"] s

/-- Reads as a truth value. -/
def isBool (s : Text) : Bool := isWord ["true", "True", "TRUE", "false", "False", "FALSE"] s

/-- Decimal digits of which the first is a superfluous zero, after an optional sign. -/
def isZeroPadded (s : Text) : Bool :=
  match dropSign s with
  | '0' :: digits => !digits.isEmpty && digits.all Char.isDigit
  | _ => false

/-- Do the digits write a number up to `bound`? -/
def isNumber (base bound : Nat) (digits : Text) : Bool :=
  (natural? base digits).any fun n => decide (n ≤ bound)

/-- The marks of numbers in another base than ten. -/
def bases : List (String × Nat) := [("0x", 16), ("0o", 8), ("0b", 2)]

/-- Is `s` a number up to `bound` with the mark of its base? -/
def isMarkedNumber (bound : Nat) (s : Text) : Bool :=
  bases.any fun base =>
    match Text.after? base.1.toList s with
    | some digits => isNumber base.2 bound digits
    | none => false

/-- The text without one plus sign in front; none if another sign follows. -/
def dropPlus? (s : Text) : Option Text :=
  match s with
  | '+' :: rest => if isSigned rest then none else some rest
  | _ => some s

/-- The highest integer of 128 bits without a sign. -/
def highestInteger : Nat := Nat.pow 2 128 - 1

/-- The size of the lowest integer of 128 bits with a sign. -/
def lowestInteger : Nat := Nat.pow 2 127

/-- Reads as an integer.  Integers have up to 128 bits, and decimal ones no superfluous zeros. -/
def isInteger (s : Text) : Bool :=
  match s with
  | '-' :: rest =>
    isMarkedNumber lowestInteger rest || (!isZeroPadded s && isNumber 10 lowestInteger rest)
  | _ =>
    match dropPlus? s with
    | some rest =>
      isMarkedNumber highestInteger rest || (!isZeroPadded s && isNumber 10 highestInteger rest)
    | none => false

/-- The least number that is too large for a floating point number of 64 bits. -/
def tooLarge : Nat := Nat.pow 2 1024 - Nat.pow 2 970

/-- Is the number small enough for a floating point number?  The number of digits decides unless the number is
close to the bound, which has 309 digits. -/
def isFinite (d : Numeral.Decimal) : Bool :=
  let size := ((Nat.toDigits 10 d.mantissa).length : Int) + d.exponent
  if d.mantissa = 0 || size < 300 then true
  else if size > 320 then false
  else if d.exponent ≥ 0 then d.mantissa * Nat.pow 10 d.exponent.toNat < tooLarge
  else d.mantissa < tooLarge * Nat.pow 10 (-d.exponent).toNat

/-- Is `s` a decimal number that is small enough? -/
def isDecimal (s : Text) : Bool := (Numeral.decimal? s).any isFinite

/-- Reads as a floating point number. -/
def isFloat (s : Text) : Bool :=
  isWord ["-.inf", "-.Inf", "-.INF", ".nan", ".NaN", ".NAN"] s ||
    match dropPlus? s with
    | some rest => isWord [".inf", ".Inf", ".INF"] rest || isDecimal rest
    | none => false

/-- Would some reader take the unquoted text for something else than text? -/
def isAmbiguous (s : Text) : Bool := isNull s || isBool s || isInteger s || isZeroPadded s || isFloat s

end BindingDocs.Yaml
