import BindingDocs.Text.Blank
import BindingDocs.ValueType

/-!
# Declarations

A line such as `uint8 set_level = (uint8) SvUV(ST(1));` declares a variable and gives it the argument in
slot 1.  The keyword of a declaration is a type keyword that is followed, after at least one more character,
by a letter, a dot or a space and an equals sign.  Of all keywords in a line the leftmost counts; where
several begin at one place, the order of `keywordsAt` decides.
-/

namespace BindingDocs.Declaration

/-- A character that may stand right before the equals sign. -/
def isTargetChar (c : Char) : Bool := c == '.' || c == ' ' || c.isAlpha

/-- Is there an equals sign right after a letter, a dot or a space? -/
def assigns : Text → Bool
  | a :: b :: s => (isTargetChar a && b == '=') || assigns (b :: s)
  | _ => false

/-- Can `rest` follow the keyword of a declaration? -/
def completes (rest : Text) : Bool := assigns (rest.drop 1)

/-- The keyword `keyword`, if `s` begins with it, and what follows it. -/
def fixedAt (keyword : String) (s : Text) : List (Text × Text) :=
  ((Text.after? keyword.toList s).map fun rest => (keyword.toList, rest)).toList

/-- Every way to split `digits ++ rest` within the digits but not before them, the longest first part first.
-/
def digitSplits : Text → Text → List (Text × Text)
  | [], _ => []
  | d :: digits, rest =>
    (digitSplits digits rest).map (fun p => (d :: p.1, p.2)) ++ [([d], digits ++ rest)]

/-- The keywords of unsigned integers with a width, the longest first. -/
def sizedAt (s : Text) : List (Text × Text) :=
  match Text.after? "uint".toList s with
  | some rest =>
    (digitSplits (rest.takeWhile Char.isDigit) (rest.dropWhile Char.isDigit)).map fun p =>
      ("uint".toList ++ p.1, p.2)
  | none => []

/-- The keywords that `s` begins with, each with what follows it, in order of preference. -/
def keywordsAt (s : Text) : List (Text × Text) :=
  fixedAt "unsigned long" s ++ fixedAt "long" s ++ fixedAt "int32" s ++ fixedAt "bool" s ++ sizedAt s ++
    fixedAt "int" s ++ fixedAt "auto" s ++ fixedAt "float" s ++ fixedAt "unsigned int" s ++
    fixedAt "char " s ++ fixedAt "char*" s

/-- The keyword of the first declaration in a line. -/
def keyword? : Text → Option Text
  | [] => none
  | c :: s =>
    match (keywordsAt (c :: s)).find? fun k => completes k.2 with
    | some k => some k.1
    | none => keyword? s

/-- The types of the keywords that stand for themselves. -/
def keywordTypes : List (Text × ValueType) := [
  ("int".toList, .int), ("int32".toList, .int), ("float".toList, .float), ("unsigned int".toList, .uint),
  ("uint".toList, .uint), ("uint8".toList, .uint), ("uint16".toList, .uint), ("uint32".toList, .uint),
  ("bool".toList, .bool), ("long".toList, .long), ("unsigned long".toList, .unsignedLong)]

/-- The type that a keyword gives in a line.  Characters are text, and `auto` is known only where a vector is
built. -/
def typeOf? (keyword line : Text) : Option ValueType :=
  match keywordTypes.lookup keyword with
  | some type => some type
  | none =>
    if Text.includes "char".toList keyword then some .string
    else if Text.includes "auto".toList keyword && Text.includes "glm::vec4".toList line then some .float
    else none

/-- The text by which a line reads the argument in slot `i`. -/
def slot (i : Nat) : Text := "ST(".toList ++ Text.ofNat i ++ ")".toList

/-- The keyword by which a line declares the argument in slot `i`, without the white space around it. -/
def keywordFor? (i : Nat) (line : Text) : Option Text :=
  if Text.includes (slot i) line then (keyword? line).map Text.trim else none

end BindingDocs.Declaration
