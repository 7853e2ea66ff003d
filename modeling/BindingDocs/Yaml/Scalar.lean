import BindingDocs.Yaml.Resolution

/-!
# Scalars

How a text is written as a YAML scalar.  A text with a line feed is written as a literal block, any other text
plainly if that is safe, else between single quotes.  Where a style cannot hold the text, double quotes with
escapes take its place.  Lines are never folded.
-/

namespace BindingDocs.Yaml

/-- A character that ends a line. -/
def isBreak (c : Char) : Bool :=
  c == '\n' || c == '\r' || c == '\u0085' || c == '\u2028' || c == '\u2029'

/-- A character that separates an indicator from what follows it. -/
def isGap (c : Char) : Bool := c == ' ' || c == '\t' || c == '\x00' || isBreak c

/-- A character that can be written without an escape. -/
def isPrintable (c : Char) : Bool :=
  let n := c.toNat
  n == 0xA || (0x20 ≤ n && n ≤ 0x7E) || (0xA0 ≤ n && n ≤ 0xD7FF) ||
    (0xE000 ≤ n && n ≤ 0xFFFD && n != 0xFEFF) || 0x10000 ≤ n

/-- Does a character that satisfies `p` stand right before one that satisfies `q`? -/
def hasPair (p q : Char → Bool) : Text → Bool
  | a :: b :: s => (p a && q b) || hasPair p q (b :: s)
  | _ => false

/-- Does the text begin with a character that satisfies `p`? -/
def beginsWith (p : Char → Bool) (s : Text) : Bool := (s.head?.map p).getD false

/-- Does the text end with a character that satisfies `p`? -/
def endsWith (p : Char → Bool) (s : Text) : Bool := (s.getLast?.map p).getD false

/-- Characters that mean something at the beginning of a scalar, whatever follows them. -/
def indicators : Text := "#,[]\x7b\x7d&*!|>'\"%@`".toList

/-- Would a part of the text mean something in a plain scalar? -/
def hasIndicator (s : Text) : Bool :=
  (Text.after? "---".toList s).isSome || (Text.after? "...".toList s).isSome ||
    beginsWith indicators.contains s ||
    (beginsWith (fun c => c == '?' || c == '-') s && !((s.drop 1).head?.any fun c => !isGap c)) ||
    hasPair (· == ':') isGap s || endsWith (· == ':') s ||
    hasPair isGap (· == '#') s

/-- Can only double quotes hold the text? -/
def needsEscapes (s : Text) : Bool := s.any (fun c => !isPrintable c) || hasPair (· == ' ') isBreak s

/-- A space or the end of a line. -/
def isEdge (c : Char) : Bool := c == ' ' || isBreak c

/-- Can the text be written plainly? -/
def plainAllowed (s : Text) : Bool :=
  !(needsEscapes s || hasIndicator s || s.any isBreak || beginsWith isEdge s || endsWith isEdge s)

/-- Can single quotes hold the text? -/
def singleQuotesAllowed (s : Text) : Bool := !(needsEscapes s || hasPair isBreak (· == ' ') s)

/-- Can a literal block hold the text? -/
def literalAllowed (s : Text) : Bool := !(needsEscapes s || endsWith (· == ' ') s)

/-- The ways to write a scalar. -/
inductive Style where
  | plain
  | singleQuoted
  | doubleQuoted
  | literal
  deriving DecidableEq, Repr

/-- The style in which a text is written. -/
def styleOf (s : Text) : Style :=
  if s.contains '\n' then
    if literalAllowed s then .literal else .doubleQuoted
  else if !isAmbiguous s && plainAllowed s then .plain
  else if singleQuotesAllowed s then .singleQuoted
  else .doubleQuoted

/-- Spaces in front of a line. -/
def spaces (indent : Nat) : Text := List.replicate indent ' '

/-- The text between single quotes; a line after a break is indented. -/
def singleQuotedBody (indent : Nat) : Bool → Text → Text
  | afterBreak, [] => if afterBreak then spaces indent else []
  | afterBreak, c :: s =>
    if isBreak c then c :: singleQuotedBody indent true s
    else (if afterBreak then spaces indent else []) ++ (if c = '\'' then ['\'', '\''] else [c]) ++
      singleQuotedBody indent false s

/-- The lines of a literal block; each line that is not empty is indented. -/
def literalBody (indent : Nat) : Bool → Text → Text
  | _, [] => []
  | atLineStart, c :: s =>
    if isBreak c then c :: literalBody indent true s
    else (if atLineStart then spaces indent else []) ++ c :: literalBody indent false s

/-- The sign that tells how a literal block ends: without a break, with one, or with more. -/
def chomping (s : Text) : Text :=
  match s.reverse with
  | [] => "-".toList
  | [c] => if isBreak c then "+".toList else "-".toList
  | c :: d :: _ => if isBreak c then (if isBreak d then "+".toList else []) else "-".toList

/-- The first line of a literal block.  It tells the indentation if the text itself begins with space. -/
def literalHead (s : Text) : Text :=
  '|' :: (if beginsWith isEdge s then "2".toList else []) ++ chomping s ++ "\n".toList

/-- `width` digits of `n` in base 16. -/
def hexDigits : Nat → Nat → Text
  | 0, _ => []
  | width + 1, n => hexDigits width (n / 16) ++ [(Nat.digitChar (n % 16)).toUpper]

/-- Characters with an escape of one letter. -/
def shortEscapes : List (Char × Char) := [
  ('\x00', '0'), ('\x07', 'a'), ('\x08', 'b'), ('\t', 't'), ('\n', 'n'), ('\x0b', 'v'), ('\x0c', 'f'),
  ('\r', 'r'), ('\x1b', 'e'), ('"', '"'), ('\\', '\\'), ('\u0085', 'N'), ('\u2028', 'L'), ('\u2029', 'P')]

/-- A character between double quotes. -/
def escape (c : Char) : Text :=
  match shortEscapes.lookup c with
  | some letter => ['\\', letter]
  | none =>
    if isPrintable c then [c]
    else if c.toNat ≤ 0xFF then "\\x".toList ++ hexDigits 2 c.toNat
    else if c.toNat ≤ 0xFFFF then "\\u".toList ++ hexDigits 4 c.toNat
    else "\\U".toList ++ hexDigits 8 c.toNat

/-- A text as a scalar whose further lines are indented by `indent`. -/
def scalar (indent : Nat) (s : Text) : Text :=
  match styleOf s with
  | .plain => s
  | .singleQuoted => '\'' :: singleQuotedBody indent false s ++ ['\'']
  | .doubleQuoted => '"' :: s.flatMap escape ++ ['"']
  | .literal => literalHead s ++ literalBody indent true s

/-- Does the written text end its own last line? -/
def endsLine (s : Text) : Bool := styleOf s == .literal && endsWith isBreak s

/-- The value of a key, up to the end of its last line. -/
def value (indent : Nat) (s : Text) : Text :=
  ' ' :: scalar indent s ++ (if endsLine s then [] else ['\n'])

end BindingDocs.Yaml
