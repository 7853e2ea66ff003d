import BindingDocs.Log
import BindingDocs.Pattern
import BindingDocs.Text.Letter
import BindingDocs.Text.Utf8

/-!
# Log filters

A filter is a list of directives such as `perldoc::parser=debug,warn`.  Each sets the least level that is
shown, for the parts of the program whose names begin with its target.  Between brackets a directive can name
a span, and between braces in them a field: `[{message}]=info` is about entries that have this field.  Of the
directives about an entry, the one with the longest target counts, and of those one with a field.
-/

namespace BindingDocs.Log

/-- The rank of a level: the higher, the more is shown. -/
def Level.rank : Level → Nat
  | .warn => 2
  | .info => 3
  | .debug => 4

namespace Filter

/-- A field that a directive asks for. -/
structure Field where
  name : Text
  /-- Must the field have a certain value? -/
  valued : Bool
  deriving DecidableEq, Repr

/-- A directive: the target, span and field that it names, and the greatest rank that it shows. -/
structure Directive where
  target? : Option Text
  span? : Option Text
  field? : Option Field
  rank : Nat
  deriving DecidableEq, Repr

/-! ### Ranks and fields -/

/-- The ranks by name. -/
def names : List (String × Nat) :=
  [("off", 0), ("error", 1), ("warn", 2), ("info", 3), ("debug", 4), ("trace", 5)]

/-- The greatest rank. -/
def everything : Nat := 5

/-- The number that the text writes in decimal digits; a plus sign may stand in front. -/
def number? (s : Text) : Option Nat := Numeral.natural? 10 (if s.head? = some '+' then s.drop 1 else s)

/-- The rank that a name, in any case, or a number stands for. -/
def rank? (s : Text) : Option Nat :=
  match number? s with
  | some n => if n ≤ everything then some n else none
  | none => (names.find? fun p => p.1.toList == s.map Char.toLower).map Prod.snd

/-- Is the text a number for a field's value: a decimal number, an infinite one, or none at all? -/
def isNumber (s : Text) : Bool :=
  (Numeral.decimal? s).isSome ||
    ["inf", "infinity", "nan"].any fun word => word.toList == (Numeral.dropSign s).map Char.toLower

/-- The field that the text asks for, by its name alone or with a value, which is a number or a pattern. -/
def field? (s : Text) : Option Field :=
  match s.splitOn '=' with
  | name :: value :: _ => if isNumber value || Pattern.isWellFormed value then some ⟨name, true⟩ else none
  | name :: [] => some ⟨name, false⟩
  | [] => none

/-! ### The shape of a directive -/

/-- A stretch of a text, from one position to another; positions count bytes. -/
abbrev Stretch := Nat × Nat

/-- Where the parts of a directive are. -/
inductive Shape where
  /-- There is nothing but a target or a level. -/
  | word
  /-- A level, of which the position is given, goes on to the end. -/
  | parts (target? span? field? : Option Stretch) (level? : Option Nat)
  deriving DecidableEq, Repr

/-- Can a directive begin with this character? -/
def canBegin (c : Char) : Bool :=
  c == '-' || c == ':' || c == '_' || Text.isAlphanumeric c

/-- Where the level is, if `s`, at position `n`, has one; nothing else may follow a bracket. -/
def levelAt? (n : Nat) (s : Text) : Option (Option Nat) :=
  match s with
  | [] => some none
  | '=' :: _ => some (some (n + 1))
  | _ => none

/-- The shape of a directive whose bracket is open; what follows is `s`, at position `n`. -/
def bracketShape? (target? : Option Stretch) (n : Nat) (s : Text) : Option Shape :=
  let span := s.takeWhile fun c => c != ']' && c != '\x7b'
  let spanEnd := n + Text.size span
  match s.drop span.length with
  | ']' :: s => (levelAt? (spanEnd + 1) s).map fun level? => .parts target? (some (n, spanEnd)) none level?
  | '\x7b' :: s =>
    let field := s.takeWhile (· != '\x7d')
    let fieldEnd := spanEnd + 1 + Text.size field
    let span? := if span = [] then none else some (n, spanEnd)
    match field, s.drop field.length with
    | _ :: _, '\x7d' :: ']' :: s =>
      (levelAt? (fieldEnd + 2) s).map fun level? => .parts target? span? (some (spanEnd + 1, fieldEnd)) level?
    | _, _ => none
  | _ => none

/-- The shape of a directive; none if it is not well formed. -/
def shape? (s : Text) : Option Shape :=
  match s with
  | [] => none
  | '[' :: s => bracketShape? none 1 s
  | c :: _ =>
    if canBegin c then
      let target := s.takeWhile fun c => c != '=' && c != '['
      let n := Text.size target
      match s.drop target.length with
      | '[' :: s => bracketShape? (some (0, n)) (n + 1) s
      | '=' :: _ => some (.parts (some (0, n)) none none (some (n + 1)))
      | _ => some .word
    else none

/-! ### Reading -/

/-- The rank that the text from position `n` on stands for; without any text it is the greatest. -/
def rankFrom? (piece : Text) (n : Nat) : Option Nat :=
  match Text.dropBytes? n piece with
  | none => none
  | some level => if level = [] then some everything else rank? level

/-- Reads a directive.  Its shape is that of the text without white space at its ends; the positions in the
shape are then looked up in the whole text. -/
def directive? (piece : Text) : Option Directive :=
  let text? (stretch : Stretch) : Option Text := Text.slice? stretch.1 stretch.2 piece
  match shape? (Text.trim piece) with
  | none => none
  | some .word =>
    match rank? piece with
    | some rank => some ⟨none, none, none, rank⟩
    | none => some ⟨some piece, none, none, everything⟩
  | some (.parts target? span? field? level?) => do
    let target? ← target?.mapM text?
    let span? ← span?.mapM text?
    let field? ← field?.mapM fun stretch => (text? stretch).bind Filter.field?
    let rank ← (level?.map (rankFrom? piece)).getD (some everything)
    pure ⟨target?, span?, field?, rank⟩

/-- Reads a filter: directives with commas between them.  One that is not well formed spoils the filter. -/
def read? (s : Text) : Option (List Directive) :=
  ((s.splitOn ',').filter fun piece => !piece.isEmpty).mapM directive?

/-! ### What is shown -/

/-- The fields of entries.  They belong to no span. -/
def fields : List Text := ["message".toList]

/-- Is the directive about the entry?  One that names a span or the value of a field is about none. -/
def concerns (d : Directive) (e : Entry) : Bool :=
  d.span?.isNone &&
    (d.target?.map fun target => target.isPrefixOf e.origin.name).getD true &&
    (d.field?.map fun field => !field.valued && fields.contains field.name).getD true

/-- The weight of a directive, which is that of its target; the same target weighs more with a field. -/
def weight (d : Directive) : Nat :=
  2 * (d.target?.map fun target => Text.size target + 1).getD 0 + (if d.field?.isSome then 1 else 0)

/-- The directive with the greatest weight, and the last of those. -/
def deciding (ds : List Directive) : Option Directive :=
  ds.foldl (fun best d =>
    match best with
    | some b => if weight b ≤ weight d then some d else some b
    | none => some d) none

/-- Does the filter show an entry?  Where no directive is about it, it does not. -/
def shows (ds : List Directive) (e : Entry) : Bool :=
  match deciding (ds.filter fun d => concerns d e) with
  | some d => decide (e.level.rank ≤ d.rank)
  | none => false

/-- The filter where none is given. -/
def standard (verbose : Bool) : List Directive :=
  [⟨some "perldoc".toList, none, none, if verbose then 4 else 3⟩]

/-- The filter that the text `given?` asks for, or the standard one. -/
def choose (verbose : Bool) (given? : Option Text) : List Directive :=
  (given?.bind read?).getD (standard verbose)

end Filter

/-- A character as a log line shows it: those that could control a terminal are written out. -/
def shownChar (c : Char) : Text :=
  let n := c.toNat
  if n = 0x1B ∨ n = 0x07 ∨ n = 0x08 ∨ n = 0x0C ∨ n = 0x7F then
    "\\x".toList ++ (if n < 0x10 then ['0'] else []) ++ Nat.toDigits 16 n
  else if 0x80 ≤ n ∧ n ≤ 0x9F then "\\u\x7b".toList ++ Nat.toDigits 16 n ++ ['\x7d']
  else [c]

/-- The entry as a line that is printed. -/
def Entry.printed (e : Entry) : Text := Entry.line { e with message := e.message.flatMap shownChar }

end BindingDocs.Log
