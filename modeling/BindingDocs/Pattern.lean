import BindingDocs.Numeral
import BindingDocs.Text.Blank
import BindingDocs.Text.Letter

/-!
# Patterns

Regular expressions as a log filter can hold them.  None of them is ever matched with anything: all that
counts is whether a text is one (`isWellFormed`).  A brace closes the place where a pattern stands, so no
pattern holds a closing one, and what needs it, such as a counted repetition, is not well formed.
-/

namespace BindingDocs.Pattern

/-- How a part of a pattern is to be read. -/
structure Mode where
  /-- White space and comments do not count. -/
  spaced : Bool
  /-- What matches is characters and not bytes. -/
  unicode : Bool
  deriving DecidableEq, Repr

/-- The mode in which a pattern begins. -/
def Mode.initial : Mode := ⟨false, true⟩

/-- What follows white space and comments; a comment goes on to the end of the line. -/
def skipSpace (inComment : Bool) : Text → Text
  | [] => []
  | c :: s =>
    if inComment then skipSpace (c != '\n') s
    else if isBlank c then skipSpace false s
    else if c = '#' then skipSpace true s
    else c :: s

/-- What follows the characters that do not count. -/
def Mode.skip (m : Mode) (s : Text) : Text := if m.spaced then skipSpace false s else s

/-- Is `c` a character that patterns without Unicode can have in a class? -/
def Mode.admits (m : Mode) (c : Char) : Bool := m.unicode || c.toNat < 0x80

/-! ### Escapes -/

/-- What a single item of a pattern stands for. -/
inductive Atom where
  | character (c : Char)
  /-- Any character of a set. -/
  | set
  /-- A place between characters. -/
  | place
  deriving DecidableEq, Repr

/-- The number that `count` hexadecimal digits write, with the digits `n` in front, and what follows. -/
def hexadecimal? (m : Mode) : Nat → Nat → Text → Option (Nat × Text)
  | 0, n, s => some (n, s)
  | count + 1, n, s =>
    match m.skip s with
    | [] => none
    | c :: s => (Numeral.digit? 16 c).bind fun d => hexadecimal? m count (n * 16 + d) s

/-- The character with the code point that `count` hexadecimal digits write.  Two digits write a byte where
Unicode is off, and then only ASCII is a character. -/
def codePoint? (m : Mode) (count : Nat) (s : Text) : Option (Atom × Text) :=
  match hexadecimal? m count 0 s with
  | none => none
  | some (n, s) =>
    if (n < 0xD800 || (0xE000 ≤ n && n < 0x110000)) && (m.unicode || n < 0x80 || count != 2) then
      some (.character (Char.ofNat n), s)
    else none

/-- The general categories with a name of one letter. -/
def categories : Text := "CLMNPSZ".toList

/-- The set of the characters with a property that one letter names. -/
def property? (m : Mode) (s : Text) : Option (Atom × Text) :=
  match m.skip s with
  | c :: s => if m.unicode && categories.contains c.toUpper then some (.set, s) else none
  | [] => none

/-- Is a backslash before the character allowed, without another meaning? -/
def isEscapable (c : Char) : Bool := c.toNat < 0x80 && !c.isAlphanum && c != '<' && c != '>'

/-- The letters that stand for a control character behind a backslash. -/
def controls : List (Char × Char) :=
  [('a', '\x07'), ('f', '\x0c'), ('n', '\n'), ('r', '\r'), ('t', '\t'), ('v', '\x0b')]

/-- What stands behind a backslash, and what follows.  The set of what is not a digit, a space or a word needs
Unicode, and places at the edge of words can only be found without it. -/
def escape? (m : Mode) : Text → Option (Atom × Text)
  | [] => none
  | c :: s =>
    if c = 'x' then codePoint? m 2 s
    else if c = 'u' then codePoint? m 4 s
    else if c = 'U' then codePoint? m 8 s
    else if c = 'p' ∨ c = 'P' then property? m s
    else if c = 'd' ∨ c = 's' ∨ c = 'w' then some (.set, s)
    else if c = 'D' ∨ c = 'S' ∨ c = 'W' then (if m.unicode then some (.set, s) else none)
    else if c = 'A' ∨ c = 'z' then some (.place, s)
    else if c = 'b' ∨ c = 'B' ∨ c = '<' ∨ c = '>' then (if m.unicode then none else some (.place, s))
    else if isEscapable c then some (.character c, s)
    else (controls.lookup c).map fun control => (.character control, s)

/-! ### Classes -/

/-- The names of the ASCII classes. -/
def asciiClasses : List String :=
  ["alnum", "alpha", "ascii", "blank", "cntrl", "digit", "graph", "lower", "print", "punct", "space", "upper",
    "word", "xdigit"]

/-- What follows an ASCII class such as `[:alpha:]`, of which the first bracket has been read, and whether the
class is negated. -/
def asciiClass? (s : Text) : Option (Bool × Text) :=
  match s with
  | ':' :: s =>
    let (negated, s) :=
      match s with
      | '^' :: s => (true, s)
      | s => (false, s)
    match s.dropWhile (· != ':') with
    | ':' :: ']' :: rest =>
      let name := s.takeWhile (· != ':')
      if asciiClasses.any fun known => known.toList == name then some (negated, rest) else none
    | _ => none
  | _ => none

/-- What follows the dashes at the beginning of a class, and whether there are any. -/
def leadingDashes (m : Mode) : Nat → Bool → Text → Bool × Text
  | fuel + 1, _, '-' :: s => leadingDashes m fuel true (m.skip s)
  | _, any, s => (any, s)

/-- What follows the beginning of a class, after its bracket: a sign of negation, which needs Unicode, dashes,
and a closing bracket that does not close it. -/
def openClass? (m : Mode) (s : Text) : Option Text :=
  let (negated, s) :=
    match m.skip s with
    | '^' :: s => (true, m.skip s)
    | s => (false, s)
  if negated && !m.unicode then none
  else
    match leadingDashes m s.length false s with
    | (false, ']' :: s) => some (m.skip s)
    | (_, s) => some s

/-- The character or the set at the beginning of a class's item, and what follows. -/
def classAtom? (m : Mode) : Text → Option (Atom × Text)
  | [] => none
  | '\\' :: s => escape? m s
  | c :: s => some (.character c, s)

/-- The first character behind a dash that counts.  Of a comment only the sign is passed over. -/
def behindDash? (m : Mode) (s : Text) : Option Char :=
  if m.spaced then
    match Text.trimStart s with
    | '#' :: s => (Text.trimStart s).head?
    | s => s.head?
  else s.head?

/-- Can the atom stand alone in a class? -/
def Atom.isItem (m : Mode) : Atom → Bool
  | character c => m.admits c
  | set => true
  | place => false

/-- Do the atoms make a range, from the first to the last? -/
def Atom.isRange (m : Mode) : Atom → Atom → Bool
  | character first, character last => m.admits first && m.admits last && first.toNat ≤ last.toNat
  | _, _ => false

/-- What follows an item of a class: a character, a set, or a range.  A dash makes no range before a bracket
or another dash. -/
def classItem? (m : Mode) (s : Text) : Option Text :=
  match classAtom? m s with
  | none => none
  | some (first, s) =>
    match m.skip s with
    | '-' :: rest =>
      if behindDash? m rest = some ']' ∨ behindDash? m rest = some '-' then
        if first.isItem m then some ('-' :: rest) else none
      else
        match classAtom? m (m.skip rest) with
        | some (last, s) => if first.isRange m last then some s else none
        | none => none
    | s => if first.isItem m then some s else none

/-- What follows a class of which the beginning has been read.  Classes can stand in a class; `depth` counts
those around this one. -/
def classRest? (m : Mode) : Nat → Nat → Text → Option Text
  | 0, _, _ => none
  | fuel + 1, depth, s =>
    match m.skip s with
    | [] => none
    | '[' :: s =>
      match asciiClass? s with
      | some (negated, s) => if negated && !m.unicode then none else classRest? m fuel depth s
      | none => (openClass? m s).bind fun s => classRest? m fuel (depth + 1) s
    | ']' :: s =>
      match depth with
      | 0 => some s
      | depth + 1 => classRest? m fuel depth s
    | '&' :: '&' :: s => classRest? m fuel depth s
    | '-' :: '-' :: s => classRest? m fuel depth s
    | '~' :: '~' :: s => classRest? m fuel depth s
    | c :: s => (classItem? m (c :: s)).bind fun s => classRest? m fuel depth s

/-- What follows a class, after its bracket. -/
def class? (m : Mode) (s : Text) : Option Text :=
  (openClass? m s).bind fun rest => classRest? m (s.length + 1) 0 rest

/-! ### Groups -/

/-- Can the character be in the name of a group, at the beginning or later? -/
def isNameCharacter (first : Bool) (c : Char) : Bool :=
  if first then c == '_' || Text.isAlphabetic c
  else c == '_' || c == '.' || c == '[' || c == ']' || Text.isAlphanumeric c

/-- The name of a group, which a `>` ends, and what follows. -/
def groupName? (s : Text) : Option (Text × Text) :=
  let name := s.takeWhile (· != '>')
  match name, s.dropWhile (· != '>') with
  | c :: rest, '>' :: after =>
    if isNameCharacter true c && rest.all (isNameCharacter false) then some (name, after) else none
  | _, _ => none

/-- The flags that a group can set. -/
def flags : Text := "imsUuRx".toList

/-- The mode after flags, whether they belong to a group or stand alone, and what follows.  Those behind a
dash are taken away; no flag and no second dash is there twice, and a dash is not the last. -/
def flags? (m : Mode) (seen : Text) : Text → Option (Mode × Bool × Text)
  | [] => none
  | c :: s =>
    if c = ':' ∨ c = ')' then
      if seen.head? = some '-' ∨ (c = ')' ∧ seen = []) then none else some (m, c == ':', s)
    else if (c = '-' ∨ flags.contains c) ∧ !seen.contains c then
      let value := !seen.contains '-'
      flags? ⟨if c = 'x' then value else m.spaced, if c = 'u' then value else m.unicode⟩ (c :: seen) s
    else none

/-- The beginning of a group. -/
inductive Opening where
  /-- A group in some mode, and its name if it has one. -/
  | group (m : Mode) (name? : Option Text)
  /-- No group: the mode changes from here on. -/
  | change (m : Mode)
  deriving DecidableEq, Repr

/-- What an opening parenthesis begins, and what follows.  Groups that look ahead or behind are not known. -/
def opening? (m : Mode) (s : Text) : Option (Opening × Text) :=
  let s := m.skip s
  if ["?=", "?!", "?<=", "?<!"].any fun mark => (Text.after? mark.toList s).isSome then none
  else
    let named? := (Text.after? "?P<".toList s).orElse fun _ => Text.after? "?<".toList s
    match named?, s with
    | some s, _ => (groupName? s).map fun p => (.group m (some p.1), p.2)
    | none, '?' :: s =>
      (flags? m [] s).map fun p => (if p.2.1 then .group p.1 none else .change p.1, p.2.2)
    | none, s => some (.group m none, s)

/-! ### Patterns -/

/-- What has been read of a pattern. -/
structure Reader where
  mode : Mode
  /-- The modes around the groups that are open, from the inside out. -/
  outer : List Mode
  /-- The names of the groups so far. -/
  names : List Text
  /-- Is there something to repeat? -/
  repeatable : Bool

/-- Nothing has been read. -/
def Reader.start : Reader := ⟨.initial, [], [], false⟩

/-- Reads an item, and gives what follows it; the item begins with `c`. -/
def Reader.item? (r : Reader) (c : Char) (s : Text) : Option (Reader × Text) :=
  let repeatable : Reader := { r with repeatable := true }
  if c = '(' then
    match opening? r.mode s with
    | none => none
    | some (.change m, s) => some ({ r with mode := m, repeatable := false }, s)
    | some (.group m none, s) => some (⟨m, r.mode :: r.outer, r.names, false⟩, s)
    | some (.group m (some name), s) =>
      if r.names.contains name then none else some (⟨m, r.mode :: r.outer, name :: r.names, false⟩, s)
  else if c = ')' then
    match r.outer with
    | [] => none
    | m :: outer => some ({ repeatable with mode := m, outer := outer }, s)
  else if c = '|' then some ({ r with repeatable := false }, s)
  else if c = '?' ∨ c = '*' ∨ c = '+' then
    if r.repeatable then some (r, if s.head? = some '?' then s.drop 1 else s) else none
  else if c = '[' then (class? r.mode s).map fun s => (repeatable, s)
  else if c = '\\' then (escape? r.mode s).map fun p => (repeatable, p.2)
  else if c = '{' ∨ (c = '.' ∧ !r.mode.unicode) then none
  else some (repeatable, s)

/-- Is `s` the rest of a well-formed pattern? -/
def Reader.accepts (r : Reader) : Nat → Text → Bool
  | 0, _ => false
  | fuel + 1, s =>
    match r.mode.skip s with
    | [] => r.outer.isEmpty
    | c :: s =>
      match r.item? c s with
      | none => false
      | some (r, s) => accepts r fuel s

/-- Is the text a well-formed pattern? -/
def isWellFormed (s : Text) : Bool := Reader.start.accepts (s.length + 1) s

end BindingDocs.Pattern
