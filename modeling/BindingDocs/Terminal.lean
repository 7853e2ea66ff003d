import BindingDocs.Text.Utf8

/-!
# What a terminal shows

A text that the user wrote can hold characters that steer a terminal: lone control characters, and sequences
that begin with the escape character.  Messages leave them out.  `Reader` follows the sequences byte by byte;
`plain` is what is left of a text, and `plainInStream` what is left when the text is a part of a stream.
-/

namespace BindingDocs.Terminal

/-- Where a reader is: outside of all sequences, or in one of some kind. -/
inductive Position where
  | outside
  /-- Behind the escape character. -/
  | escape
  /-- Behind the escape character and characters that lead to the last one. -/
  | escapeRest
  /-- In a control sequence, which begins with `ESC [`. -/
  | control
  /-- At the beginning of a device control string, which begins with `ESC P`. -/
  | deviceStart
  /-- In the numbers of a device control string. -/
  | deviceNumbers
  /-- Between the numbers of a device control string and what follows. -/
  | deviceRest
  /-- In a string that only a terminator ends. -/
  | string
  /-- In a string that a bell ends as well. -/
  | command
  deriving DecidableEq, Repr

/-- Is `n` one of the code points from `first` to `last`? -/
def within (first last n : Nat) : Bool := first ≤ n && n ≤ last

/-- Where a byte leads.  The escape character begins a new sequence anywhere, and two control characters leave
any sequence. -/
def Position.next (p : Position) (n : Nat) : Position :=
  if n = 0x1B then escape
  else if n = 0x18 ∨ n = 0x1A then outside
  else match p with
    | outside => outside
    | escape =>
      if within 0x20 0x2F n then escapeRest
      else if n = '['.toNat then control
      else if n = ']'.toNat then command
      else if n = 'P'.toNat then deviceStart
      else if n = 'X'.toNat ∨ n = '^'.toNat ∨ n = '_'.toNat then string
      else if within 0x30 0x7E n then outside
      else escape
    | escapeRest => if within 0x30 0x7E n then outside else escapeRest
    | control => if within 0x40 0x7E n then outside else control
    | deviceStart =>
      if within 0x20 0x2F n then deviceRest
      else if within 0x30 0x3F n then deviceNumbers
      else if within 0x40 0x7E n then string
      else deviceStart
    | deviceNumbers =>
      if within 0x20 0x2F n then deviceRest else if within 0x3C 0x7E n then string else deviceNumbers
    | deviceRest => if within 0x30 0x7E n then string else deviceRest
    | string => if n = 0x9C then outside else string
    | command => if n = 0x07 then outside else command

/-- Control characters that stand for white space. -/
def isSpacing (c : Char) : Bool := c == '\t' || c == '\n' || c == '\r' || c == '\x0c'

/-- Is white space shown although it is inside a sequence? -/
def Position.showsSpacing : Position → Bool
  | outside => true
  | escape => true
  | escapeRest => true
  | control => true
  | _ => false

/-- A position, and whether the last character was shown.  Characters that can be shown are shown right behind
such a one, even if a sequence is still open. -/
structure Reader where
  position : Position
  showing : Bool

namespace Reader

/-- Before the first character. -/
def start : Reader := ⟨.outside, true⟩

/-- Is the character shown? -/
def shows (r : Reader) (c : Char) : Bool :=
  if isSpacing c then r.showing || r.position.showsSpacing
  else (within 0x20 0x7E c.toNat || 0x80 ≤ c.toNat) && (r.showing || r.position == .outside)

/-- Reads a character.  White space inside a sequence ends it, except in a stream: there the next control
character takes the sequence up again, unless a character beyond ASCII comes first. -/
def read (stream : Bool) (r : Reader) (c : Char) : Reader :=
  if r.shows c then ⟨if stream && c.toNat < 0x80 then r.position else .outside, true⟩
  else ⟨(Text.toBytes [c]).foldl (fun p b => p.next b.toNat) r.position, false⟩

/-- The characters that are shown. -/
def shown (stream : Bool) (r : Reader) : Text → Text
  | [] => []
  | c :: s => (if r.shows c then [c] else []) ++ shown stream (r.read stream c) s

end Reader

/-- The text without all that steers a terminal. -/
def plain (s : Text) : Text := Reader.start.shown false s

/-- The text without all that steers a terminal, as a part of a stream. -/
def plainInStream (s : Text) : Text := Reader.start.shown true s

end BindingDocs.Terminal
