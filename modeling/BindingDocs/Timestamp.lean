import BindingDocs.Text.Utf8

/-!
# Time stamps

A time stamp has the form of RFC 3339, `2024-01-02T03:04:05Z`: date and time with a fixed width, a fraction
of a second if wanted, and an offset from universal time.  The check says what is wrong first.
-/

namespace BindingDocs.Timestamp

/-- What is wrong with a time stamp. -/
inductive Fault where
  | tooShort
  | invalid
  | outOfRange
  | tooLong
  deriving DecidableEq, Repr

/-- The fault in words. -/
def Fault.message : Fault → Text
  | tooShort => "premature end of input".toList
  | invalid => "input contains invalid characters".toList
  | outOfRange => "input is out of range".toList
  | tooLong => "trailing input".toList

/-- What follows one of the characters in `allowed`. -/
def symbol (allowed : Text) : Text → Except Fault Text
  | [] => .error .tooShort
  | c :: s => if allowed.contains c then .ok s else .error .invalid

/-- The number with a fixed count of digits that the text begins with, added to `n` in front, and what
follows. -/
def digits : Nat → Nat → Text → Except Fault (Nat × Text)
  | 0, n, s => .ok (n, s)
  | _ + 1, _, [] => .error .tooShort
  | k + 1, n, c :: s =>
    if c.isDigit then digits k (n * 10 + (c.toNat - '0'.toNat)) s else .error .invalid

/-- Has the year a leap day? -/
def isLeap (year : Nat) : Bool := year % 4 == 0 && (year % 100 != 0 || year % 400 == 0)

/-- The number of days of a month. -/
def daysIn (year month : Nat) : Nat :=
  if month = 2 then (if isLeap year then 29 else 28)
  else if month = 4 ∨ month = 6 ∨ month = 9 ∨ month = 11 then 30
  else 31

/-- Is there such a day? -/
def isDate (year month day : Nat) : Bool := 1 ≤ month && month ≤ 12 && 1 ≤ day && day ≤ daysIn year month

/-- What follows the date. -/
def date (s : Text) : Except Fault Text := do
  let (year, s) ← digits 4 0 s
  let s ← symbol ['-'] s
  let (month, s) ← digits 2 0 s
  let s ← symbol ['-'] s
  let (day, s) ← digits 2 0 s
  if isDate year month day then pure s else throw .outOfRange

/-- What follows the fraction of a second, if there is one. -/
def fraction (s : Text) : Except Fault Text :=
  match s with
  | '.' :: s => do
    let (_, s) ← digits 1 0 s
    pure (s.dropWhile Char.isDigit)
  | s => pure s

/-- What follows the time of day.  Second 60 is a leap second. -/
def timeOfDay (s : Text) : Except Fault Text := do
  let (hour, s) ← digits 2 0 s
  let s ← symbol [':'] s
  let (minute, s) ← digits 2 0 s
  let s ← symbol [':'] s
  let (second, s) ← digits 2 0 s
  let s ← fraction s
  if hour < 24 ∧ minute < 60 ∧ second ≤ 60 then pure s else throw .outOfRange

/-- A number of two digits; whether two bytes are left is asked before what they are. -/
def pair (s : Text) : Except Fault (Nat × Text) :=
  if s.toBytes.length < 2 then .error .tooShort
  else
    match digits 2 0 s with
    | .ok result => .ok result
    | .error _ => .error .invalid

/-- What follows the offset.  An offset is less than a day, but that is asked only at the end. -/
def offset (s : Text) : Except Fault (Bool × Text) :=
  match s with
  | 'Z' :: s => pure (true, s)
  | 'z' :: s => pure (true, s)
  | s => do
    let s ← symbol ['+', '-', '−'] s
    let (hours, s) ← pair s
    let s ← symbol [':'] s
    let (minutes, s) ← pair s
    if minutes < 60 then pure (decide (hours < 24), s) else throw .outOfRange

/-- The number of bytes of date and time. -/
def fixedSize : Nat := 19

/-- Checks a time stamp. -/
def check (s : Text) : Except Fault Unit := do
  if s.toBytes.length < fixedSize then throw .tooShort
  let s ← date s
  let s ← symbol ['t', 'T', ' '] s
  let s ← timeOfDay s
  let (inRange, s) ← offset s
  if s ≠ [] then throw .tooLong
  if inRange then pure () else throw .outOfRange

end BindingDocs.Timestamp
