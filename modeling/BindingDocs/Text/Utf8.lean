import BindingDocs.Text.Basic

/-!
# UTF-8

Text as bytes and bytes as text.  Reading never fails: each longest piece of bytes that begins a character but
does not finish it, and each byte that can begin none, reads as the replacement character.  A text can be cut behind
so many bytes as some of its first characters have (`takeBytes?_size_append`, `dropBytes?_size_append`), and nowhere
else (`exists_of_takeBytes?_eq_some`).
-/

namespace BindingDocs

/-- The content of a file. -/
abbrev Bytes := List UInt8

namespace Text

/-- The bytes of a text. -/
def toBytes (s : Text) : Bytes := s.flatMap String.utf8EncodeChar

/-- The number of bytes of a text. -/
def size (s : Text) : Nat := s.toBytes.length

/-- What follows the first `n` bytes; none if there are fewer, or if a character would be cut. -/
def dropBytes? (n : Nat) : Text → Option Text
  | [] => if n = 0 then some [] else none
  | c :: s =>
    if n = 0 then some (c :: s)
    else if c.utf8Size ≤ n then dropBytes? (n - c.utf8Size) s
    else none

/-- The characters of the first `n` bytes; none if there are fewer, or if a character would be cut. -/
def takeBytes? (n : Nat) : Text → Option Text
  | [] => if n = 0 then some [] else none
  | c :: s =>
    if n = 0 then some []
    else if c.utf8Size ≤ n then (takeBytes? (n - c.utf8Size) s).map (c :: ·)
    else none

theorem size_cons (c : Char) (s : Text) : size (c :: s) = c.utf8Size + size s := by
  simp [size, toBytes]

/-- The text behind the bytes of given characters. -/
theorem dropBytes?_size_append (s t : Text) : dropBytes? (size s) (s ++ t) = some t := by
  induction s with
  | nil =>
    show dropBytes? 0 t = some t
    cases t <;> rfl
  | cons c s ih =>
    have hpos := c.utf8Size_pos
    rw [size_cons, List.cons_append, dropBytes?, if_neg (by omega), if_pos (by omega), Nat.add_sub_cancel_left, ih]

theorem takeBytes?_size_append (s t : Text) : takeBytes? (size s) (s ++ t) = some s := by
  induction s with
  | nil =>
    show takeBytes? 0 t = some []
    cases t <;> rfl
  | cons c s ih =>
    have hpos := c.utf8Size_pos
    rw [size_cons, List.cons_append, takeBytes?, if_neg (by omega), if_pos (by omega), Nat.add_sub_cancel_left, ih]
    rfl

/-- Bytes that can be taken off a text are those of its first characters. -/
theorem exists_of_takeBytes?_eq_some {n : Nat} {s start : Text} (h : takeBytes? n s = some start) :
    ∃ rest, s = start ++ rest ∧ size start = n := by
  induction s generalizing n start with
  | nil =>
    unfold takeBytes? at h
    split at h
    · rename_i hn
      obtain rfl := Option.some.inj h
      exact ⟨[], rfl, hn.symm⟩
    · cases h
  | cons c s ih =>
    unfold takeBytes? at h
    split at h
    · rename_i hn
      obtain rfl := Option.some.inj h
      exact ⟨c :: s, rfl, hn.symm⟩
    · split at h
      · obtain ⟨start', hstart, rfl⟩ := Option.map_eq_some_iff.1 h
        obtain ⟨rest, rfl, hsize⟩ := ih hstart
        refine ⟨rest, rfl, ?_⟩
        rw [size_cons, hsize]
        omega
      · cases h

/-- The characters from one position to another, which count bytes. -/
def slice? (first last : Nat) (s : Text) : Option Text :=
  (dropBytes? first s).bind (takeBytes? (last - first))

/-- The character that stands for bytes that are no text. -/
def replacement : Char := '\uFFFD'

/-- How a character of several bytes goes on after its first byte: the range of the second byte, and how many
bytes follow that one.  The ranges leave out surrogates, code points past the last one, and spellings that are
longer than needed. -/
structure Lead where
  low : Nat
  high : Nat
  more : Nat
  /-- The bits of the code point that the first byte gives. -/
  bits : Nat

/-- What the first byte of a character of several bytes promises. -/
def lead? (b : Nat) : Option Lead :=
  if 0xC2 ≤ b ∧ b ≤ 0xDF then some ⟨0x80, 0xBF, 0, b - 0xC0⟩
  else if b = 0xE0 then some ⟨0xA0, 0xBF, 1, 0⟩
  else if b = 0xED then some ⟨0x80, 0x9F, 1, 0xD⟩
  else if 0xE1 ≤ b ∧ b ≤ 0xEF then some ⟨0x80, 0xBF, 1, b - 0xE0⟩
  else if b = 0xF0 then some ⟨0x90, 0xBF, 2, 0⟩
  else if 0xF1 ≤ b ∧ b ≤ 0xF3 then some ⟨0x80, 0xBF, 2, b - 0xF0⟩
  else if b = 0xF4 then some ⟨0x80, 0x8F, 2, 4⟩
  else none

/-- The characters of the bytes, put in front of `done`, which is reversed.  The bytes owed to a character
that has begun are in `owed`. -/
def ofBytesFrom (owed : Option Lead) (done : Text) : Bytes → Text
  | [] => (if owed.isSome then replacement :: done else done).reverse
  | b :: bytes =>
    let n := b.toNat
    let fresh (done : Text) : Text :=
      if n < 0x80 then ofBytesFrom none (Char.ofNat n :: done) bytes
      else match lead? n with
        | some lead => ofBytesFrom (some lead) done bytes
        | none => ofBytesFrom none (replacement :: done) bytes
    match owed with
    | none => fresh done
    | some lead =>
      if lead.low ≤ n ∧ n ≤ lead.high then
        let bits := lead.bits * 64 + (n - 0x80)
        if lead.more = 0 then ofBytesFrom none (Char.ofNat bits :: done) bytes
        else ofBytesFrom (some ⟨0x80, 0xBF, lead.more - 1, bits⟩) done bytes
      else fresh (replacement :: done)

/-- The text of the bytes. -/
def ofBytes (bytes : Bytes) : Text := ofBytesFrom none [] bytes

end Text

end BindingDocs
