/-!
# Bytes of characters

The bytes that characters are written with, and ranges of characters as sequences of ranges of
bytes: a character lies in a range if its bytes lie in the ranges of one of its sequences, and no
other bytes do.
-/

namespace SparqlStream.Utf8

/-- The bytes of a code point. -/
def encode (n : Nat) : List Nat :=
  let low (shift : Nat) : Nat := 0x80 + n / Nat.pow 2 shift % 0x40
  if n < 0x80 then [n]
  else if n < 0x800 then [0xC0 + n / Nat.pow 2 6, low 0]
  else if n < 0x10000 then [0xE0 + n / Nat.pow 2 12, low 6, low 0]
  else [0xF0 + n / Nat.pow 2 18, low 12, low 6, low 0]

/-- A range of bytes. -/
abbrev ByteRange := Nat × Nat

/-- Ranges of the bytes of a character, from the first to the last. -/
abbrev Sequence := List ByteRange

/-- The code point behind which a range has to be cut, if there is one: where the number of bytes
changes, or where the last bytes do not go through all values. -/
def cut? (a b : Nat) : Option Nat :=
  let byLength := [0x7F, 0x7FF, 0xFFFF].find? fun m => a ≤ m && m < b
  let byBytes := [Nat.pow 2 6, Nat.pow 2 12, Nat.pow 2 18].findSome? fun size =>
    if a / size = b / size then none
    else if a % size ≠ 0 then some (a - a % size + (size - 1))
    else if b % size ≠ size - 1 then some (b - b % size - 1)
    else none
  byLength.or (if b < 0x80 then none else byBytes)

/-- The sequences of a range without halves of pairs.  The limit is a number of cuts, one inside
another. -/
def sequencesFrom : (limit : Nat) → Nat → Nat → List Sequence
  | 0, _, _ => []
  | limit + 1, a, b =>
    if b < a then []
    else
      match cut? a b with
      | some m => sequencesFrom limit a m ++ sequencesFrom limit (m + 1) b
      | none => [(encode a).zip (encode b)]

/-- The sequences of a range. -/
def sequences (r : Nat × Nat) : List Sequence :=
  let (a, b) := r
  if a < 0xE000 && 0xD7FF < b then
    sequencesFrom 32 a 0xD7FF ++ sequencesFrom 32 0xE000 b
  else sequencesFrom 32 a b

end SparqlStream.Utf8
