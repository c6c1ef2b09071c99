/-!
# Decimal digits

Reading and writing of digit strings, over lists of characters.  A digit is one of the ten ASCII
digits; nothing else that a script may call a digit counts.
-/

namespace SparqlStream.Digits

/-- The number that a list of digits denotes, the first digit being the most significant. -/
def toNat (ds : List Char) : Nat := Nat.ofDigitChars 10 ds 0

/-- The digits of a number, without leading zeros; zero is one digit. -/
def ofNat (n : Nat) : List Char := Nat.toDigits 10 n

/-- How many digits a number has. -/
def count (n : Nat) : Nat := (ofNat n).length

/-- The leading digits of a text, and the rest. -/
def span (cs : List Char) : List Char × List Char :=
  (cs.takeWhile Char.isDigit, cs.dropWhile Char.isDigit)

/-- The digits of a number with zeros in front, at least as many as asked for. -/
def padded (width n : Nat) : List Char :=
  List.replicate (width - count n) '0' ++ ofNat n

/-- A text without the zeros at its end. -/
def trimZeros (cs : List Char) : List Char :=
  (cs.reverse.dropWhile (· = '0')).reverse

/-- A sign in front of a number, and the rest.  No sign is a plus. -/
def sign : List Char → Bool × List Char
  | '+' :: rest => (false, rest)
  | '-' :: rest => (true, rest)
  | rest => (false, rest)

/-- A number with the given sign. -/
def signed (negative : Bool) (n : Nat) : Int :=
  if negative then -n else n

/-- The integer that a text denotes: an optional sign and at least one digit. -/
def toInt? (cs : List Char) : Option Int :=
  let (negative, digits) := sign cs
  if digits ≠ [] ∧ digits.all Char.isDigit then some (signed negative (toNat digits)) else none

/-- The digits of an integer, with a minus in front if it is negative. -/
def ofInt (i : Int) : List Char :=
  if i < 0 then '-' :: ofNat i.natAbs else ofNat i.natAbs

@[simp] theorem toNat_ofNat (n : Nat) : toNat (ofNat n) = n :=
  Nat.ofDigitChars_toDigits (by decide) (by decide)

end SparqlStream.Digits
