import SparqlStream.Numeric.Digits

/-!
# Binary floating point numbers

The two binary interchange formats, given by a precision and a range of exponents.  A finite
number is `m · 2^q`.  Rounding a quotient takes the nearest number of the format, and of two
equally near ones the one with the even `m`; what exceeds the largest number is infinite.

Reading a decimal text rounds the exact number that it denotes, so no digit of it is ignored.
-/

namespace SparqlStream

/-- A binary format: the bits of a full significand, and the exponents of its last bit. -/
structure BinaryFormat where
  precision : Nat
  minExponent : Int
  maxExponent : Int
  deriving DecidableEq, Repr

namespace BinaryFormat

def single : BinaryFormat := ⟨24, -149, 104⟩

def double : BinaryFormat := ⟨53, -1074, 971⟩

/-- The width of the exponent field of the encoding. -/
def exponentBits (f : BinaryFormat) : Nat :=
  ((f.maxExponent - f.minExponent).toNat + 2).log2 + 1

end BinaryFormat

/-- A number of a binary format. -/
inductive BinaryNumber where
  | nan
  | infinite (negative : Bool)
  | finite (negative : Bool) (m : Nat) (q : Int)
  deriving DecidableEq, Repr

namespace BinaryNumber

/-- `num / den` rounded to the nearest integer, ties to the even one. -/
def roundHalfEven (num den : Nat) : Nat :=
  let floor := num / den
  let twice := 2 * (num % den)
  if twice < den then floor
  else if twice > den then floor + 1
  else if floor % 2 = 0 then floor else floor + 1

/-- `num / den · 2^e` as a quotient of natural numbers. -/
def scale (num den : Nat) (e : Int) : Nat × Nat :=
  if 0 ≤ e then (num * Nat.pow 2 e.toNat, den) else (num, den * Nat.pow 2 (-e).toNat)

/-- The exponent of the largest power of two that is not above `num / den`. -/
def logFloor (num den : Nat) : Int :=
  let e : Int := (num.log2 : Int) - den.log2
  let (x, y) := scale num den (-e)
  if y ≤ x then e else e - 1

/-- The number of the format that is nearest to `num / den`. -/
def ofQuotient (f : BinaryFormat) (negative : Bool) (num den : Nat) : BinaryNumber :=
  if num = 0 then .finite negative 0 f.minExponent
  else
    let q := max f.minExponent (logFloor num den - (f.precision - 1))
    let (x, y) := scale num den (-q)
    let m := roundHalfEven x y
    let (m, q) :=
      if m = Nat.pow 2 f.precision then (Nat.pow 2 (f.precision - 1), q + 1) else (m, q)
    if q > f.maxExponent then .infinite negative else .finite negative m q

/-- The number of the format that is nearest to an integer. -/
def ofInt (f : BinaryFormat) (i : Int) : BinaryNumber :=
  ofQuotient f (i < 0) i.natAbs 1

/-- The number of the format that is nearest to a number of any format. -/
def round (f : BinaryFormat) : BinaryNumber → BinaryNumber
  | nan => nan
  | infinite negative => infinite negative
  | finite negative m q =>
    let (num, den) := scale m 1 q
    ofQuotient f negative num den

/-! ## Bits -/

/-- The encoding as a word: sign, exponent field, fraction. -/
def toWord (f : BinaryFormat) (x : BinaryNumber) : Nat :=
  let unit := Nat.pow 2 (f.precision - 1)
  let top := Nat.pow 2 f.exponentBits
  let word (negative : Bool) (exponent fraction : Nat) : Nat :=
    ((if negative then top else 0) + exponent) * unit + fraction
  match x with
  | nan => word false (top - 1) (unit / 2)
  | infinite negative => word negative (top - 1) 0
  | finite negative m q =>
    if m < unit then word negative 0 m
    else word negative ((q - f.minExponent).toNat + 1) (m - unit)

/-- The number that a word encodes. -/
def ofWord (f : BinaryFormat) (w : Nat) : BinaryNumber :=
  let unit := Nat.pow 2 (f.precision - 1)
  let top := Nat.pow 2 f.exponentBits
  let fraction := w % unit
  let exponent := w / unit % top
  let negative := w / unit / top % 2 = 1
  if exponent = top - 1 then
    if fraction = 0 then .infinite negative else .nan
  else if exponent = 0 then .finite negative fraction f.minExponent
  else .finite negative (unit + fraction) (f.minExponent + (exponent - 1))

/-! ## Decimal texts -/

/-- The words that stand for numbers without digits, in lower case. -/
def ofWordText? (negative : Bool) (text : List Char) : Option BinaryNumber :=
  let lower := text.map Char.toLower
  if lower = "inf".toList ∨ lower = "infinity".toList then some (.infinite negative)
  else if lower = "nan".toList then some .nan
  else none

/-- The exponent part of a decimal text, zero if there is none. -/
def exponent? : List Char → Option Int
  | [] => some 0
  | c :: rest => if c = 'e' ∨ c = 'E' then Digits.toInt? rest else none

/-- An exponent outside these bounds decides the result whatever the digits are, provided that it
is compared after the digits have been counted. -/
def exponentLimit : Nat := 2000

/-- `digits · 10^e`, rounded. -/
def ofDigits (f : BinaryFormat) (negative : Bool) (digits : List Char) (e : Int) : BinaryNumber :=
  let n := Digits.toNat digits
  if n = 0 then .finite negative 0 f.minExponent
  else if e + Digits.count n > exponentLimit then .infinite negative
  else if e + Digits.count n < -exponentLimit then .finite negative 0 f.minExponent
  else if 0 ≤ e then ofQuotient f negative (n * Nat.pow 10 e.toNat) 1
  else ofQuotient f negative n (Nat.pow 10 (-e).toNat)

/-- The number that a decimal text denotes: an optional sign, digits on at least one side of an
optional point, and an optional exponent; or one of the words for infinity and for no number. -/
def parse? (f : BinaryFormat) (text : List Char) : Option BinaryNumber :=
  let (negative, body) := Digits.sign text
  match ofWordText? negative body with
  | some x => some x
  | none =>
    let (whole, rest) := Digits.span body
    let (fraction, rest) :=
      match rest with
      | '.' :: tail => Digits.span tail
      | _ => ([], rest)
    if whole = [] ∧ fraction = [] then none
    else (exponent? rest).map fun e => ofDigits f negative (whole ++ fraction) (e - fraction.length)

end BinaryNumber

end SparqlStream
