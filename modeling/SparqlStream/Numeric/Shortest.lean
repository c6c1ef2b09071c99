import SparqlStream.Numeric.Binary

/-!
# The shortest digits of a binary number

A binary number stands for every real number that rounds to it.  Its shortest text has the fewest
digits among the decimals of that interval, and of those with as few digits the nearest to the
number itself; of two equally near ones it is the larger.

For each number of digits the decimals form a grid.  If a point of a grid lies in the interval,
then one of the two grid points around the number itself does, so only those two are tried.
-/

namespace SparqlStream.Shortest

/-- A positive number and the interval that rounds to it, as multiples of `1 / den`. -/
structure Interval where
  low : Nat
  value : Nat
  high : Nat
  den : Nat
  closed : Bool
  deriving Repr

/-- The interval of `m · 2^q`.  Below a power of two the numbers lie twice as close. -/
def interval (f : BinaryFormat) (m : Nat) (q : Int) : Interval :=
  let below := if m = Nat.pow 2 (f.precision - 1) ∧ f.minExponent < q then 1 else 2
  let (up, den) := BinaryNumber.scale 1 1 (q - 2)
  ⟨(4 * m - below) * up, 4 * m * up, (4 * m + 2) * up, den, m % 2 = 0⟩

/-- Whether `a · 10^s` lies in the interval. -/
def Interval.holds (i : Interval) (a : Nat) (s : Int) : Bool :=
  let x := if 0 ≤ s then a * Nat.pow 10 s.toNat * i.den else a * i.den
  let unit := if 0 ≤ s then 1 else Nat.pow 10 (-s).toNat
  if i.closed then i.low * unit ≤ x && x ≤ i.high * unit
  else i.low * unit < x && x < i.high * unit

/-- The exponent of the largest power of ten that is not above `num / den`. -/
def logFloor (num den : Nat) : Int :=
  if den ≤ num then (Digits.count (num / den) : Int) - 1
  else
    let t := (den + num - 1) / num
    if t ≤ 1 then 0 else -(Digits.count (t - 1) : Int)

/-- The grid point below the number on the grid of multiples of `10^s`, and whether the number
lies at least half way to the next one. -/
def below (i : Interval) (s : Int) : Nat × Bool :=
  let (x, y) :=
    if 0 ≤ s then (i.value, i.den * Nat.pow 10 s.toNat)
    else (i.value * Nat.pow 10 (-s).toNat, i.den)
  (x / y, y ≤ 2 * (x % y))

/-- The decimal with `n` digits that stands for the number, if one does. -/
def withDigits? (i : Interval) (n : Nat) : Option (Nat × Int) :=
  let s := logFloor i.value i.den - (n - 1 : Int)
  let (a, up) := below i s
  match i.holds a s && a ≠ 0, i.holds (a + 1) s with
  | true, true => some (if up then a + 1 else a, s)
  | true, false => some (a, s)
  | false, true => some (a + 1, s)
  | false, false => none

/-- No number of either format needs more digits. -/
def maxDigits : Nat := 17

/-- The digits of the positive number `m · 2^q` and the power of ten that they are multiplied
with. -/
def digits (f : BinaryFormat) (m : Nat) (q : Int) : Nat × Int :=
  let i := interval f m q
  match (List.range maxDigits).findSome? fun n => withDigits? i (n + 1) with
  | some found => found
  | none => ((below i 0).1, 0)

/-- How a number is laid out as text: always without an exponent. -/
def positional (digits : List Char) (s : Int) : List Char :=
  if 0 ≤ s then digits ++ List.replicate s.toNat '0'
  else
    let places := (-s).toNat
    if digits.length ≤ places then
      '0' :: '.' :: List.replicate (places - digits.length) '0' ++ digits
    else digits.take (digits.length - places) ++ '.' :: digits.drop (digits.length - places)

/-- The texts of a format that are not made of digits. -/
structure Words where
  nan : String
  infinite : String

/-- The text of a number. -/
def render (w : Words) (f : BinaryFormat) (x : BinaryNumber) : List Char :=
  let withSign (negative : Bool) (text : List Char) : List Char :=
    if negative then '-' :: text else text
  match x with
  | .nan => w.nan.toList
  | .infinite negative => withSign negative w.infinite.toList
  | .finite negative m q =>
    if m = 0 then withSign negative ['0']
    else
      let (n, s) := digits f m q
      let ds := Digits.ofNat n
      let trimmed := Digits.trimZeros ds
      withSign negative (positional trimmed (s + (ds.length - trimmed.length)))

end SparqlStream.Shortest
