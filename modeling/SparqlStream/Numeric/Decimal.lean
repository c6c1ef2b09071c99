import SparqlStream.Numeric.Digits
import SparqlStream.Numeric.Signed

/-!
# Decimals

A decimal is an integer of 128 bits that counts units of 10⁻¹⁸.  Addition, subtraction and
negation are exact or have no result.  A product has a result only if it is exact; a quotient
loses the digits after its eighteenth, and has none if the words in which it is computed cannot
hold enough digits.

Products and quotients never leave the 128-bit words: before multiplying, the scale 10¹⁸ is
cancelled from the two factors, and before dividing, the dividend is shifted up and the divisor
shifted down as far as they go.
-/

namespace SparqlStream

/-- A multiple of 10⁻¹⁸. -/
structure Decimal where
  scaled : Signed 128
  deriving DecidableEq, Repr

namespace Decimal

/-- The number of digits after the point. -/
def places : Nat := 18

/-- How many units make one. -/
def one : Int := Int.pow 10 places

/-- The decimal that counts the given number of units. -/
def ofScaled? (i : Int) : Option Decimal := (Signed.ofInt? i).map Decimal.mk

/-- Every integer of 64 bits is a decimal. -/
def ofInteger (i : Signed 64) : Decimal where
  scaled := {
    toInt := i.toInt * one
    fits := by
      have h := i.fits
      have hone : one = 1000000000000000000 := rfl
      have hnarrow : Int.pow 2 (64 - 1) = 9223372036854775808 := rfl
      have hwide : Int.pow 2 (128 - 1) = 170141183460469231731687303715884105728 := rfl
      simp only [Signed.Fits, hone, hnarrow, hwide] at h ⊢
      omega }

def add? (a b : Decimal) : Option Decimal := (a.scaled.add? b.scaled).map mk

def sub? (a b : Decimal) : Option Decimal := (a.scaled.sub? b.scaled).map mk

def neg? (a : Decimal) : Option Decimal := a.scaled.neg?.map mk

def compare (a b : Decimal) : Ordering := a.scaled.compare b.scaled

/-! ## Products -/

/-- Divides by `p` as long as that leaves no remainder, at most `k` times.  The second component
is the number of divisions that are left. -/
def cancel (p : Int) : Nat → Int → Int × Nat
  | 0, a => (a, 0)
  | k + 1, a => if a % p = 0 then cancel p k (a.tdiv p) else (a, k + 1)

/-- Cancels `pᵏ` from two factors, from the left one as far as possible; `none` if a part of it
is left. -/
def cancelBoth (p : Int) (k : Nat) (a b : Int) : Option (Int × Int) :=
  let (a', k') := cancel p k a
  match cancel p k' b with
  | (b', 0) => some (a', b')
  | _ => none

/-- The exact product, if it is a decimal. -/
def mul? (a b : Decimal) : Option Decimal :=
  if a.scaled.toInt = 0 ∨ b.scaled.toInt = 0 then ofScaled? 0
  else do
    let (x, y) ← cancelBoth 2 places a.scaled.toInt b.scaled.toInt
    let (x, y) ← cancelBoth 5 places x y
    ofScaled? (x * y)

/-! ## Quotients -/

/-- Multiplies by ten as long as a word of 128 bits holds the result, at most `k` times, and
counts the steps. -/
def shiftUp : Nat → Int → Int × Nat
  | 0, a => (a, 0)
  | k + 1, a =>
    if Signed.Fits 128 (a * 10) then
      let (b, n) := shiftUp k (a * 10)
      (b, n + 1)
    else (a, 0)

/-- Divides by ten as long as that leaves no remainder, at most `k` times, and counts the
steps. -/
def shiftDown : Nat → Int → Int × Nat
  | 0, a => (a, 0)
  | k + 1, a =>
    if a % 10 = 0 then
      let (b, n) := shiftDown k (a.tdiv 10)
      (b, n + 1)
    else (a, 0)

/-- No power of ten above this one fits a word of 128 bits. -/
def maxShift : Nat := 38

/-- The quotient, cut off after the last place.  Zero is never shifted. -/
def div? (a b : Decimal) : Option Decimal := do
  let x := a.scaled.toInt
  let y := b.scaled.toInt
  let (x, up) := if x = 0 then (x, 0) else shiftUp maxShift x
  let (y, down) := if y = 0 then (y, 0) else shiftDown maxShift y
  if up + down < places ∨ y = 0 then none
  else
    let shift := up + down - places
    let quotient ← (Signed.ofInt? (x.tdiv y) : Option (Signed 128))
    if shift ≤ maxShift then ofScaled? (quotient.toInt.tdiv (Int.pow 10 shift)) else none

/-! ## Text -/

/-- The decimal that a text denotes: an optional sign, digits, and a point with digits after it.
The digits on one side of the point may be missing.  Zeros at the end of the fraction do not
count; of the other digits there are at most eighteen. -/
def parse? (text : List Char) : Option Decimal :=
  let (negative, body) := Digits.sign text
  let (whole, rest) := Digits.span body
  match rest with
  | [] =>
    if whole = [] then none
    else ofScaled? (Digits.signed negative (Digits.toNat whole * Nat.pow 10 places))
  | '.' :: tail =>
    if whole = [] ∧ tail = [] then none
    else
      let fraction := Digits.trimZeros tail
      if fraction.all Char.isDigit ∧ fraction.length ≤ places then
        ofScaled? (Digits.signed negative
          (Digits.toNat (whole ++ fraction) * Nat.pow 10 (places - fraction.length)))
      else none
  | _ => none

/-- The digits after the point: none is written as one zero. -/
def fractionText (n : Nat) : List Char :=
  match Digits.trimZeros (Digits.padded places n) with
  | [] => ['0']
  | ds => ds

/-- The text of a decimal: no superfluous zeros, but at least one digit on each side of the
point. -/
def render (a : Decimal) : List Char :=
  let n := a.scaled.toInt.natAbs
  let unit := Nat.pow 10 places
  (if a.scaled.toInt < 0 then ['-'] else [])
    ++ Digits.ofNat (n / unit) ++ '.' :: fractionText (n % unit)

end Decimal

end SparqlStream
