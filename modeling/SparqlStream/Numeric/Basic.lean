import SparqlStream.Numeric.Decimal
import SparqlStream.Numeric.Shortest
import SparqlStream.Rdf.Term

/-!
# Numeric literals

The numbers that literals of the XML Schema datatypes denote.  There are four kinds, and two
numbers are combined after both have been promoted to a common one: integers to decimals,
decimals to single precision, single to double precision.

All twelve datatypes derived from `xsd:integer` are read as integers, whatever their own bounds.
-/

namespace SparqlStream

namespace Xsd

/-- The integer datatypes: `xsd:integer` and those derived from it. -/
def integerDatatypes : List Iri :=
  [integer, .xsd "byte", .xsd "short", .xsd "int", .xsd "long", .xsd "unsignedByte",
    .xsd "unsignedShort", .xsd "unsignedInt", .xsd "unsignedLong", .xsd "positiveInteger",
    .xsd "negativeInteger", .xsd "nonPositiveInteger", .xsd "nonNegativeInteger"]

/-- Whether literals of the datatype are integers. -/
def isInteger (d : Iri) : Bool := integerDatatypes.contains d

/-- Whether literals of the datatype are numbers. -/
def isNumeric (d : Iri) : Bool :=
  isInteger d || d = decimal || d = float || d = double

end Xsd

/-- The value of a numeric literal. -/
inductive Numeric where
  | integer (value : Signed 64)
  | decimal (value : Decimal)
  | single (value : Float32)
  | double (value : Float)

namespace Numeric

/-! ## Conversions -/

/-- The number of the single format that encodes a value of it. -/
def singleOfBinary (x : BinaryNumber) : Float32 :=
  Float32.ofBits (x.toWord .single).toUInt32

/-- The number of the double format that encodes a value of it. -/
def doubleOfBinary (x : BinaryNumber) : Float :=
  Float.ofBits (x.toWord .double).toUInt64

/-- The value of the single format that a number of it encodes. -/
def binaryOfSingle (x : Float32) : BinaryNumber := .ofWord .single x.toBits.toNat

/-- The value of the double format that a number of it encodes. -/
def binaryOfDouble (x : Float) : BinaryNumber := .ofWord .double x.toBits.toNat

/-- The nearest number of single precision. -/
def singleOfInteger (i : Signed 64) : Float32 := singleOfBinary (.ofInt .single i.toInt)

/-- The nearest number of double precision. -/
def doubleOfInteger (i : Signed 64) : Float := doubleOfBinary (.ofInt .double i.toInt)

/-- Removes common factors ten from a count of units and the number of units that make one, as
far as the zeros at the end of the count go. -/
def reduceScale : Nat → Int → Int × Nat
  | 0, i => (i, 0)
  | k + 1, i => if i ≠ 0 ∧ i % 10 = 0 then reduceScale k (i.tdiv 10) else (i, k + 1)

/-- A decimal in double precision: the reduced count of units and the number of units that make
one are rounded each, and then divided. -/
def doubleOfDecimal (d : Decimal) : Float :=
  let (value, places) := reduceScale Decimal.places d.scaled.toInt
  doubleOfBinary (.ofInt .double value) / doubleOfBinary (.ofInt .double (Int.pow 10 places))

/-- A decimal in single precision goes through double precision. -/
def singleOfDecimal (d : Decimal) : Float32 :=
  singleOfBinary ((binaryOfDouble (doubleOfDecimal d)).round .single)

/-- Any number in double precision. -/
def toDouble : Numeric → Float
  | integer i => doubleOfInteger i
  | decimal d => doubleOfDecimal d
  | single x => doubleOfBinary ((binaryOfSingle x).round .double)
  | double x => x

/-! ## Literals -/

/-- The number that a literal denotes.  Literals of other datatypes and ill-formed ones denote
none. -/
def ofLiteral? (l : Literal) : Option Numeric :=
  let text := l.value.toList
  if Xsd.isInteger l.datatype then
    (Digits.toInt? text).bind fun i => (Signed.ofInt? i).map integer
  else if l.datatype = Xsd.decimal then (Decimal.parse? text).map decimal
  else if l.datatype = Xsd.float then
    (BinaryNumber.parse? .single text).map fun x => single (singleOfBinary x)
  else if l.datatype = Xsd.double then
    (BinaryNumber.parse? .double text).map fun x => double (doubleOfBinary x)
  else none

/-- How floating point numbers spell what digits cannot. -/
def words : Shortest.Words := ⟨"NaN", "INF"⟩

/-- The literal of a number. -/
def toLiteral : Numeric → Literal
  | integer i => .typed (String.ofList (Digits.ofInt i.toInt)) Xsd.integer
  | decimal d => .typed (String.ofList d.render) Xsd.decimal
  | single x =>
    .typed (String.ofList (Shortest.render words .single (binaryOfSingle x))) Xsd.float
  | double x =>
    .typed (String.ofList (Shortest.render words .double (binaryOfDouble x))) Xsd.double

/-! ## Properties of one number -/

/-- The number with its sign changed, if it is in range. -/
def neg? : Numeric → Option Numeric
  | integer i => i.neg?.map integer
  | decimal d => d.neg?.map decimal
  | single x => some (single (-x))
  | double x => some (double (-x))

/-- Zero and what is no number are false, all other numbers true. -/
def isTrue : Numeric → Bool
  | integer i => i.toInt != 0
  | decimal d => d.scaled.toInt != 0
  | single x => !(x == 0) && !x.isNaN
  | double x => !(x == 0) && !x.isNaN

end Numeric

/-! ## Two numbers -/

/-- Two numbers of one kind. -/
inductive NumericPair where
  | integer (left right : Signed 64)
  | decimal (left right : Decimal)
  | single (left right : Float32)
  | double (left right : Float)

namespace NumericPair

/-- Two numbers promoted to their common kind. -/
def promote : Numeric → Numeric → NumericPair
  | .integer a, .integer b => integer a b
  | .integer a, .decimal b => decimal (.ofInteger a) b
  | .decimal a, .integer b => decimal a (.ofInteger b)
  | .decimal a, .decimal b => decimal a b
  | .double a, b => double a b.toDouble
  | a, .double b => double a.toDouble b
  | .single a, .single b => single a b
  | .single a, .integer b => single a (Numeric.singleOfInteger b)
  | .single a, .decimal b => single a (Numeric.singleOfDecimal b)
  | .integer a, .single b => single (Numeric.singleOfInteger a) b
  | .decimal a, .single b => single (Numeric.singleOfDecimal a) b

/-- The order of two floating point numbers, given their comparisons; what is no number has
none. -/
def floatOrder (less equal greater : Bool) : Option Ordering :=
  if less then some .lt else if equal then some .eq else if greater then some .gt else none

/-- The order of the two numbers, unless one of them is no number. -/
def compare? : NumericPair → Option Ordering
  | integer a b => some (a.compare b)
  | decimal a b => some (a.compare b)
  | single a b => floatOrder (a < b) (a == b) (b < a)
  | double a b => floatOrder (a < b) (a == b) (b < a)

def add? : NumericPair → Option Numeric
  | integer a b => (a.add? b).map .integer
  | decimal a b => (a.add? b).map .decimal
  | single a b => some (.single (a + b))
  | double a b => some (.double (a + b))

def sub? : NumericPair → Option Numeric
  | integer a b => (a.sub? b).map .integer
  | decimal a b => (a.sub? b).map .decimal
  | single a b => some (.single (a - b))
  | double a b => some (.double (a - b))

def mul? : NumericPair → Option Numeric
  | integer a b => (a.mul? b).map .integer
  | decimal a b => (a.mul? b).map .decimal
  | single a b => some (.single (a * b))
  | double a b => some (.double (a * b))

/-- The quotient.  That of two integers is a decimal. -/
def div? : NumericPair → Option Numeric
  | integer a b => ((Decimal.ofInteger a).div? (.ofInteger b)).map .decimal
  | decimal a b => (a.div? b).map .decimal
  | single a b => some (.single (a / b))
  | double a b => some (.double (a / b))

end NumericPair

/-- The order of two numbers after promotion. -/
def Numeric.compare? (a b : Numeric) : Option Ordering := (NumericPair.promote a b).compare?

end SparqlStream
