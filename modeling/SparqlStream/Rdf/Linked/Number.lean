import SparqlStream.Rdf.Term

/-!
# Numbers in canonical form

The literal of a number.  A number without fraction that is not too large is written with its digits
alone; another one has a digit other than zero before the point, at least one digit behind it, and
an exponent.
-/

namespace SparqlStream

namespace Linked

/-- The digits of a number without needless zeros, how many of them stand before the point, and
whether the number is negative. -/
structure Decomposed where
  isNegative : Bool
  digits : List Char
  scale : Int

/-- The value of digits that a sign may precede. -/
def signed (cs : List Char) : Int :=
  let value (cs : List Char) : Nat := cs.foldl (fun n c => 10 * n + (c.toNat - '0'.toNat)) 0
  match cs with
  | '-' :: cs => -(value cs : Int)
  | '+' :: cs => value cs
  | cs => value cs

/-- A number taken apart. -/
def Decomposed.ofText (cs : List Char) : Decomposed :=
  let isNegative := cs.head? = some '-'
  let cs := if isNegative then cs.drop 1 else cs
  let isExponent (c : Char) : Bool := c = 'e' || c = 'E'
  let exponent := signed ((cs.dropWhile (!isExponent ·)).drop 1)
  let mantissa := cs.takeWhile (!isExponent ·)
  let before := mantissa.takeWhile (· ≠ '.')
  let all := before ++ (mantissa.dropWhile (· ≠ '.')).drop 1
  let zeros := (all.takeWhile (· = '0')).length
  let digits := ((all.drop zeros).reverse.dropWhile (· = '0')).reverse
  ⟨isNegative, digits, exponent + before.length - zeros⟩

/-- The literal of a number, which may have to have a type. -/
def number (written : String) (type : Option Iri) : Literal :=
  let n := Decomposed.ofText written.toList
  let sign := if n.isNegative then ['-'] else []
  let isWhole := n.digits.isEmpty || (n.digits.length ≤ n.scale && n.scale < 21)
  if type ≠ some Xsd.double && isWhole then
    let text :=
      if n.digits.isEmpty then ['0']
      else sign ++ n.digits ++ List.replicate (n.scale.toNat - n.digits.length) '0'
    .ofDatatype (String.ofList text) (type.getD Xsd.integer)
  else
    let exponent := if n.digits.isEmpty then 0 else n.scale - 1
    let fraction := if n.digits.length ≤ 1 then ['0'] else n.digits.drop 1
    let text := sign ++ [n.digits.headD '0', '.'] ++ fraction ++ ['E'] ++ (toString exponent).toList
    .ofDatatype (String.ofList text) (type.getD Xsd.double)

end Linked

end SparqlStream
