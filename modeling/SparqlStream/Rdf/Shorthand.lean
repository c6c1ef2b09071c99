import SparqlStream.Rdf.Text

/-!
# Literals in short

Some syntaxes write integers, decimals, doubles and booleans without quotes and datatype.  A
literal is written in short only if the short form reads back as the same literal, so its lexical
form must be one that the syntax takes for a literal of that datatype.
-/

namespace SparqlStream

namespace Shorthand

/-- A text without its sign. -/
def unsigned : List Char → List Char
  | '+' :: rest | '-' :: rest => rest
  | cs => cs

/-- Whether there are digits and nothing else. -/
def isDigits (cs : List Char) : Bool := !cs.isEmpty && cs.all Char.isDigit

/-- A sign may precede the digits. -/
def isInteger (cs : List Char) : Bool := isDigits (unsigned cs)

/-- There is a point, and there are digits behind it. -/
def isDecimal (cs : List Char) : Bool :=
  match (unsigned cs).dropWhile Char.isDigit with
  | '.' :: rest => isDigits rest
  | _ => false

/-- The letter of an exponent and its digits, which a sign may precede. -/
def isExponent : List Char → Bool
  | 'e' :: rest | 'E' :: rest => isDigits (unsigned rest)
  | _ => false

/-- There are digits before or behind the point, which may be missing, and there is an exponent. -/
def isDouble (cs : List Char) : Bool :=
  let cs := unsigned cs
  let before := cs.takeWhile Char.isDigit
  match cs.dropWhile Char.isDigit with
  | '.' :: rest =>
    (!before.isEmpty || !(rest.takeWhile Char.isDigit).isEmpty)
      && isExponent (rest.dropWhile Char.isDigit)
  | rest => !before.isEmpty && isExponent rest

end Shorthand

namespace Literal

/-- Whether a literal has a short form, which is its lexical form. -/
def isShort : Literal → Bool
  | typed v d =>
    if d = Xsd.boolean then v = "true" || v = "false"
    else if d = Xsd.integer then Shorthand.isInteger v.toList
    else if d = Xsd.decimal then Shorthand.isDecimal v.toList
    else if d = Xsd.double then Shorthand.isDouble v.toList
    else false
  | _ => false

end Literal

end SparqlStream
