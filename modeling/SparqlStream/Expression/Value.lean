import SparqlStream.Expression.Error
import SparqlStream.Numeric.Basic

/-!
# Terms as values

How operators look at terms: as numbers, as strings, as truth values, and in which order.

Two numeric literals are compared by their values; any other two terms are compared by their
lexical forms, code point by code point.
-/

namespace SparqlStream

namespace Term

/-- The number that a term denotes. -/
def numeric? : Term → Option Numeric
  | literal l => Numeric.ofLiteral? l
  | _ => none

/-- The number that a term denotes, or why it denotes none. -/
def numeric (t : Term) : Except EvaluationError Numeric :=
  match t.numeric? with
  | some n => .ok n
  | none => .error (.type (.notNumber t))

/-- A term as a literal that is a string, with or without a language tag. -/
def string (t : Term) : Except EvaluationError Literal :=
  match t with
  | literal l =>
    if l.datatype = Xsd.string ∨ l.language?.isSome then .ok l else .error (.type (.notString t))
  | _ => .error (.type (.notString t))

/-- The truth value of a term in a condition. -/
def truthValue (t : Term) : Except EvaluationError Bool :=
  match t with
  | literal l =>
    if l.datatype = Xsd.boolean then
      if l.value = "true" ∨ l.value = "1" then .ok true
      else if l.value = "false" ∨ l.value = "0" then .ok false
      else .error (.type (.invalidBoolean t))
    else if l.datatype = Xsd.string then .ok (!l.value.isEmpty)
    else t.numeric.map Numeric.isTrue
  | _ => .error (.type (.noTruthValue t))

/-- Whether a filter keeps a solution for which its expression has this value.  Only literals
with the lexical form `false` or `0` reject it. -/
def isTruthy : Term → Bool
  | literal l => !(l.value = "false" || l.value = "0")
  | _ => true

/-- Whether two terms are equal as values. -/
def equals (a b : Term) : Bool :=
  match a.numeric?, b.numeric? with
  | some x, some y => x.compare? y == some .eq
  | _, _ => a = b

/-- The order of two terms as values. -/
def order (a b : Term) : Except EvaluationError Ordering :=
  match a.numeric?, b.numeric? with
  | some x, some y =>
    match x.compare? y with
    | some o => .ok o
    | none => .error (.type (.unordered a b))
  | _, _ => .ok (compare a.lexicalForm b.lexicalForm)

/-- The lexical form of an order key.  A key without a value counts as the empty text. -/
def keyForm : Option Term → String
  | some t => t.lexicalForm
  | none => ""

/-- The order of two keys.  Where numbers have no order, their lexical forms decide. -/
def compareKeys (a b : Option Term) : Ordering :=
  match a.bind numeric?, b.bind numeric? with
  | some x, some y => (x.compare? y).getD (compare (keyForm a) (keyForm b))
  | _, _ => compare (keyForm a) (keyForm b)

end Term

namespace Literal

/-- A literal with another text and the same language tag. -/
def withText (l : Literal) (text : String) : Literal :=
  match l with
  | tagged _ language => tagged text language
  | _ => simple text

end Literal

/-- Two strings that a function compares.  The second may have a language tag only if the first
has the same one. -/
def stringPair (a b : Term) : Except EvaluationError (String × String) := do
  let x ← a.string
  let y ← b.string
  if y.language?.isSome ∧ x.language? ≠ y.language? then
    .error (.type .incompatibleLanguages)
  else .ok (x.value, y.value)

end SparqlStream
