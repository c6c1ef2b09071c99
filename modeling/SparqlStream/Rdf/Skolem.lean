import SparqlStream.Rdf.Term

/-!
# Skolem IRIs

A blank node that has to be joined like an IRI is replaced by a Skolem IRI, which is a base
followed by `/.well-known/genid/` and the label.  Results turn such IRIs back into blank nodes.

The way back does not know the base.  It takes any `http` or `https` IRI whose first path
segments are `.well-known/genid` and whose remainder is a single non-empty line, and it replaces
every character of the remainder that is no ASCII letter, digit or underscore by an underscore.
-/

namespace SparqlStream

namespace Skolem

/-- The base of Skolem IRIs where no other is given. -/
def defaultBase : String := "http://localhost"

/-- The path between the base and the label. -/
def path : List Char := "/.well-known/genid/".toList

/-- A text without the slashes at its end. -/
def trimSlashes (cs : List Char) : List Char :=
  (cs.reverse.dropWhile (· = '/')).reverse

/-- The rest of a text that starts with the given one. -/
def after? : List Char → List Char → Option (List Char)
  | [], rest => some rest
  | _ :: _, [] => none
  | p :: ps, c :: cs => if p = c then after? ps cs else none

/-- The rest of a text after `http://` or `https://`. -/
def afterScheme? (cs : List Char) : Option (List Char) :=
  match after? "http://".toList cs with
  | some rest => some rest
  | none => after? "https://".toList cs

/-- The part of an IRI text that names a blank node.  The authority ends at the first slash. -/
def label? (cs : List Char) : Option (List Char) := do
  let rest ← afterScheme? cs
  let authority := rest.takeWhile (· ≠ '/')
  let label ← after? path (rest.dropWhile (· ≠ '/'))
  if authority ≠ [] ∧ label ≠ [] ∧ '\n' ∉ label then some label else none

/-- Whether a character may stand in a label that is read off a Skolem IRI. -/
def isLabelChar (c : Char) : Bool := c.isAlphanum || c = '_'

/-- A character of a label that is read off a Skolem IRI. -/
def labelChar (c : Char) : Char := if isLabelChar c then c else '_'

end Skolem

/-- The Skolem IRI of a blank node below a base. -/
def BlankNode.skolemize (b : BlankNode) (base : String) : Iri :=
  ⟨String.ofList (Skolem.trimSlashes base.toList ++ Skolem.path ++ b.label.toList)⟩

/-- A subject with a Skolem IRI in place of a blank node. -/
def Subject.skolemize (base : String) : Subject → Subject
  | iri i => .iri i
  | blank b => .iri (b.skolemize base)

namespace Term

/-- A term with a Skolem IRI in place of a blank node. -/
def skolemize (base : String) : Term → Term
  | blank b => .iri (b.skolemize base)
  | t => t

/-- Whether a term is a Skolem IRI. -/
def isSkolemized : Term → Bool
  | iri i => (Skolem.label? i.text.toList).isSome
  | _ => false

/-- A Skolem IRI as the blank node that it stands for; any other term as it is. -/
def deskolemize : Term → Term
  | iri i =>
    match Skolem.label? i.text.toList with
    | some label => blank ⟨String.ofList (label.map Skolem.labelChar)⟩
    | none => iri i
  | t => t

end Term

end SparqlStream
