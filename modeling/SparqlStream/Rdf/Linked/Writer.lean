import SparqlStream.Rdf.Document
import SparqlStream.Syntax.JsonPrinter

/-!
# Writing graphs as JSON

A document is an array with an object for each run of triples with the same subject.  An object has
the name of its subject and a list of objects for each predicate.  A predicate that comes back after
another one begins a new object, since no object has a key twice.
-/

namespace SparqlStream

namespace Linked

open JsonText (ofString ofKey ofMembers)

/-- The key of a predicate. -/
def predicateKey (p : Iri) : String := if p = Rdf.type then "@type" else p.text

/-- The name of a node. -/
def nodeName : Subject → String
  | .iri i => i.text
  | .blank b => b.render

/-- The object of a triple.  A node is named by a string where it is a type. -/
def objectText (p : Iri) (o : Term) : String :=
  match o.toSubject?, o with
  | some node, _ =>
    if p = Rdf.type then ofString (nodeName node)
    else ofMembers [("@id", ofString (nodeName node))]
  | none, .literal (.tagged v l) =>
    ofMembers [("@language", ofString l), ("@value", ofString v)]
  | none, .literal (.typed v d) =>
    ofMembers [("@type", ofString d.text), ("@value", ofString v)]
  | none, o => ofMembers [("@value", ofString o.lexicalForm)]

/-- The object that is being written: its subject, the predicate whose list is open, and those whose
lists are closed. -/
structure Block where
  subject : Subject
  predicate : Iri
  closed : List Iri

/-- Where a triple goes. -/
inductive Continuation where
  | newBlock
  | newKey
  | sameKey
  deriving DecidableEq

namespace Block

/-- Where a triple goes behind others. -/
def continuation (b : Block) (t : Triple) : Continuation :=
  if b.subject ≠ t.subject then .newBlock
  else if b.predicate = t.predicate then .sameKey
  else if b.closed.contains t.predicate then .newBlock
  else .newKey

/-- The object that is being written behind some triples, of which the last one comes first. -/
def behind? : List Triple → Option Block
  | [] => none
  | t :: before =>
    match behind? before with
    | none => some ⟨t.subject, t.predicate, []⟩
    | some b =>
      match b.continuation t with
      | .newBlock => some ⟨t.subject, t.predicate, []⟩
      | .newKey => some ⟨t.subject, t.predicate, b.predicate :: b.closed⟩
      | .sameKey => some b

end Block

/-- The beginning of the list of a predicate, with its first object. -/
def openList (t : Triple) : String :=
  ofKey (predicateKey t.predicate) ++ "[" ++ objectText t.predicate t.object

/-- The beginning of an object, with its first triple. -/
def openBlock (t : Triple) : String :=
  "\x7b" ++ ofKey "@id" ++ ofString (nodeName t.subject) ++ "," ++ openList t

end Linked

/-- Triples as JSON. -/
def GraphFormat.linked : GraphFormat where
  triple before t :=
    match Linked.Block.behind? before with
    | none => "[" ++ Linked.openBlock t
    | some b =>
      match b.continuation t with
      | .newBlock => "]\x7d," ++ Linked.openBlock t
      | .newKey => "]," ++ Linked.openList t
      | .sameKey => "," ++ Linked.objectText t.predicate t.object
  closing before := if before.isEmpty then "[]" else "]\x7d]"

end SparqlStream
