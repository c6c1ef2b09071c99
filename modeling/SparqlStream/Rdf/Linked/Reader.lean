import SparqlStream.Rdf.Checked
import SparqlStream.Rdf.Linked.Expanded
import SparqlStream.Rdf.Linked.Number

/-!
# Reading graphs as JSON

The triples of an expanded document.  Names that are neither IRIs nor labels of blank nodes stand
for nothing, and what is said of nothing is left out.
-/

namespace SparqlStream

namespace Linked

/-- The triples that have been found, the last one first, and how many nodes without label there
are. -/
structure Found where
  triples : List Triple
  count : Nat

/-- Finds triples. -/
abbrev Find := StateM Found

/-- A node without label. -/
def newNode (supply : Nat → BlankNode) : Find BlankNode :=
  modifyGet fun f => (supply f.count, { f with count := f.count + 1 })

/-- The node with a name. -/
def subject? (name : String) : Option Subject :=
  match splitColon? name with
  | some ("_", label) => .blank <$> BlankNode.ofLabel? label
  | _ => .iri <$> Iri.ofText? name

/-- The literal of a value. -/
def literal? (v : JsonScalar) (type language : Option String) : Option Literal := do
  let type ←
    match type with
    | some t => some <$> Iri.ofText? t
    | none => some none
  match v, language with
  | .string s, l => Literal.ofParts? s l type
  | .number n, none => some (number n type)
  | .boolean b, none => some (.ofDatatype (if b then "true" else "false") (type.getD Xsd.boolean))
  | _, some _ => none

/-- Finds a triple if all of its parts are there. -/
def found (s : Option Subject) (p : String) (o : Option Term) : Find Unit := do
  match s, Iri.ofText? p, o with
  | some s, some p, some o => modify fun f => { f with triples := ⟨s, p, o⟩ :: f.triples }
  | _, _, _ => pure ()

/-- The first node of a list of terms. -/
def chain (supply : Nat → BlankNode) : List Term → Find Term
  | [] => return .iri Rdf.nil
  | t :: rest => do
    let b ← newNode supply
    let tail ← chain supply rest
    found (some (.blank b)) Rdf.first.text (some t)
    found (some (.blank b)) Rdf.rest.text (some tail)
    return .blank b

mutual

/-- The term of an item, which also finds the triples that the item consists of. -/
def term (supply : Nat → BlankNode) : Item → Find (Option Term)
  | .value v type language => return (literal? v type language).map .literal
  | .list items => do
    return some (← chain supply ((← terms supply items).filterMap id))
  | .node id types properties reverse graph => do
    let s : Option Subject ←
      match id with
      | some name => pure (subject? name)
      | none => do pure (some (.blank (← newNode supply)))
    types.forM fun type => found s Rdf.type.text ((subject? type).map Subject.toTerm)
    describe supply s false properties
    describe supply s true reverse
    let before := (← get).triples
    let _ ← terms supply graph
    if s.isNone then modify fun f => { f with triples := before }
    return s.map Subject.toTerm

/-- The terms of some items. -/
def terms (supply : Nat → BlankNode) : List Item → Find (List (Option Term))
  | [] => return []
  | item :: rest => return (← term supply item) :: (← terms supply rest)

/-- Finds the triples of a node with some properties, or with some that lead to it. -/
def describe (supply : Nat → BlankNode) (s : Option Subject) (isReverse : Bool) :
    List (String × List Item) → Find Unit
  | [] => return
  | (p, items) :: rest => do
    for t in ← terms supply items do
      if isReverse then found (t.bind Term.toSubject?) p (s.map Subject.toTerm) else found s p t
    describe supply s isReverse rest

end

/-- The triples of a document.  Nodes without label get blank nodes of a supply. -/
def read? (supply : Nat → BlankNode) (text : String) : Option (List Triple) := do
  let tree ← JsonTree.ofText? text
  let items ← expand (2 * text.length + 2) .empty none tree
  let ((), f) := (do let _ ← terms supply items : Find Unit).run ⟨[], 0⟩
  return f.triples.reverse

end Linked

end SparqlStream
