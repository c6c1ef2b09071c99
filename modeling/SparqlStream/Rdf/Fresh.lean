import SparqlStream.Rdf.Term

/-!
# New blank nodes

Blank nodes that no text names.  A supply gives a blank node for each number; supplies that have
to be kept apart take turns in the usual one.
-/

namespace SparqlStream

namespace BlankNode

/-- The blank node with a number in the usual supply.  Its label is a letter and at least 31
digits. -/
def fresh (n : Nat) : BlankNode :=
  let digits := toString n
  ⟨"f" ++ String.ofList (List.replicate (31 - digits.length) '0') ++ digits⟩

/-- One of a number of supplies that have no blank node in common. -/
def supply (count index : Nat) (n : Nat) : BlankNode := fresh (n * count + index)

end BlankNode

/-- The blank nodes of a triple. -/
def Triple.blankNodes (t : Triple) : List BlankNode :=
  let ofTerm : Term → List BlankNode
    | .blank b => [b]
    | _ => []
  ofTerm t.subject.toTerm ++ ofTerm t.object

/-- A triple with other blank nodes. -/
def Triple.mapBlankNodes (f : BlankNode → BlankNode) (t : Triple) : Triple where
  subject :=
    match t.subject with
    | .blank b => .blank (f b)
    | s => s
  predicate := t.predicate
  object :=
    match t.object with
    | .blank b => .blank (f b)
    | o => o

/-- Triples with blank nodes of a supply in place of their own. -/
def relabelled (supply : Nat → BlankNode) (ts : List Triple) : List Triple :=
  let nodes := (ts.flatMap Triple.blankNodes).eraseDups
  ts.map (Triple.mapBlankNodes fun b => supply (nodes.idxOf b))

end SparqlStream
