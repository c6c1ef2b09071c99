import SparqlStream.Binding
import SparqlStream.Rdf.Fresh
import SparqlStream.Rdf.Skolem
import SparqlStream.Stream.Signal

/-!
# Triples from templates

Makes triples of bindings.  The triples of the template without variables and blank nodes are
shown once, before any binding is taken.  The others are made for each binding; a triple with an
unbound variable, or with a value that cannot stand at its position, is left out.

The blank nodes of the template stand for new blank nodes in each binding.  Where new blank nodes
come from is left to a supply, of which each number is used once.
-/

namespace SparqlStream

/-- Makes triples of bindings.  `ready` holds the triples that are shown next, and `used` counts
the blank nodes that have been taken from the supply. -/
structure Template where
  patterns : List TriplePattern
  ready : List Triple
  supply : Nat → BlankNode
  used : Nat

namespace Template

variable {ε : Type}

/-- The blank nodes of a pattern. -/
def blankNodes (p : TriplePattern) : List BlankNode :=
  let blank : TermPattern → List BlankNode
    | .blank b => [b]
    | _ => []
  blank p.subject ++ blank p.object

/-- The value of a subject or object position. -/
def value? (b : Binding) (rename : BlankNode → BlankNode) : TermPattern → Option Term
  | .iri i => some (.iri i)
  | .literal l => some (.literal l)
  | .blank n => some (.blank (rename n))
  | .var v => (b.get? v).map Term.deskolemize

/-- The value of a predicate position. -/
def predicate? (b : Binding) : IriPattern → Option Iri
  | .iri i => some i
  | .var v => ((b.get? v).map Term.deskolemize).bind Term.toIri?

/-- The triple that a pattern makes of a binding. -/
def triple? (b : Binding) (rename : BlankNode → BlankNode) (p : TriplePattern) : Option Triple := do
  let s ← (← value? b rename p.subject).toSubject?
  let i ← predicate? b p.predicate
  let o ← value? b rename p.object
  some ⟨s, i, o⟩

/-- A template that has not taken any binding. -/
def start (template : List TriplePattern) (supply : Nat → BlankNode) : Template where
  patterns := template.filter (!·.isGround)
  ready := (template.filter (·.isGround)).filterMap (triple? .empty id)
  supply := supply
  used := 0

/-- The different blank nodes of a template. -/
def nodes (t : Template) : List BlankNode := (t.patterns.flatMap blankNodes).eraseDups

/-- The new blank node that a blank node of the template stands for next. -/
def rename (t : Template) (b : BlankNode) : BlankNode := t.supply (t.used + t.nodes.idxOf b)

/-- Makes the triples of a binding. -/
def instantiate (t : Template) (b : Binding) : Template :=
  { t with
    ready := t.patterns.filterMap (triple? b t.rename)
    used := t.used + t.nodes.length }

/-- How a template reacts to its input. -/
def react (t : Template) : Signal Binding ε → Reaction Template Triple ε
  | .item b => .keep (t.instantiate b) .again
  | .fail e => .close t (.fail e)
  | .finish => .close t .finish
  | .pending => .keep t .pending
  | .again => .keep t .again

instance : Operator Template Binding Triple ε where
  idle t _ :=
    match t.ready with
    | [] => none
    | x :: rest => some (.keep { t with ready := rest } (.item x))
  react := react

end Template

end SparqlStream
