import SparqlStream.Rdf.Shorthand

/-!
# Graphs as documents

How triples are written one after another.  A line format writes each triple in full.  A grouped
format leaves out the subject, and the subject and the predicate, where they are those of the
triple before, and writes some literals and one predicate in short.
-/

namespace SparqlStream

/-- How triples are written.  The text of a triple may depend on the triples before it, of which
the last one comes first.  A format may keep some predicates for itself. -/
structure GraphFormat where
  reserves : Iri → Bool := fun _ => false
  triple : (before : List Triple) → Triple → String
  /-- What follows the triples. -/
  closing : (before : List Triple) → String

namespace GraphFormat

/-- Each triple on a line of its own. -/
def lines : GraphFormat where
  triple _ t := t.render ++ " .\n"
  closing _ := ""

/-- A predicate in short. -/
def shortPredicate (p : Iri) : String := if p = Rdf.type then "a" else p.render

/-- An object in short. -/
def shortObject : Term → String
  | .literal l => if l.isShort then l.value else l.render
  | t => t.render

/-- Triples with the same subject, and with the same subject and predicate, together. -/
def grouped : GraphFormat where
  triple before t :=
    let full :=
      t.subject.render ++ " " ++ shortPredicate t.predicate ++ " " ++ shortObject t.object
    match before with
    | [] => full
    | b :: _ =>
      if b.subject = t.subject then
        if b.predicate = t.predicate then " , " ++ shortObject t.object
        else " ;\n\t" ++ shortPredicate t.predicate ++ " " ++ shortObject t.object
      else " .\n" ++ full
  closing before := if before.isEmpty then "" else " .\n"

end GraphFormat

end SparqlStream
