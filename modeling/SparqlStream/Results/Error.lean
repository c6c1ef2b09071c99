import SparqlStream.Stream.Signal

/-!
# Why results fail

The causes for which a stream of results fails or cannot be written.
-/

namespace SparqlStream

/-- Why a stream of results fails or cannot be written. -/
inductive ResultsError where
  /-- The source of the bindings has failed. -/
  | source (message : String)
  /-- A solution of a results document cannot be read. -/
  | unreadable
  /-- Something has happened that cannot happen. -/
  | internal (cause : String)
  /-- The results are not triples. -/
  | notAGraph
  /-- The text has no room left. -/
  | writerFull
  /-- The format of the graph keeps a predicate for itself.  The text is what has been written. -/
  | reservedPredicate (written : String)
  deriving DecidableEq, Repr

namespace ResultsError

/-- The wording of an error. -/
def message : ResultsError → String
  | source m => m
  | unreadable => "The results cannot be read"
  | internal cause =>
    "An internal error that likely indicates towards a bug in the LDF client: " ++ cause
  | notAGraph => "The query results are not a RDF graph"
  | writerFull => "writer is full"
  | reservedPredicate _ => "RDF/XML reserved syntax term is not allowed as a predicate"

/-- What has been written in spite of an error. -/
def written : ResultsError → String
  | reservedPredicate text => text
  | _ => ""

/-- A stream of booleans has ended without one. -/
def noBoolean : ResultsError := .internal "The boolean result stream ended without a value"

end ResultsError

end SparqlStream
