/-!
# Why a query cannot be run

The causes for which a query is rejected before anything is evaluated.
-/

namespace SparqlStream

/-- A part of the query language that is not evaluated. -/
inductive UnsupportedFeature where
  | dataset
  | propertyPath
  | graph
  | bind
  | minus
  | values
  | aggregate
  | service
  | subquery
  deriving DecidableEq, Repr

namespace UnsupportedFeature

/-- The name of a part of the language that is a pattern. -/
def patternMessage (name : String) : String := name ++ " cannot be evaluated by the client"

/-- The wording for a part of the language. -/
def message : UnsupportedFeature → String
  | dataset => "FROM clauses are not supported"
  | propertyPath => patternMessage "Property paths"
  | graph => patternMessage "GRAPH"
  | bind => patternMessage "BIND"
  | minus => patternMessage "MINUS"
  | values => patternMessage "VALUES"
  | aggregate => patternMessage "Aggregates"
  | service => patternMessage "SERVICE"
  | subquery => patternMessage "Sub-queries"

end UnsupportedFeature

/-- Why a query is rejected. -/
inductive QueryError where
  /-- The text is no query. -/
  | invalidQuery
  /-- A prefix that is declared from outside is no IRI. -/
  | invalidIri
  | unsupported (feature : UnsupportedFeature)
  deriving DecidableEq, Repr

namespace QueryError

/-- The wording of an error. -/
def message : QueryError → String
  | invalidQuery => "Syntax error in query"
  | invalidIri => "Invalid IRI in the query options"
  | unsupported f => "The query is not yet supported: " ++ f.message

end QueryError

end SparqlStream
