import SparqlStream.Expression.Basic
import SparqlStream.Rdf.Text

/-!
# Queries

A query as it is evaluated: the groups of its condition, one after another, and what is made of
the bindings that come out of the last group.
-/

namespace SparqlStream

/-- A part of the condition of a query. -/
inductive Group where
  /-- A basic graph pattern. -/
  | pattern (patterns : List TriplePattern)
  /-- Some groups one after another. -/
  | sequence (children : List Group)
  /-- Some groups one after another, whose patterns keep bindings without a match. -/
  | optional (children : List Group)
  /-- Some groups side by side. -/
  | union (children : List Group)
  /-- The bindings of a group that satisfy a condition. -/
  | filter (condition : Expression) (inner : Group)
  deriving Repr, Inhabited

/-- The columns of a table of solutions.  Without a list, each solution has the columns of its own
binding. -/
inductive Selection where
  | all
  | columns (vs : List Variable)
  deriving DecidableEq, Repr

/-- What is made of the bindings. -/
inductive QueryForm where
  /-- A table with a solution for each binding. -/
  | select (columns : Selection)
  /-- The triples of a template, once for each binding. -/
  | construct (template : List TriplePattern)
  /-- The triples about some targets. -/
  | describe (targets : List IriPattern)
  /-- Whether there is a binding. -/
  | ask
  deriving DecidableEq, Repr

/-- A query. -/
structure Query where
  form : QueryForm
  groups : List Group
  /-- The keys by which bindings are ordered, the most significant one first. -/
  order : List OrderKey
  /-- How many results are dropped. -/
  offset : Nat
  /-- How many results are shown at most. -/
  limit : Option Nat
  distinct : Bool
  deriving Repr

namespace Group

mutual

/-- The triple patterns of a group from left to right. -/
def triplePatterns : Group → List TriplePattern
  | pattern ps => ps
  | sequence children | optional children | union children => allTriplePatterns children
  | filter _ inner => triplePatterns inner

/-- The triple patterns of some groups from left to right. -/
def allTriplePatterns : List Group → List TriplePattern
  | [] => []
  | g :: rest => triplePatterns g ++ allTriplePatterns rest

end

end Group

namespace Query

/-- The variables of a list without repetitions, in the order of their first occurrence. -/
def firstOccurrences (vs : List Variable) : List Variable :=
  vs.foldl (fun seen v => if v ∈ seen then seen else seen ++ [v]) []

/-- The variables that the patterns of a query bind, in the order of their first occurrence. -/
def visibleVariables (q : Query) : List Variable :=
  firstOccurrences ((Group.allTriplePatterns q.groups).flatMap (·.variables))

/-- The beginning of the summary of a query: its form. -/
def formSummary : QueryForm → String
  | .select .all => "SELECT *"
  | .select (.columns vs) => "SELECT" ++ String.join (vs.map fun v => " " ++ v.render)
  | .construct template => "CONSTRUCT (" ++ toString template.length ++ " triples)"
  | .describe targets => "DESCRIBE" ++ String.join (targets.map fun t => " " ++ t.render)
  | .ask => "ASK"

/-- A summary of a query in one line. -/
def render (q : Query) : String :=
  formSummary q.form
    ++ " WHERE (" ++ toString q.groups.length ++ " groups)"
    ++ (if q.distinct then " DISTINCT" else "")
    ++ (if q.order.isEmpty then "" else " ORDER BY (" ++ toString q.order.length ++ " keys)")
    ++ (if q.offset = 0 then "" else " OFFSET " ++ toString q.offset)
    ++ (match q.limit with
        | some n => " LIMIT " ++ toString n
        | none => "")

end Query

end SparqlStream
