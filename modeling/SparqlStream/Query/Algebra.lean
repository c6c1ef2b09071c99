import SparqlStream.Expression.Basic
import SparqlStream.Rdf.Term

/-!
# The algebra of graph patterns

What the text of a query means before it is known whether it can be evaluated.  The solution
modifiers are patterns around the pattern that they modify.

Parts that no answer depends on are left out: the rows of inline data, what the aggregates of a
grouping compute, and whether a service may fail silently.
-/

namespace SparqlStream

/-- A path between two nodes of a graph. -/
inductive PropertyPath where
  | iri (node : Iri)
  | inverse (path : PropertyPath)
  | sequence (first second : PropertyPath)
  | alternative (first second : PropertyPath)
  | zeroOrMore (path : PropertyPath)
  | oneOrMore (path : PropertyPath)
  | zeroOrOne (path : PropertyPath)
  | noneOf (nodes : List Iri)
  deriving DecidableEq, Repr, Inhabited

/-- A graph pattern. -/
inductive GraphPattern where
  | bgp (patterns : List TriplePattern)
  | path (subject : TermPattern) (path : PropertyPath) (object : TermPattern)
  | join (left right : GraphPattern)
  | leftJoin (left right : GraphPattern) (condition : Option Expression)
  | filter (condition : Expression) (inner : GraphPattern)
  | union (left right : GraphPattern)
  | graph (name : IriPattern) (inner : GraphPattern)
  | extend (inner : GraphPattern) (var : Variable) (value : Expression)
  | minus (left right : GraphPattern)
  | values (vars : List Variable)
  | service (name : IriPattern) (inner : GraphPattern)
  /-- The solutions with the same values of some variables together, and a variable for each
  aggregate. -/
  | group (inner : GraphPattern) (vars aggregates : List Variable)
  | orderBy (inner : GraphPattern) (keys : List OrderKey)
  | project (inner : GraphPattern) (vars : List Variable)
  | distinct (inner : GraphPattern)
  | reduced (inner : GraphPattern)
  | slice (inner : GraphPattern) (start : Nat) (length : Option Nat)
  deriving Repr, Inhabited

/-- The variables that the solutions of a pattern can bind. -/
def GraphPattern.inScope : GraphPattern → List Variable
  | bgp patterns => patterns.flatMap (·.variables)
  | path s _ o => s.var?.toList ++ o.var?.toList
  | join l r | leftJoin l r _ | union l r => l.inScope ++ r.inScope
  | graph name inner => name.var?.toList ++ inner.inScope
  | extend inner v _ => v :: inner.inScope
  | minus l _ => l.inScope
  | group _ vars aggregates => vars ++ aggregates
  | values vars | project _ vars => vars
  | service _ inner | filter _ inner | orderBy inner _ | distinct inner | reduced inner
  | slice inner _ _ => inner.inScope

/-- The form of a query with its own data. -/
inductive AlgebraForm where
  | select
  | construct (template : List TriplePattern)
  | describe
  | ask
  deriving DecidableEq, Repr

/-- A query as a pattern. -/
structure AlgebraQuery where
  form : AlgebraForm
  pattern : GraphPattern
  /-- Whether the query names the graphs that it is about. -/
  namesDataset : Bool
  deriving Repr

end SparqlStream
