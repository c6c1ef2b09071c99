import SparqlStream.Results.Solution

/-!
# Syntaxes of tables

How a table of solutions is written: an opening that names the columns, a text for each solution,
and a closing.  A single boolean has a text of its own.
-/

namespace SparqlStream

/-- How tables and booleans are written. -/
structure TableFormat where
  opening : List Variable → String
  /-- The text of a solution, which may depend on whether another one precedes it. -/
  row : (columns : List Variable) → (isFirst : Bool) → Solution → String
  closing : String
  boolean : Bool → String

namespace Solution

/-- The term in a column.  If a solution has several terms for it the last one counts. -/
def column? (s : Solution) (v : Variable) : Option Term :=
  s.bound.reverse.lookup v

/-- The terms of a solution in the order of some columns.  Of columns with the same name only the
first one is filled. -/
def inColumns (s : Solution) (columns : List Variable) : List (Option Term) :=
  columns.mapIdx fun i v => if columns.idxOf v = i then s.column? v else none

end Solution

/-- The text of a boolean. -/
def boolText (b : Bool) : String := if b then "true" else "false"

end SparqlStream
