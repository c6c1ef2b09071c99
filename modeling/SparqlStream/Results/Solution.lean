import SparqlStream.Binding
import SparqlStream.Query.Basic
import SparqlStream.Rdf.Skolem
import SparqlStream.Stream.Signal

/-!
# Solutions

A solution is a row of a table: a term or nothing for each of its columns.  Skolem IRIs are turned
back into blank nodes on the way from a binding to a solution.
-/

namespace SparqlStream

/-- A row of a table of results. -/
structure Solution where
  cells : List (Variable × Option Term)
  deriving DecidableEq, Repr, Inhabited

namespace Solution

/-- The cells that hold a term. -/
def bound (s : Solution) : List (Variable × Term) :=
  s.cells.filterMap fun (v, t) => t.map (v, ·)

/-- The text of a cell. -/
def cellKey (cell : Variable × Option Term) : String :=
  cell.1.render ++ "=" ++ (cell.2.elim "UNDEF" Term.render) ++ "\t"

/-- A text by which solutions are told apart. -/
def key (s : Solution) : String := String.join (s.cells.map cellKey)

/-- The solution of a binding with some columns. -/
def ofColumns (columns : List Variable) (b : Binding) : Solution :=
  ⟨columns.map fun v => (v, (b.get? v).map Term.deskolemize)⟩

/-- The solution of a binding with the columns that the binding has. -/
def ofBinding (b : Binding) : Solution :=
  ⟨b.entries.map fun (v, t) => (v, some t.deskolemize)⟩

end Solution

/-- Makes solutions of bindings. -/
structure Projection where
  columns : Selection

namespace Projection

variable {ε : Type}

/-- The solution of a binding. -/
def solution (p : Projection) (b : Binding) : Solution :=
  match p.columns with
  | .all => .ofBinding b
  | .columns vs => .ofColumns vs b

instance : Operator Projection Binding Solution ε where
  idle _ _ := none
  react p signal := .keep p (signal.map p.solution)

end Projection

end SparqlStream
