import SparqlStream.Results.Error
import SparqlStream.Results.Solution

/-!
# Results

The results of a query are a stream of solutions, of triples, or of a single boolean.  Where they
come from is open: from a query that is running, or from lists.
-/

namespace SparqlStream

/-- Results: solutions with their columns, triples, or a boolean. -/
inductive Results (σ τ β : Type) where
  | solutions (columns : List Variable) (rows : σ)
  | triples (rows : τ)
  | boolean (rows : β)

/-- What results show. -/
inductive ResultItem where
  | solution (s : Solution)
  | triple (t : Triple)
  | boolean (b : Bool)
  deriving DecidableEq, Repr

namespace Results

variable {σ τ β : Type} [Flow σ Solution ResultsError] [Flow τ Triple ResultsError]
  [Flow β Bool ResultsError]

/-- Asks for a result once. -/
def step : Results σ τ β → Signal ResultItem ResultsError × Results σ τ β
  | solutions columns rows =>
    let (signal, rows) := Flow.step rows
    (signal.map .solution, solutions columns rows)
  | triples rows =>
    let (signal, rows) := Flow.step rows
    (signal.map .triple, triples rows)
  | boolean rows =>
    let (signal, rows) := Flow.step rows
    (signal.map .boolean, boolean rows)

/-- Lets go of results. -/
def release : Results σ τ β → Results σ τ β
  | solutions columns rows => solutions columns (Flow.release rows)
  | triples rows => triples (Flow.release rows)
  | boolean rows => boolean (Flow.release rows)

instance : Flow (Results σ τ β) ResultItem ResultsError where
  step := step
  release := release

end Results

/-- Results from lists. -/
abbrev ListedResults :=
  Results (Prepared Solution ResultsError) (Prepared Triple ResultsError)
    (Prepared Bool ResultsError)

/-- How many results and errors are left. -/
def ListedResults.remaining : ListedResults → Nat
  | .solutions _ rows => rows.cells.length
  | .triples rows => rows.cells.length
  | .boolean rows => rows.cells.length

end SparqlStream
