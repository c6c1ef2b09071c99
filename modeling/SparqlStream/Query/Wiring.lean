import SparqlStream.Binding
import SparqlStream.Expression.Evaluate
import SparqlStream.Query.Basic
import SparqlStream.Stream.Stage

/-!
# From groups to stages

Lays out the groups of a query as a network of stages.  A pattern becomes a matcher, a sequence a
chain, a union a hub with a branch for each alternative, and a condition a filter.

Only patterns care whether they are optional: an optional group makes the patterns among its
children optional, a sequence and a union make them mandatory, and a filter leaves them as they
are.  Matchers are numbered from left to right.
-/

namespace SparqlStream

/-- What a matcher is asked for. -/
structure MatcherCall where
  patterns : List TriplePattern
  optional : Bool
  deriving DecidableEq, Repr

/-- Where matchers come from: the matcher for a number and what it is asked for. -/
abbrev MatcherSupply (μ : Type) := Nat → MatcherCall → μ

/-- What has been laid out besides the stage at hand: the hubs, and what the matchers have been
asked for. -/
structure Wiring (μ : Type) where
  hubs : List (Hub Binding (Stage Binding μ))
  calls : List MatcherCall

/-- Whether a binding satisfies a condition.  A condition without a value is not satisfied. -/
def Expression.holds (eval : Evaluator) (e : Expression) (b : Binding) : Bool :=
  match eval e b with
  | .ok t => t.isTruthy
  | .error _ => false

namespace Wiring

variable {μ : Type}

/-- Nothing has been laid out. -/
def empty : Wiring μ := ⟨[], []⟩

/-- Lays out a matcher. -/
def addMatcher (matchers : MatcherSupply μ) (call : MatcherCall) (input : Stage Binding μ)
    (w : Wiring μ) : Stage Binding μ × Wiring μ :=
  let number := w.calls.length
  (.operator (.matcher number (matchers number call)) input, { w with calls := w.calls ++ [call] })

mutual

/-- Lays out a group behind a stage. -/
def addGroup (matchers : MatcherSupply μ) (eval : Evaluator) (optional : Bool)
    (input : Stage Binding μ) (w : Wiring μ) : Group → Stage Binding μ × Wiring μ
  | .pattern patterns => addMatcher matchers ⟨patterns, optional⟩ input w
  | .sequence children => addGroups matchers eval false input w children
  | .optional children => addGroups matchers eval true input w children
  | .union [] => (input, w)
  | .union (first :: rest) =>
    let hub := w.hubs.length
    let w := { w with hubs := w.hubs ++ [.start input (rest.length + 1)] }
    let (stage, w) := addGroup matchers eval false (.branch hub 0) w first
    let (stages, w) := addBranches matchers eval hub 1 w rest
    (.union (stage :: stages) .start, w)
  | .filter condition inner =>
    let (stage, w) := addGroup matchers eval optional input w inner
    (.operator (.filter ⟨condition.holds eval⟩) stage, w)

/-- Lays out some groups one after another. -/
def addGroups (matchers : MatcherSupply μ) (eval : Evaluator) (optional : Bool)
    (input : Stage Binding μ) (w : Wiring μ) : List Group → Stage Binding μ × Wiring μ
  | [] => (input, w)
  | g :: rest =>
    let (stage, w) := addGroup matchers eval optional input w g
    addGroups matchers eval optional stage w rest

/-- Lays out some groups behind the branches of a hub. -/
def addBranches (matchers : MatcherSupply μ) (eval : Evaluator) (hub slot : Nat) (w : Wiring μ) :
    List Group → List (Stage Binding μ) × Wiring μ
  | [] => ([], w)
  | g :: rest =>
    let (stage, w) := addGroup matchers eval false (.branch hub slot) w g
    let (stages, w) := addBranches matchers eval hub (slot + 1) w rest
    (stage :: stages, w)

end

end Wiring

end SparqlStream
