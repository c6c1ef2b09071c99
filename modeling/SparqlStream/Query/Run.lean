import SparqlStream.Matcher.Search
import SparqlStream.Query.Wiring
import SparqlStream.Results.Answer
import SparqlStream.Results.Basic
import SparqlStream.Results.Template

/-!
# Running queries

A running query is a pipeline of bindings, which begins with a single empty binding, and what the
form of the query makes of them.  Bindings are ordered before they are projected; repetitions are
removed, and results dropped and limited, after that.  A yes-or-no question has neither columns nor
repetitions, so there the bindings themselves are dropped and limited.
-/

namespace SparqlStream

/-! ## Pipelines -/

/-- The matchers that search a graph by its index. -/
def TripleIndex.matchers (index : TripleIndex) : MatcherSupply Search :=
  fun _ call => .start index call.patterns call.optional

/-- A network of stages with one end. -/
structure Pipeline (μ : Type) where
  plant : Plant Binding ResultsError μ
  stage : Stage Binding μ

namespace Pipeline

variable {μ : Type}

/-- Lets go of the end of a pipeline. -/
def release (p : Pipeline μ) : Pipeline μ := { p with plant := p.plant.release p.stage }

/-- Asks a pipeline once. -/
def step [Operator μ Binding Binding ResultsError] (p : Pipeline μ) :
    Signal Binding ResultsError × Pipeline μ :=
  let (signal, stage, plant) := p.plant.step "" p.stage
  (signal, ⟨plant, stage⟩)

instance [Operator μ Binding Binding ResultsError] : Flow (Pipeline μ) Binding ResultsError where
  step := step
  release := release

/-- The pipeline with an operator at its end. -/
def attach (p : Pipeline μ) (op : Op Binding μ) : Pipeline μ :=
  let p' := if op.needsInput then p else p.release
  { p' with stage := .ofOperator op p.stage }

/-- A source that shows a single empty binding. -/
def seed : Source Binding ResultsError := .start [.item .empty] true

/-- A pipeline of some groups behind a source, and what its matchers have been asked for. -/
def behind (source : Source Binding ResultsError) (matchers : MatcherSupply μ) (eval : Evaluator)
    (groups : List Group) : Pipeline μ × List MatcherCall :=
  let (stage, w) := Wiring.empty.addGroups matchers eval false (.source 0) groups
  (⟨⟨[source], w.hubs, w.calls.map fun _ => .start, []⟩, stage⟩, w.calls)

/-- A pipeline of some groups that begins with a single empty binding. -/
def ofGroups (matchers : MatcherSupply μ) (eval : Evaluator) (groups : List Group) :
    Pipeline μ × List MatcherCall :=
  behind seed matchers eval groups

end Pipeline

/-- The order of two bindings by a key. -/
def OrderKey.compare (eval : Evaluator) (key : OrderKey) (a b : Binding) : Ordering :=
  let o := Term.compareKeys (key.expression.keyValue eval a) (key.expression.keyValue eval b)
  if key.descending then o.swap else o

namespace Pipeline

variable {μ : Type}

/-- The pipeline ordered by a key. -/
def orderBy (eval : Evaluator) (window : Window) (p : Pipeline μ) (key : OrderKey) :
    Pipeline μ :=
  p.attach (.sort (.start (key.compare eval) window))

/-- The pipeline ordered by some keys, of which the last one is applied first. -/
def orderByAll (eval : Evaluator) (window : Window) (p : Pipeline μ) (keys : List OrderKey) :
    Pipeline μ :=
  keys.reverse.foldl (orderBy eval window) p

end Pipeline

/-! ## Modifiers of results -/

/-- An operator that may be missing.  Without it everything passes. -/
instance {σ α ε : Type} [Operator σ α α ε] : Operator (Option σ) α α ε where
  idle s hasInput :=
    s.bind fun s => (Operator.idle α s hasInput : Option (Reaction σ α ε)).map (·.map some)
  react s signal :=
    match s with
    | some s => (Operator.react s signal : Reaction σ α ε).map some
    | none => .keep none signal

/-- Results without repetitions, some dropped, and the others limited. -/
abbrev Modified (α τ : Type) := Through (Option Slice) (Through (Option (Distinct α)) τ)

/-- The slice that a query asks for, if any. -/
def Query.slice? (q : Query) : Option Slice :=
  if q.offset = 0 ∧ q.limit = none then none else some ⟨q.offset, q.limit⟩

/-- Results with the modifiers of a query. -/
def Query.modify {α ε τ : Type} [Flow τ α ε] (q : Query) (key : α → String) (rows : τ) :
    Modified α τ :=
  let distinct : Option (Distinct α) := if q.distinct then some (.start key) else none
  let rows : Through (Option (Distinct α)) τ := .start distinct rows true
  .start q.slice? rows (q.slice?.all (·.needsInput))

/-! ## Running -/

/-- How queries are run: the window of each order, the evaluator of conditions and keys, and where
new blank nodes come from. -/
structure RunOptions where
  window : Window
  evaluator : Evaluator
  fresh : Nat → BlankNode

/-- No window, the usual evaluator and the usual supply of blank nodes. -/
def RunOptions.standard : RunOptions := ⟨none, Expression.evaluate, .fresh⟩

/-- The results of a running query. -/
abbrev RunningResults (μ : Type) :=
  Results (Modified Solution (Through Projection (Pipeline μ)))
    (Modified Triple (Through Template (Pipeline μ))) (Through HasItem (Pipeline μ))

/-- The pipeline of a running query. -/
def RunningResults.pipeline {μ : Type} : RunningResults μ → Pipeline μ
  | .solutions _ rows => rows.input.input.input
  | .triples rows => rows.input.input.input
  | .boolean rows => rows.input

namespace Query

variable {μ : Type}

/-- The triples about some targets, with new variables for the predicates and the objects. -/
def descriptionTemplate (targets : List IriPattern) : List TriplePattern :=
  targets.mapIdx fun i target =>
    ⟨target.toTermPattern, .var ⟨"__predicate" ++ toString i⟩, .var ⟨"__object" ++ toString i⟩⟩

/-- The groups of a query.  A description also matches the triples about its targets. -/
def allGroups (q : Query) : List Group :=
  match q.form with
  | .describe targets => q.groups ++ [.pattern (descriptionTemplate targets)]
  | _ => q.groups

/-- The bindings of a query in their order, and what the matchers have been asked for. -/
def bindings (q : Query) (matchers : MatcherSupply μ) (options : RunOptions) :
    Pipeline μ × List MatcherCall :=
  let (p, calls) := Pipeline.ofGroups matchers options.evaluator q.allGroups
  (p.orderByAll options.evaluator options.window q.order, calls)

/-- The results of a query, and what the matchers have been asked for. -/
def run [Operator μ Binding Binding ResultsError] (q : Query) (matchers : MatcherSupply μ)
    (options : RunOptions) : RunningResults μ × List MatcherCall :=
  let (p, calls) := q.bindings matchers options
  let table (columns : List Variable) (s : Selection) : RunningResults μ :=
    .solutions columns (q.modify Solution.key (Through.start (Projection.mk s) p true))
  let graph (template : List TriplePattern) : RunningResults μ :=
    .triples (q.modify Triple.render (Through.start (Template.start template options.fresh) p true))
  let results :=
    match q.form with
    | .select .all => table q.visibleVariables .all
    | .select (.columns vs) => table vs (.columns vs)
    | .construct template => graph template
    | .describe targets => graph (descriptionTemplate targets)
    | .ask =>
      let p := q.slice?.elim p fun s => p.attach (.slice s)
      .boolean (Through.start HasItem.mk p true)
  (results, calls)

end Query

end SparqlStream
