import SparqlStream.Rdf.Document
import SparqlStream.Rdf.Graph
import SparqlStream.Results.Basic
import SparqlStream.Results.Sink
import SparqlStream.Results.Table.Basic

/-!
# Writing results

Writes results while they are produced: each result is written before the next one is asked for.
The first error of the results or of the sink ends the writing.

A stream is asked for a limited number of steps; an outcome is missing if the limit is reached.
-/

namespace SparqlStream

/-- Asks a stream again and again and feeds what it shows to a consumer, until the consumer has an
outcome. -/
def Flow.feed {τ α ε γ δ : Type} [Flow τ α ε] (consume : γ → Signal α ε → γ ⊕ δ) :
    (limit : Nat) → γ → τ → Option δ × τ
  | 0, _, s => (none, s)
  | limit + 1, c, s =>
    let (signal, s) := Flow.step s
    match consume c signal with
    | .inl c => feed consume limit c s
    | .inr d => (some d, s)

/-- What comes of reading results to their end. -/
abbrev Outcome (α : Type) := Except ResultsError α

/-- Goes on with a consumer, or fails. -/
def proceed {α γ : Type} : Outcome γ → γ ⊕ Outcome α
  | .ok c => .inl c
  | .error e => .inr (.error e)

namespace TableFormat

/-- A table that is being written: the sink, and whether no row has been written. -/
abbrev Progress := Sink × Bool

/-- Writes what a stream of rows shows. -/
def consume {α : Type} (f : TableFormat) (columns : List Variable) (solution : α → Solution)
    (p : Progress) : Signal α ResultsError → Progress ⊕ Outcome String
  | .item a => proceed ((p.1.put (f.row columns p.2 (solution a))).map (·, false))
  | .fail e => .inr (.error e)
  | .finish => .inr ((p.1.put f.closing).map Sink.text)
  | .pending | .again => .inl p

/-- Writes a table. -/
def writeTable {τ α : Type} [Flow τ α ResultsError] (f : TableFormat) (columns : List Variable)
    (solution : α → Solution) (sink : Sink) (limit : Nat) (rows : τ) :
    Option (Outcome String) × τ :=
  match sink.put (f.opening columns) with
  | .ok sink => Flow.feed (f.consume columns solution) limit (sink, true) rows
  | .error e => (some (.error e), rows)

end TableFormat

/-- A triple as a solution. -/
def Triple.toSolution (t : Triple) : Solution :=
  ⟨[(⟨"subject"⟩, some t.subject.toTerm), (⟨"predicate"⟩, some (.iri t.predicate)),
    (⟨"object"⟩, some t.object)]⟩

/-- The columns of a table of triples. -/
def Triple.columns : List Variable := [⟨"subject"⟩, ⟨"predicate"⟩, ⟨"object"⟩]

namespace Results

variable {σ τ β : Type} [Flow σ Solution ResultsError] [Flow τ Triple ResultsError]
  [Flow β Bool ResultsError]

/-- Takes the first boolean. -/
def firstBoolean (_ : Unit) : Signal Bool ResultsError → Unit ⊕ Outcome Bool
  | .item b => .inr (.ok b)
  | .fail e => .inr (.error e)
  | .finish => .inr (.error .noBoolean)
  | .pending | .again => .inl ()

/-- The boolean of results that are a boolean. -/
def value (limit : Nat) (rows : β) : Option (Outcome Bool) × β :=
  Flow.feed firstBoolean limit () rows

/-- Writes results as a table or as a boolean. -/
def write (f : TableFormat) (room : Option Nat) (limit : Nat) :
    Results σ τ β → Option (Outcome String) × Results σ τ β
  | solutions columns rows =>
    let (text, rows) := f.writeTable columns id (.ofRoom room) limit rows
    (text, solutions columns rows)
  | triples rows =>
    let (text, rows) := f.writeTable Triple.columns Triple.toSolution (.ofRoom room) limit rows
    (text, triples rows)
  | boolean rows =>
    let (answer, rows) := value limit rows
    let text (b : Bool) : Outcome String := ((Sink.ofRoom room).put (f.boolean b)).map Sink.text
    (answer.map (·.bind text), boolean rows)

/-- A graph that is being written: the sink and the triples so far, the last one first. -/
abbrev GraphProgress := Sink × List Triple

/-- Writes what a stream of triples shows. -/
def consumeTriple (f : GraphFormat) (p : GraphProgress) :
    Signal Triple ResultsError → GraphProgress ⊕ Outcome String
  | .item t =>
    if f.reserves t.predicate then .inr (.error (.reservedPredicate p.1.text))
    else proceed ((p.1.put (f.triple p.2 t)).map (·, t :: p.2))
  | .fail e => .inr (.error e)
  | .finish => .inr ((p.1.put (f.closing p.2)).map Sink.text)
  | .pending | .again => .inl p

/-- Writes results as a graph. -/
def writeGraph (f : GraphFormat) (room : Option Nat) (limit : Nat) :
    Results σ τ β → Option (Outcome String) × Results σ τ β
  | triples rows =>
    let (text, rows) := Flow.feed (consumeTriple f) limit (Sink.ofRoom room, []) rows
    (text, triples rows)
  | r => (some (.error .notAGraph), r)

/-- Collects what a stream of triples shows. -/
def collectTriple (g : Graph) : Signal Triple ResultsError → Graph ⊕ Outcome Graph
  | .item t => .inl (g.insert t)
  | .fail e => .inr (.error e)
  | .finish => .inr (.ok g)
  | .pending | .again => .inl g

/-- The graph of results that are triples. -/
def collect (limit : Nat) (rows : τ) : Option (Outcome Graph) × τ :=
  Flow.feed collectTriple limit Graph.empty rows

end Results

end SparqlStream
