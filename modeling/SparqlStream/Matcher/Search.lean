import SparqlStream.Binding
import SparqlStream.Rdf.Graph
import SparqlStream.Stream.Signal

/-!
# Pattern search in a graph

Extends each binding of a stream with the matches of a basic graph pattern.  The search goes
depth first: a frame holds the triples that are left to try for one pattern, and asking the search
tries one triple.  Matches are shown as soon as they are found, and the next binding is taken only
after all matches of the last one have been shown.

Blank nodes of the pattern are matched like variables whose names begin with `__blank_`; these
variables are removed from the matches.  An optional search shows a binding without a match as it
is.
-/

namespace SparqlStream

/-! ## Patterns as a search sees them -/

/-- A position of a pattern: a term, or a variable to be bound. -/
inductive Slot where
  | constant (t : Term)
  | var (v : Variable)
  deriving DecidableEq, Repr

namespace Slot

/-- The variable under which a blank node of a pattern is matched. -/
def blankVariable (b : BlankNode) : Variable := ⟨"__blank_" ++ b.label⟩

/-- A subject or object position. -/
def ofTermPattern : TermPattern → Slot
  | .iri i => constant (.iri i)
  | .literal l => constant (.literal l)
  | .blank b => var (blankVariable b)
  | .var v => var v

/-- A predicate position. -/
def ofIriPattern : IriPattern → Slot
  | .iri i => constant (.iri i)
  | .var v => var v

/-- The term to which a binding restricts a position. -/
def value? (s : Slot) (b : Binding) : Option Term :=
  match s with
  | constant t => some t
  | var v => b.get? v

/-- The binding with which a position matches a term. -/
def matchTerm (s : Slot) (b : Binding) (t : Term) : Option Binding :=
  match s with
  | constant c => if c = t then some b else none
  | var v => (b.extend v t).toOption

end Slot

/-- A triple pattern whose blank nodes are variables. -/
structure SlotPattern where
  subject : Slot
  predicate : Slot
  object : Slot
  deriving DecidableEq, Repr

namespace SlotPattern

def ofPattern (p : TriplePattern) : SlotPattern :=
  ⟨.ofTermPattern p.subject, .ofIriPattern p.predicate, .ofTermPattern p.object⟩

/-- The triples that can match, looked up by the first position that a binding restricts. -/
def candidates (p : SlotPattern) (index : TripleIndex) (b : Binding) : List Triple :=
  match p.subject.value? b, p.predicate.value? b, p.object.value? b with
  | some s, _, _ => s.toSubject?.elim [] index.withSubject
  | none, some p, _ => p.toIri?.elim [] index.withPredicate
  | none, none, some o => index.withObject o
  | none, none, none => index.all

/-- The binding with which a pattern matches a triple. -/
def matchTriple (p : SlotPattern) (b : Binding) (t : Triple) : Option Binding := do
  let b ← p.subject.matchTerm b t.subject.toTerm
  let b ← p.predicate.matchTerm b (.iri t.predicate)
  p.object.matchTerm b t.object

end SlotPattern

/-- The variables that stand for the blank nodes of a pattern. -/
def TriplePattern.hiddenVariables (p : TriplePattern) : List Variable :=
  let hidden : TermPattern → List Variable
    | .blank b => [Slot.blankVariable b]
    | _ => []
  hidden p.subject ++ hidden p.object

/-! ## The search -/

/-- A binding that matches the patterns before `pattern`, and the triples that are left to try for
that pattern. -/
structure Frame where
  binding : Binding
  pattern : SlotPattern
  candidates : List Triple
  later : List SlotPattern

/-- A search for the matches of some patterns.  The frame that is tried next comes first.  An
optional search keeps a binding as long as it has no match. -/
structure Search where
  index : TripleIndex
  patterns : List SlotPattern
  hidden : List Variable
  optional : Bool
  frames : List Frame
  unmatched : Option Binding

namespace Search

variable {ε : Type}

/-- A search that has not taken any binding. -/
def start (index : TripleIndex) (patterns : List TriplePattern) (optional : Bool) : Search where
  index := index
  patterns := patterns.map .ofPattern
  hidden := patterns.flatMap (·.hiddenVariables)
  optional := optional
  frames := []
  unmatched := none

/-- A match without the variables that stand for blank nodes. -/
def visible (s : Search) (b : Binding) : Binding := b.restrict (· ∉ s.hidden)

/-- The search with a frame for the first of some patterns. -/
def enter (s : Search) (b : Binding) (pattern : SlotPattern) (later : List SlotPattern) : Search :=
  { s with frames := ⟨b, pattern, pattern.candidates s.index b, later⟩ :: s.frames }

/-- Takes a binding.  A search for no pattern shows it at once. -/
def begin (s : Search) (b : Binding) : Reaction Search Binding ε :=
  match s.patterns with
  | [] => .keep s (.item b)
  | p :: later =>
    let s := { s with unmatched := if s.optional then some b else none }
    .keep (s.enter b p later) .again

/-- Tries one triple. -/
def advance (s : Search) (f : Frame) (below : List Frame) : Reaction Search Binding ε :=
  match f.candidates with
  | [] => .keep { s with frames := below } .again
  | t :: left =>
    let s := { s with frames := { f with candidates := left } :: below }
    match f.pattern.matchTriple f.binding t, f.later with
    | none, _ => .keep s .again
    | some b, [] => .keep { s with unmatched := none } (.item (s.visible b))
    | some b, p :: later => .keep (s.enter b p later) .again

/-- What a search does without taking a binding. -/
def idle (s : Search) : Option (Reaction Search Binding ε) :=
  match s.frames, s.unmatched with
  | f :: below, _ => some (s.advance f below)
  | [], some b => some (.keep { s with unmatched := none } (.item b))
  | [], none => none

/-- How a search reacts to its input. -/
def react (s : Search) : Signal Binding ε → Reaction Search Binding ε
  | .item b => s.begin b
  | .fail e => .close s (.fail e)
  | .finish => .close s .finish
  | .pending => .keep s .pending
  | .again => .keep s .again

instance : Operator Search Binding Binding ε where
  idle s _ := s.idle
  react := react

end Search

end SparqlStream
