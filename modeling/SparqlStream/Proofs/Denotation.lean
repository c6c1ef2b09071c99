import Mathlib.Tactic
import SparqlStream.Query.Wiring
import SparqlStream.Rdf.Graph

/-!
# What groups mean

The meaning of a group, without streams and without a search.  A basic graph pattern is answered
by trying all assignments of terms of the graph to what it leaves open, and keeping those that
satisfy every triple pattern.  The other groups combine the solutions of their parts.

Solutions are listed, but nothing says in which order a pipeline shows them: it is compared with
the lists here up to a permutation.
-/

namespace SparqlStream

/-! ## Unknowns -/

/-- What a pattern leaves open: a variable or a blank node. -/
inductive Unknown where
  | var (v : Variable)
  | blank (b : BlankNode)
  deriving DecidableEq, Repr

namespace Unknown

/-- The variable that an unknown is. -/
def var? : Unknown → Option Variable
  | var v => some v
  | blank _ => none

/-- Whether a binding leaves an unknown open.  It says nothing about blank nodes. -/
def isOpen (b : Binding) : Unknown → Bool
  | var v => !b.contains v
  | blank _ => true

end Unknown

/-- The unknown at a subject or object position. -/
def TermPattern.unknown? : TermPattern → Option Unknown
  | var v => some (.var v)
  | blank b => some (.blank b)
  | _ => none

/-- The unknown at a predicate position. -/
def IriPattern.unknown? : IriPattern → Option Unknown
  | var v => some (.var v)
  | iri _ => none

/-- The unknowns of a pattern from subject to object, repetitions included. -/
def TriplePattern.unknowns (p : TriplePattern) : List Unknown :=
  p.subject.unknown?.toList ++ p.predicate.unknown?.toList ++ p.object.unknown?.toList

/-- The unknowns of some patterns that a binding leaves open, in the order in which they first
occur. -/
def openUnknowns (ps : List TriplePattern) (b : Binding) : List Unknown :=
  ((ps.flatMap (·.unknowns)).filter (·.isOpen b)).eraseDups

/-! ## Assignments -/

/-- Terms for some unknowns. -/
abbrev Assignment := List (Unknown × Term)

/-- All ways to assign some terms to some unknowns. -/
def assignments (ts : List Term) : List Unknown → List Assignment
  | [] => [[]]
  | u :: rest => ts.flatMap fun t => (assignments ts rest).map ((u, t) :: ·)

namespace Binding

/-- What a binding and an assignment say about an unknown. -/
def valuation (b : Binding) (a : Assignment) : Unknown → Option Term
  | .var v => (b.get? v).or (a.lookup (.var v))
  | .blank n => a.lookup (.blank n)

/-- A binding with the variables of an assignment.  Blank nodes are left out. -/
def extendBy (b : Binding) (a : Assignment) : Binding :=
  ⟨b.entries ++ a.filterMap fun e => e.1.var?.map (·, e.2)⟩

end Binding

/-! ## Basic graph patterns -/

/-- The term at a subject or object position. -/
def TermPattern.value? (σ : Unknown → Option Term) : TermPattern → Option Term
  | iri i => some (.iri i)
  | literal l => some (.literal l)
  | blank b => σ (.blank b)
  | var v => σ (.var v)

/-- The term at a predicate position. -/
def IriPattern.value? (σ : Unknown → Option Term) : IriPattern → Option Term
  | iri i => some (.iri i)
  | var v => σ (.var v)

/-- Whether a pattern becomes a certain triple. -/
def TriplePattern.becomes (p : TriplePattern) (σ : Unknown → Option Term) (t : Triple) : Bool :=
  p.subject.value? σ = some t.subject.toTerm ∧ p.predicate.value? σ = some (.iri t.predicate) ∧
    p.object.value? σ = some t.object

namespace Graph

/-- The terms of a graph. -/
def terms (g : Graph) : List Term :=
  (g.triples.flatMap fun t => [t.subject.toTerm, .iri t.predicate, t.object]).dedup

/-- The assignments to what a binding leaves open with which some patterns become triples of the
graph. -/
def satisfying (g : Graph) (ps : List TriplePattern) (b : Binding) : List Assignment :=
  (assignments g.terms (openUnknowns ps b)).filter fun a =>
    ps.all fun p => g.triples.any (p.becomes (b.valuation a))

/-- The extensions of a binding that match every one of some patterns, one for each assignment of
what they leave open. -/
def extensions (g : Graph) (ps : List TriplePattern) (b : Binding) : List Binding :=
  (g.satisfying ps b).map b.extendBy

@[simp] lemma extensions_nil (g : Graph) (b : Binding) : g.extensions [] b = [b] := by
  simp [extensions, satisfying, openUnknowns, assignments, Binding.extendBy]

/-- The solutions of a basic graph pattern.  An optional one keeps a binding without a match. -/
def solutions (g : Graph) (ps : List TriplePattern) (optional : Bool) (b : Binding) :
    List Binding :=
  let found := g.extensions ps b
  if optional && found.isEmpty then [b] else found

/-- Two people who know somebody, of whom one has an age. -/
def sample : Graph :=
  .ofList [⟨.iri ⟨"a"⟩, ⟨"knows"⟩, .iri ⟨"b"⟩⟩, ⟨.iri ⟨"b"⟩, ⟨"knows"⟩, .iri ⟨"c"⟩⟩,
    ⟨.iri ⟨"a"⟩, ⟨"age"⟩, .literal (.simple "7")⟩]

end Graph

/-! ## Groups -/

namespace Group

mutual

/-- What a group makes of a binding.  Only basic graph patterns care whether they are optional. -/
def solutions (g : Graph) (eval : Evaluator) (optional : Bool) (b : Binding) :
    Group → List Binding
  | pattern ps => g.solutions ps optional b
  | sequence children => solutionsInTurn g eval false b children
  | .optional children => solutionsInTurn g eval true b children
  | union [] => [b]
  | union (first :: rest) => solutions g eval false b first ++ solutionsAside g eval b rest
  | filter condition inner => (solutions g eval optional b inner).filter (condition.holds eval)

/-- What some groups make of a binding, one after another. -/
def solutionsInTurn (g : Graph) (eval : Evaluator) (optional : Bool) (b : Binding) :
    List Group → List Binding
  | [] => [b]
  | first :: rest =>
    (solutions g eval optional b first).flatMap fun b => solutionsInTurn g eval optional b rest

/-- What some groups make of the same binding, side by side. -/
def solutionsAside (g : Graph) (eval : Evaluator) (b : Binding) : List Group → List Binding
  | [] => []
  | first :: rest => solutions g eval false b first ++ solutionsAside g eval b rest

end

end Group

/-! ## Reserved names -/

/-- Whether the name of a variable is reserved for the blank nodes of patterns. -/
def Variable.isReserved (v : Variable) : Bool := "__blank_".toList.isPrefixOf v.name.toList

namespace Binding

/-- A binding of variables whose names are not reserved. -/
def IsPlain (b : Binding) : Prop := ∀ v ∈ b.domain, v.isReserved = false

instance (b : Binding) : Decidable b.IsPlain := inferInstanceAs (Decidable (∀ _ ∈ _, _))

end Binding

/-- Patterns with variables whose names are not reserved. -/
def PlainPatterns (ps : List TriplePattern) : Prop :=
  ∀ v ∈ ps.flatMap (·.variables), v.isReserved = false

instance (ps : List TriplePattern) : Decidable (PlainPatterns ps) :=
  inferInstanceAs (Decidable (∀ _ ∈ _, _))

lemma PlainPatterns.append {ps qs : List TriplePattern} (hps : PlainPatterns ps)
    (hqs : PlainPatterns qs) : PlainPatterns (ps ++ qs) := by
  intro v hv
  rw [List.flatMap_append, List.mem_append] at hv
  exact hv.elim (hps v) (hqs v)

lemma PlainPatterns.left {ps qs : List TriplePattern} (h : PlainPatterns (ps ++ qs)) :
    PlainPatterns ps := fun v hv => h v (by
  rw [List.flatMap_append]
  exact List.mem_append_left _ hv)

lemma PlainPatterns.right {ps qs : List TriplePattern} (h : PlainPatterns (ps ++ qs)) :
    PlainPatterns qs := fun v hv => h v (by
  rw [List.flatMap_append]
  exact List.mem_append_right _ hv)

end SparqlStream
