import SparqlStream.Rdf.Skolem

/-!
# Graphs

A graph is a list of triples without repetitions.  Its order carries no meaning: whoever reads a
graph asks an index, and `TripleIndex.Lists` says which answers of an index are right, up to their
order.
-/

namespace SparqlStream

/-- A finite set of triples, listed in some order. -/
structure Graph where
  triples : List Triple
  nodup : triples.Nodup

namespace Graph

/-- The graph without triples. -/
def empty : Graph := ⟨[], List.nodup_nil⟩

/-- The graph with one more triple. -/
def insert (g : Graph) (t : Triple) : Graph :=
  if h : t ∈ g.triples then g else ⟨t :: g.triples, List.nodup_cons.2 ⟨h, g.nodup⟩⟩

/-- The graph of the triples of a list. -/
def ofList (ts : List Triple) : Graph := ts.foldr (fun t g => g.insert t) empty

/-- The number of triples. -/
def size (g : Graph) : Nat := g.triples.length

/-- Whether there are no triples. -/
def isEmpty (g : Graph) : Bool := g.triples.isEmpty

theorem mem_insert {g : Graph} {t u : Triple} :
    u ∈ (g.insert t).triples ↔ u = t ∨ u ∈ g.triples := by
  unfold insert
  split
  · exact ⟨Or.inr, fun h => h.elim (fun e => e ▸ ‹_›) id⟩
  · exact List.mem_cons

theorem mem_ofList {ts : List Triple} {u : Triple} : u ∈ (ofList ts).triples ↔ u ∈ ts := by
  induction ts with
  | nil => exact Iff.rfl
  | cons t ts ih => exact mem_insert.trans (by rw [List.mem_cons]; exact or_congr_right ih)

/-- The graph with Skolem IRIs below a base in place of its blank nodes. -/
def skolemize (g : Graph) (base : String) : Graph :=
  ofList (g.triples.map fun t => ⟨t.subject.skolemize base, t.predicate, t.object.skolemize base⟩)

end Graph

/-! ## Indexes -/

/-- Four ways to list triples: all of them, and those with a given term at one position. -/
structure TripleIndex where
  all : List Triple
  withSubject : Subject → List Triple
  withPredicate : Iri → List Triple
  withObject : Term → List Triple

/-- An index lists the triples of a graph: each answer holds the right triples, in any order. -/
structure TripleIndex.Lists (index : TripleIndex) (g : Graph) : Prop where
  all : index.all.Perm g.triples
  withSubject : ∀ s, (index.withSubject s).Perm (g.triples.filter (·.subject = s))
  withPredicate : ∀ p, (index.withPredicate p).Perm (g.triples.filter (·.predicate = p))
  withObject : ∀ o, (index.withObject o).Perm (g.triples.filter (·.object = o))

/-- The index that lists the triples of a graph in the order in which the graph lists them. -/
def Graph.index (g : Graph) : TripleIndex where
  all := g.triples
  withSubject s := g.triples.filter (·.subject = s)
  withPredicate p := g.triples.filter (·.predicate = p)
  withObject o := g.triples.filter (·.object = o)

theorem Graph.lists_index (g : Graph) : g.index.Lists g where
  all := .refl _
  withSubject _ := .refl _
  withPredicate _ := .refl _
  withObject _ := .refl _

end SparqlStream
