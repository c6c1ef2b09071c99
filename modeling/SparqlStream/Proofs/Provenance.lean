import Mathlib.Tactic
import SparqlStream.Proofs.Solving

/-!
# What bindings are made of

The searches of a query bind the variables of its patterns to terms of the graph.  The variables
that stand for blank nodes are gone when a match is shown.  So all that the groups of a query make
of the empty binding is over the variables of the query and the terms of the graph:
`Group.isOver_of_mem`.
-/

namespace SparqlStream

/-- A binding of certain variables to certain terms. -/
def Binding.IsOver (vs : List Variable) (ts : List Term) (b : Binding) : Prop :=
  ∀ e ∈ b.entries, e.1 ∈ vs ∧ e.2 ∈ ts

/-! ## Patterns and triples -/

/-- A pattern that becomes a triple takes the terms of its variables from it. -/
lemma SlotPattern.Becomes.mem_terms {g : Graph} {p : SlotPattern} {b : Binding} {t : Triple}
    {s : Slot} {x : Term} (hb : p.Becomes b t) (ht : t ∈ g.triples) (hs : s ∈ p.slots)
    (hx : s.value? b = some x) : x ∈ g.terms := by
  obtain ⟨hsubject, hpredicate, hobject⟩ := hb
  rw [Graph.terms, List.mem_dedup, List.mem_flatMap]
  refine ⟨t, ht, ?_⟩
  simp only [slots, List.mem_cons, List.not_mem_nil, or_false] at hs ⊢
  rcases hs with rfl | rfl | rfl
  · exact .inl (Option.some.inj (hx.symm.trans hsubject))
  · exact .inr (.inl (Option.some.inj (hx.symm.trans hpredicate)))
  · exact .inr (.inr (Option.some.inj (hx.symm.trans hobject)))

/-- A slot of a pattern has a variable of the pattern, or one that is hidden. -/
lemma TriplePattern.mem_variables_or_hidden {p : TriplePattern} {s : Slot} {v : Variable}
    (hs : s ∈ (SlotPattern.ofPattern p).slots) (hv : s.var? = some v) :
    v ∈ p.variables ∨ v ∈ p.hiddenVariables := by
  obtain ⟨subject, predicate, object⟩ := p
  simp only [SlotPattern.slots, SlotPattern.ofPattern, List.mem_cons, List.not_mem_nil,
    or_false] at hs
  simp only [TriplePattern.variables, hiddenVariables, List.mem_append, Option.mem_toList]
  rcases hs with rfl | rfl | rfl
  · cases subject <;> cases hv
    · exact .inr (.inl (List.mem_singleton_self _))
    · exact .inl (.inl (.inl rfl))
  · cases predicate <;> cases hv
    exact .inl (.inl (.inr rfl))
  · cases object <;> cases hv
    · exact .inr (.inr (List.mem_singleton_self _))
    · exact .inl (.inr rfl)

/-! ## Searches -/

variable {g : Graph} {index : TripleIndex} {vs : List Variable}

/-- A search binds variables of its patterns to terms of the graph. -/
lemma mem_entries_of_mem_foundFrom (hindex : index.Lists g) {ps : List SlotPattern}
    {b b' : Binding} (hb' : b' ∈ foundFrom index ps b) {e : Variable × Term}
    (he : e ∈ b'.entries) :
    e ∈ b.entries ∨ (∃ p ∈ ps, ∃ s ∈ p.slots, s.var? = some e.1) ∧ e.2 ∈ g.terms := by
  obtain ⟨⟨a, rfl, ha⟩, hall⟩ := (mem_foundFrom hindex).1 hb'
  rcases List.mem_append.1 he with he | he
  · exact .inl he
  · have hopen : e.1 ∈ openVariables (ps.flatMap (·.slots)) b := ha ▸ List.mem_map_of_mem he
    obtain ⟨⟨s, hs, hvar⟩, hnew⟩ := mem_openVariables.1 hopen
    obtain ⟨p, hp, hs⟩ := List.mem_flatMap.1 hs
    obtain ⟨t, ht, hbecomes⟩ := hall p hp
    refine .inr ⟨⟨p, hp, s, hs, hvar⟩, hbecomes.mem_terms ht hs ?_⟩
    have hkeys : (a.map Prod.fst).Nodup := by
      rw [ha]
      exact nodup_eraseDups _
    cases s with
    | constant c => cases hvar
    | var v =>
      obtain rfl := Option.some.inj hvar
      rw [Slot.value?, Binding.get?_append, Binding.get?_eq_none.2 hnew, Option.none_or]
      exact lookup_of_mem hkeys he

/-- A search shows the binding itself, or a binding that it finds without what is hidden. -/
lemma TripleIndex.eq_or_of_mem_answers {ps : List TriplePattern} {optional : Bool} {b b' : Binding}
    (hb' : b' ∈ index.answers ps optional b) :
    b' = b ∨ ∃ found ∈ foundFrom index (ps.map .ofPattern) b,
      b' = found.restrict (· ∉ ps.flatMap (·.hiddenVariables)) := by
  cases ps with
  | nil =>
    rw [answers_nil, List.mem_singleton] at hb'
    exact .inl hb'
  | cons p ps =>
    rw [answers_cons, Search.orUnmatched] at hb'
    split at hb'
    · cases optional
      · cases hb'
      · exact .inl (Option.some.inj (Option.mem_toList.1 hb')).symm
    · obtain ⟨found, hfound, rfl⟩ := List.mem_map.1 hb'
      exact .inr ⟨found, hfound, rfl⟩

/-- What a search shows is over the variables of its patterns and the terms of the graph. -/
theorem TripleIndex.keeps_answers (hindex : index.Lists g) (vs : List Variable) :
    Answering.Keeps (fun p => ∀ v ∈ p.variables, v ∈ vs) (Binding.IsOver vs g.terms)
      index.answers := by
  intro ps optional b b' hps hb hb'
  rcases eq_or_of_mem_answers hb' with rfl | ⟨found, hfound, rfl⟩
  · exact hb
  · intro e he
    obtain ⟨he, hvisible⟩ := List.mem_filter.1 he
    rcases mem_entries_of_mem_foundFrom hindex hfound he with hold | ⟨⟨q, hq, s, hs, hv⟩, ht⟩
    · exact hb e hold
    · obtain ⟨p, hp, rfl⟩ := List.mem_map.1 hq
      rcases TriplePattern.mem_variables_or_hidden hs hv with hvar | hhidden
      · exact ⟨hps p hp _ hvar, ht⟩
      · exact absurd (List.mem_flatMap.2 ⟨p, hp, hhidden⟩) (of_decide_eq_true hvisible)

/-- A search binds no variable twice. -/
theorem TripleIndex.keeps_nodup (hindex : index.Lists g) :
    Answering.Keeps (fun _ => True) (fun b => b.domain.Nodup) index.answers := by
  intro ps optional b b' _ hb hb'
  rcases eq_or_of_mem_answers hb' with rfl | ⟨found, hfound, rfl⟩
  · exact hb
  · obtain ⟨⟨a, rfl, ha⟩, -⟩ := (mem_foundFrom hindex).1 hfound
    have hopen : (a.map Prod.fst).Nodup := by
      rw [ha]
      exact nodup_eraseDups _
    have hall : (Binding.mk (b.entries ++ a)).domain.Nodup := by
      rw [Binding.domain_append, List.nodup_append]
      refine ⟨hb, hopen, fun v hv v' hv' heq => ?_⟩
      rw [ha] at hv'
      exact (mem_openVariables.1 hv').2 (heq ▸ hv)
    exact hall.sublist (List.filter_sublist.map Prod.fst)

/-! ## Queries -/

/-- What groups make of the empty binding is over their variables and the terms of the graph. -/
theorem Group.isOver_of_mem (hindex : index.Lists g) {eval : Evaluator} {optional : Bool}
    {groups : List Group} {b : Binding}
    (hb : b ∈ solutionsInTurnBy index.answers eval optional .empty groups) :
    b.IsOver ((allTriplePatterns groups).flatMap (·.variables)) g.terms :=
  kept_solutionsInTurnBy (TripleIndex.keeps_answers hindex _) (List.forall_mem_nil _) groups
    (fun _ hp _ hv => List.mem_flatMap.2 ⟨_, hp, hv⟩) hb

/-- Groups bind no variable twice. -/
theorem Group.nodup_domain_of_mem (hindex : index.Lists g) {eval : Evaluator} {optional : Bool}
    {groups : List Group} {b : Binding}
    (hb : b ∈ solutionsInTurnBy index.answers eval optional .empty groups) : b.domain.Nodup := by
  have hempty : Binding.empty.domain.Nodup := List.nodup_nil
  exact kept_solutionsInTurnBy (TripleIndex.keeps_nodup hindex) hempty groups
    (fun _ _ => trivial) hb

end SparqlStream
