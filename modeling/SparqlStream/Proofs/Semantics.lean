import Mathlib.Tactic
import SparqlStream.Proofs.Answers
import SparqlStream.Proofs.Layout
import SparqlStream.Proofs.Rewriting

/-!
# Running a pattern

A safe pattern becomes a query, and the query shows the solutions that the pattern has from the
bottom up.  The groups of the query answer the pattern given the empty binding, with which
everything is compatible, and the pipeline shows the solutions of its groups.
-/

namespace SparqlStream

open Binding

/-- Everything is compatible with the empty binding. -/
lemma Binding.joinWith_empty (cs : List Binding) : Binding.empty.joinWith cs = cs := by
  have hcompatible : ∀ c ∈ cs, decide (Binding.empty.Compatible c) = true :=
    fun c _ => decide_eq_true (List.forall_mem_nil _)
  have hmerge : ∀ c : Binding, Binding.empty.merge c = c := by
    intro c
    have hall : c.entries.filter (!Binding.empty.contains ·.1) = c.entries :=
      List.filter_eq_self.2 fun e _ => rfl
    rw [merge, hall]
    rfl
  rw [joinWith, List.filter_eq_self.2 hcompatible]
  exact (List.map_congr_left fun c _ => hmerge c).trans (List.map_id cs)

namespace GraphPattern

variable {g : Graph} {outside : List Variable} {p : GraphPattern}

/-- There is nothing to take off around a safe pattern. -/
lemma Safe.peelModifiers (h : p.Safe g outside) :
    p.peelModifiers = ⟨p, none, [], 0, none, false⟩ := by
  cases h <;> rfl

end GraphPattern

namespace Query

variable {g : Graph} {index : TripleIndex} {p : GraphPattern}

/-- The query of a safe pattern. -/
lemma ofAlgebra_select (hp : p.Safe g []) {group : Group} (hgroup : group.Answers g [] p) :
    ofAlgebra ⟨.select, p, false⟩ = .ok ⟨.select .all, group.members, [], 0, none, false⟩ := by
  rw [ofAlgebra, hp.peelModifiers]
  dsimp only
  rw [ofModifiers, hgroup.ok]
  rfl

/-- **Patterns are preserved.**  A safe pattern becomes a query without columns of its own, which
delivers a row for each solution of the pattern. -/
theorem delivers_pattern (hindex : index.Lists g) (hp : p.Safe g []) (options : RunOptions) :
    ∃ q, ofAlgebra ⟨.select, p, false⟩ = .ok q ∧
      ∃ (outs : List Binding) (t : RunningResults Search),
        Flow.Delivers false
          (q.run index.matchers { options with evaluator := Expression.evaluate }).1
          (outs.map fun b => .solution (.ofBinding b)) t ∧
        (outs.map get?).Perm ((p.solutions g).map get?) := by
  obtain ⟨group, hgroup⟩ := Group.exists_answers hp
  have hplain : PlainPatterns (Group.allTriplePatterns group.members) := by
    rw [Group.allTriplePatterns_members]
    exact hgroup.plain
  have hseed : ∀ b ∈ [Binding.empty], b.IsPlain :=
    List.forall_mem_singleton.2 (List.forall_mem_nil _)
  obtain ⟨outs, last, houts, hitems⟩ :=
    Pipeline.delivers_behind hindex Expression.evaluate hplain hseed
  let q : Query := ⟨.select .all, group.members, [], 0, none, false⟩
  obtain ⟨t, ht⟩ :=
    q.delivers_table q.visibleVariables .all houts (fun h => absurd h Bool.false_ne_true)
  refine ⟨q, ofAlgebra_select hp hgroup, outs, t, ?_, ?_⟩
  · have hselected : q.selected Solution.key (outs.map (Projection.mk .all).solution) =
        outs.map .ofBinding := List.drop_zero
    rw [hselected, List.map_map] at ht
    exact ht
  · have hmeanings := hgroup.solves .empty (List.forall_mem_nil _)
    rw [joinWith_empty] at hmeanings
    refine Multiset.coe_eq_coe.1 (Eq.trans ?_ hmeanings)
    rw [← Multiset.map_coe, hitems, Multiset.coe_singleton, Multiset.singleton_bind,
      Group.solutionsInTurn_members]
    rfl

/-- Whoever knows somebody, with an age if there is one, and with those on either side. -/
def samplePattern : GraphPattern :=
  .filter (.bound ⟨"x"⟩)
    (.join
      (.leftJoin (.bgp [⟨.var ⟨"x"⟩, .iri ⟨"knows"⟩, .blank ⟨"n"⟩⟩])
        (.bgp [⟨.var ⟨"x"⟩, .iri ⟨"age"⟩, .var ⟨"v"⟩⟩]) none)
      (.union (.bgp [⟨.var ⟨"x"⟩, .iri ⟨"knows"⟩, .var ⟨"y"⟩⟩])
        (.bgp [⟨.var ⟨"y"⟩, .iri ⟨"knows"⟩, .var ⟨"x"⟩⟩])))

theorem delivers_pattern_sample : samplePattern.Safe Graph.sample [] ∧
    ∃ q, ofAlgebra ⟨.select, samplePattern, false⟩ = .ok q ∧
      ∃ (outs : List Binding) (t : RunningResults Search),
        Flow.Delivers false (q.run Graph.sample.index.matchers .standard).1
          (outs.map fun b => .solution (.ofBinding b)) t ∧
        (outs.map get?).Perm ([
          ⟨[(⟨"x"⟩, .iri ⟨"b"⟩), (⟨"y"⟩, .iri ⟨"c"⟩)]⟩,
          ⟨[(⟨"x"⟩, .iri ⟨"b"⟩), (⟨"y"⟩, .iri ⟨"a"⟩)]⟩,
          ⟨[(⟨"x"⟩, .iri ⟨"a"⟩), (⟨"v"⟩, .literal (.simple "7")), (⟨"y"⟩, .iri ⟨"b"⟩)]⟩].map
            get?) := by
  have hsafe : samplePattern.Safe Graph.sample [] :=
    .filter (by decide) (.join (.leftJoin (by decide) (by decide) (.bgp (by decide)))
      (.union (.bgp (by decide)) (.bgp (by decide))))
  have hsolutions : samplePattern.solutions Graph.sample = [
      ⟨[(⟨"x"⟩, .iri ⟨"b"⟩), (⟨"y"⟩, .iri ⟨"c"⟩)]⟩,
      ⟨[(⟨"x"⟩, .iri ⟨"b"⟩), (⟨"y"⟩, .iri ⟨"a"⟩)]⟩,
      ⟨[(⟨"x"⟩, .iri ⟨"a"⟩), (⟨"v"⟩, .literal (.simple "7")), (⟨"y"⟩, .iri ⟨"b"⟩)]⟩] := by decide
  rw [← hsolutions]
  exact ⟨hsafe, delivers_pattern Graph.sample.lists_index hsafe .standard⟩

end Query

end SparqlStream
