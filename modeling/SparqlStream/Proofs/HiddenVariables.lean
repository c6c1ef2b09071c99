import Mathlib.Tactic
import SparqlStream.Proofs.NestedLoop
import SparqlStream.Proofs.Provenance

/-!
# Hidden variables

A search matches the blank nodes of a pattern as variables with reserved names, and leaves these
variables out of what it shows.  A variable of the query may have such a name, too.  If a binding
binds it, the blank node is matched with its term only, and the variable is not shown.

So a search shows each binding as it is or with additional variables and without those that are
hidden.  If the names are apart it shows the extensions of the binding, in which a blank node is an
unknown that is no variable: `Outlet.records_extensions`.
-/

namespace SparqlStream

/-- A binding with what another one binds, hidden variables left out. -/
def Binding.Keeps (hidden : List Variable) (b b' : Binding) : Prop :=
  (∀ v ∈ hidden, b'.get? v = none) ∧
    ∀ v ∉ hidden, ∀ t, b.get? v = some t → b'.get? v = some t

section Answers

variable {g : Graph} {index : TripleIndex} {ps : List TriplePattern} {optional : Bool}
  {b b' : Binding}

/-- A search shows a binding as it is, or with more variables and without those that are hidden. -/
lemma TripleIndex.eq_or_keeps (hindex : index.Lists g) (hb' : b' ∈ index.answers ps optional b) :
    b' = b ∨ Binding.Keeps (ps.flatMap (·.hiddenVariables)) b b' := by
  refine (eq_or_of_mem_answers hb').imp_right ?_
  rintro ⟨found, hfound, rfl⟩
  have hgrows := ((mem_foundFrom hindex).1 hfound).1
  refine ⟨fun v hv => ?_, fun v hv t ht => ?_⟩
  · rw [Binding.get?_restrict, if_neg (by simpa using hv)]
  · rw [Binding.get?_restrict, if_pos (decide_eq_true hv)]
    exact hgrows.get? ht

/-- If no variable has a name of a blank node, a search only extends bindings. -/
lemma TripleIndex.get?_of_mem_answers (hindex : index.Lists g) (h : HiddenApart ps b)
    (hb' : b' ∈ index.answers ps optional b) {v : Variable} {t : Term} (ht : b.get? v = some t) :
    b'.get? v = some t := by
  rcases eq_or_keeps hindex hb' with rfl | ⟨-, hkeeps⟩
  · exact ht
  · have hdomain : v ∈ b.domain := by
      rw [← Binding.contains_iff, Binding.contains, ht]
      rfl
    exact hkeeps v (fun hhidden => (h v hhidden).2 hdomain) t ht

end Answers

namespace Outlet

variable {ε : Type} {g : Graph} {index : TripleIndex}

/-- A search shows, for each binding of its source, bindings that keep what is bound there, except
for variables that are named like blank nodes of its patterns.  If there are none, it shows the
solutions of the patterns. -/
theorem records_extensions (hindex : index.Lists g) (ps : List TriplePattern) (optional : Bool)
    (w : Waker) (cells : List (Cell Binding ε)) :
    ∃ outs : Binding → List Binding,
      (∃ t, Flow.Records asked (matching index ps optional w cells) (transcript outs 1 cells) t) ∧
      ∀ b, (∀ b' ∈ outs b, b' = b ∨ b.Keeps (ps.flatMap (·.hiddenVariables)) b') ∧
        (HiddenApart ps b → (outs b).Perm (g.solutions ps optional b) ∧
          ∀ b' ∈ outs b, ∀ v t, b.get? v = some t → b'.get? v = some t) := by
  refine ⟨index.answers ps optional, ?_, fun b => ⟨fun b' hb' => ?_, fun h => ⟨?_, ?_⟩⟩⟩
  · obtain ⟨t, h, -⟩ := records_answers index ps optional w cells
    exact ⟨t, h⟩
  · exact TripleIndex.eq_or_keeps hindex hb'
  · exact index.answers_perm hindex h optional
  · exact fun b' hb' v t ht => TripleIndex.get?_of_mem_answers hindex h hb' ht

theorem records_extensions_sample :
    Graph.sample.index.Lists Graph.sample ∧
      HiddenApart samplePatterns ⟨[(⟨"y"⟩, .iri ⟨"c"⟩)]⟩ ∧
      ∃ t, Flow.Records asked
        (matching Graph.sample.index samplePatterns false ""
          ([.item ⟨[(⟨"y"⟩, .iri ⟨"c"⟩)]⟩] : List (Cell Binding String)))
        [(.item ⟨[(⟨"y"⟩, .iri ⟨"c"⟩), (⟨"x"⟩, .iri ⟨"a"⟩)]⟩, 1), (.finish, 2)] t := by
  have hindex := Graph.sample.lists_index
  have hapart : HiddenApart samplePatterns ⟨[(⟨"y"⟩, .iri ⟨"c"⟩)]⟩ := by decide +kernel
  obtain ⟨outs, ⟨t, hrecords⟩, houts⟩ := records_extensions hindex samplePatterns false ""
    ([.item ⟨[(⟨"y"⟩, .iri ⟨"c"⟩)]⟩] : List (Cell Binding String))
  have hshown : outs ⟨[(⟨"y"⟩, .iri ⟨"c"⟩)]⟩ = [⟨[(⟨"y"⟩, .iri ⟨"c"⟩), (⟨"x"⟩, .iri ⟨"a"⟩)]⟩] :=
    List.perm_singleton.1 (((houts _).2 hapart).1.trans (.of_eq (by decide +kernel)))
  simp only [transcript, hshown, List.map_cons, List.map_nil] at hrecords
  exact ⟨hindex, hapart, t, hrecords⟩

/-- Somebody knows the second one. -/
def knownSample : List TriplePattern := [⟨.blank ⟨"n"⟩, .iri ⟨"knows"⟩, .iri ⟨"b"⟩⟩]

/-- A binding of a variable that is named like the blank node. -/
def reservedSample (t : Term) : Binding := ⟨[(⟨"__blank_n"⟩, t)]⟩

/-- Both bindings have a solution.  But the search shows the first one without its variable, and
drops the second one. -/
theorem records_extensions_hidden :
    (∃ t, Flow.Records asked
      (matching Graph.sample.index knownSample false ""
        ([.item (reservedSample (.iri ⟨"a"⟩)), .item (reservedSample (.iri ⟨"c"⟩))] :
          List (Cell Binding String)))
      [(.item .empty, 1), (.finish, 3)] t) ∧
    ∀ x ∈ [Term.iri ⟨"a"⟩, .iri ⟨"c"⟩],
      Graph.sample.solutions knownSample false (reservedSample x) = [reservedSample x] := by
  refine ⟨?_, by decide +kernel⟩
  obtain ⟨t, hrecords, -⟩ := records_answers Graph.sample.index knownSample false ""
    ([.item (reservedSample (.iri ⟨"a"⟩)), .item (reservedSample (.iri ⟨"c"⟩))] :
      List (Cell Binding String))
  have hfirst : Graph.sample.index.answers knownSample false (reservedSample (.iri ⟨"a"⟩)) =
      [.empty] := by decide +kernel
  have hsecond : Graph.sample.index.answers knownSample false (reservedSample (.iri ⟨"c"⟩)) =
      [] := by decide +kernel
  simp only [transcript, hfirst, hsecond, List.map_cons, List.map_nil] at hrecords
  exact ⟨t, hrecords⟩

end Outlet

end SparqlStream
