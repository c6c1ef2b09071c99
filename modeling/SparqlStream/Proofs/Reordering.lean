import Mathlib.Tactic
import SparqlStream.Proofs.Answers
import SparqlStream.Proofs.Layout
import SparqlStream.Proofs.Provenance
import SparqlStream.Proofs.RowKeys

/-!
# Results do not depend on the order of the graph

Two indexes that list the same graph lead to the same bindings in different orders, and so does
sorting with another window or with a comparison that contradicts itself.  What is left is a
permutation: a query selects as many rows, and the same ones if it neither drops nor limits them;
and a yes-or-no question has the same answer.

Where repetitions are removed, which of several rows with one digest is shown depends on the order.
It is the same row if no two rows have the same digest.  For this the texts of the rows must differ,
which needs names without an equals sign and terms without a tab, and digests that differ with them.
-/

namespace SparqlStream

/-! ## Graphs without tabs -/

/-- A graph of terms that are written without a tab. -/
def Graph.IsTabFree (g : Graph) : Prop := ∀ t ∈ g.terms, t.IsTabFree

lemma Subject.toTerm_skolemize (s : Subject) (base : String) :
    (s.skolemize base).toTerm = s.toTerm.skolemize base := by
  cases s <;> rfl

/-- The terms of a graph with Skolem IRIs are those of the graph, with Skolem IRIs. -/
lemma Graph.exists_of_mem_terms_skolemize {g : Graph} {base : String} {t : Term}
    (ht : t ∈ (g.skolemize base).terms) : ∃ u ∈ g.terms, u.skolemize base = t := by
  obtain ⟨x', hx', ht⟩ := List.mem_flatMap.1 (List.mem_dedup.1 ht)
  obtain ⟨x, hx, rfl⟩ := List.mem_map.1 (Graph.mem_ofList.1 hx')
  have hmem : ∀ u ∈ [x.subject.toTerm, .iri x.predicate, x.object], u ∈ g.terms :=
    fun u hu => List.mem_dedup.2 (List.mem_flatMap.2 ⟨x, hx, hu⟩)
  simp only [List.forall_mem_cons] at hmem
  obtain ⟨hs, hp, ho, -⟩ := hmem
  rw [Subject.toTerm_skolemize] at ht
  simp only [List.mem_cons, List.not_mem_nil, or_false] at ht
  rcases ht with rfl | rfl | rfl
  · exact ⟨_, hs, rfl⟩
  · exact ⟨_, hp, rfl⟩
  · exact ⟨_, ho, rfl⟩

/-- Skolem IRIs below a base without a tab bring no tabs into a graph. -/
lemma Graph.IsTabFree.skolemize {g : Graph} {base : String} (hbase : '\t' ∉ base.toList)
    (hg : g.IsTabFree) : (g.skolemize base).IsTabFree := by
  intro t ht
  obtain ⟨u, hu, rfl⟩ := exists_of_mem_terms_skolemize ht
  exact (hg u hu).skolemize hbase

/-- The index that lists the triples of a graph backwards. -/
def Graph.backwards (g : Graph) : TripleIndex where
  all := g.triples.reverse
  withSubject s := (g.triples.filter (·.subject = s)).reverse
  withPredicate p := (g.triples.filter (·.predicate = p)).reverse
  withObject o := (g.triples.filter (·.object = o)).reverse

lemma Graph.lists_backwards (g : Graph) : g.backwards.Lists g where
  all := List.reverse_perm _
  withSubject _ := List.reverse_perm _
  withPredicate _ := List.reverse_perm _
  withObject _ := List.reverse_perm _

namespace Query

/-! ## Rows -/

lemma mem_firstOccurrences {vs : List Variable} {v : Variable} :
    v ∈ firstOccurrences vs ↔ v ∈ vs := by
  suffices h : ∀ seen, v ∈ vs.foldl (fun seen v => if v ∈ seen then seen else seen ++ [v]) seen ↔
      v ∈ seen ∨ v ∈ vs by
    simpa [firstOccurrences] using h []
  induction vs with
  | nil => simp
  | cons w vs ih =>
    intro seen
    rw [List.foldl_cons, ih, List.mem_cons]
    split
    · next hw =>
      constructor
      · exact fun h => h.imp_right .inr
      · rintro (h | rfl | h)
        exacts [.inl h, .inl hw, .inr h]
    · rw [List.mem_append, List.mem_singleton, or_assoc]

/-- The columns of a table. -/
def columns (q : Query) : Selection → List Variable
  | .all => q.visibleVariables
  | .columns vs => vs

/-- The bindings that the groups of a query make of the empty one. -/
def found (q : Query) (index : TripleIndex) (eval : Evaluator) : List Binding :=
  Group.solutionsInTurnBy index.answers eval false .empty q.groups

/-- The bindings that all groups of a query find, with the triples about the targets if it has
targets. -/
def allFound (q : Query) (index : TripleIndex) (eval : Evaluator) : List Binding :=
  Group.solutionsInTurnBy index.answers eval false .empty q.allGroups

/-- The rows of a table before they are sorted, freed from repetitions and sliced. -/
def rows (q : Query) (s : Selection) (index : TripleIndex) (eval : Evaluator) : List Solution :=
  (q.found index eval).map (Projection.mk s).solution

/-- Rows with different cells have different digests: their texts can be told apart, and no two of
these texts have the same digest. -/
structure RowsDiffer (q : Query) (s : Selection) (g : Graph) (index : TripleIndex)
    (eval : Evaluator) : Prop where
  names : ∀ v ∈ q.columns s, '=' ∉ v.name.toList
  terms : g.IsTabFree
  digests : ∀ a ∈ q.rows s index eval, ∀ b ∈ q.rows s index eval,
    sha1 a.key = sha1 b.key → a.key = b.key

variable {g : Graph} {index index' : TripleIndex} {q : Query} {s : Selection} {eval : Evaluator}

/-- The groups find the same in whatever order the graph is listed. -/
theorem found_perm (hindex : index.Lists g) (hindex' : index'.Lists g) (q : Query)
    (eval : Evaluator) : (q.found index eval).Perm (q.found index' eval) :=
  Group.solutionsInTurnBy_perm (fun _ _ _ _ _ _ _ => trivial)
    (TripleIndex.agrees_answers hindex hindex') eval false trivial q.groups fun _ _ => trivial

lemma isLegible_of_mem_rows (hindex : index.Lists g) (hterms : g.IsTabFree)
    (hnames : ∀ v ∈ q.columns s, '=' ∉ v.name.toList) {row : Solution}
    (hrow : row ∈ q.rows s index eval) : ∀ cell ∈ row.cells, Solution.IsLegible cell := by
  obtain ⟨b, hb, rfl⟩ := List.mem_map.1 hrow
  have hover := Group.isOver_of_mem hindex hb
  have hterms' : ∀ e ∈ b.entries, e.2.IsTabFree := fun e he => hterms _ (hover e he).2
  cases s with
  | all =>
    refine Solution.isLegible_ofBinding hterms' fun v hv => ?_
    obtain ⟨e, he, rfl⟩ := List.mem_map.1 hv
    exact hnames _ (mem_firstOccurrences.2 (hover e he).1)
  | columns vs => exact Solution.isLegible_ofColumns hterms' hnames

/-- Rows are told apart by the digests of their texts. -/
lemma RowsDiffer.digest_inj (hindex : index.Lists g) (h : q.RowsDiffer s g index eval) :
    ∀ a ∈ q.rows s index eval, ∀ b ∈ q.rows s index eval, sha1 a.key = sha1 b.key → a = b :=
  fun a ha b hb hdigest => Solution.key_inj (isLegible_of_mem_rows hindex h.terms h.names ha)
    (isLegible_of_mem_rows hindex h.terms h.names hb) (h.digests a ha b hb hdigest)

/-! ## Selected rows -/

section Selected

variable {α : Type} {key : α → String} {l l' : List α}

/-- In another order a query selects as much. -/
lemma length_selected_perm (q : Query) (key : α → String) (h : l.Perm l') :
    (q.selected key l).length = (q.selected key l').length := by
  rw [selected, selected]
  refine Slice.length_part_congr _ ?_
  cases q.distinct with
  | true => exact length_firsts_perm h
  | false => exact h.length_eq

/-- A query that neither drops nor limits anything selects the same in another order. -/
lemma selected_perm [DecidableEq α] (hoffset : q.offset = 0) (hlimit : q.limit = none)
    (hkey : q.distinct = true → ∀ a ∈ l, ∀ b ∈ l, key a = key b → a = b) (h : l.Perm l') :
    (q.selected key l).Perm (q.selected key l') := by
  rw [selected, selected, hoffset, hlimit, Slice.part_whole, Slice.part_whole]
  cases hq : q.distinct with
  | true => exact firsts_perm (hkey hq) h
  | false => exact h

end Selected

/-! ## Runs -/

lemma allFound_eq_found (h : q.allGroups = q.groups) :
    q.allFound index eval = q.found index eval := by
  rw [allFound, h, found]

/-- The bindings of a query are those that all its groups find, in some order. -/
lemma exists_delivers_bindings (q : Query) (index : TripleIndex) (options : RunOptions) :
    ∃ B t, Flow.Delivers false (q.bindings index.matchers options).1 B t ∧
      B.Perm (q.allFound index options.evaluator) := by
  obtain ⟨outs, t, houts, hperm⟩ :=
    Pipeline.delivers_found index options.evaluator q.allGroups [.empty]
  rw [List.flatMap_singleton] at hperm
  obtain ⟨B, t', hB, hsorted⟩ :=
    Pipeline.exists_delivers_orderByAll options.evaluator options.window q.order houts
  exact ⟨B, t', hB, hsorted.trans hperm⟩

/-- A table shows what is selected of its rows, in some order. -/
lemma exists_delivers_select (q : Query) (index : TripleIndex) (options : RunOptions)
    (hform : q.form = .select s) :
    ∃ l t, Flow.Delivers false (q.run index.matchers options).1
      ((q.selected (fun r => sha1 r.key) l).map .solution) t ∧
        l.Perm (q.rows s index options.evaluator) := by
  have hgroups : q.allGroups = q.groups := by rw [allGroups, hform]
  obtain ⟨B, t, hB, hperm⟩ := q.exists_delivers_bindings index options
  rw [allFound_eq_found hgroups] at hperm
  obtain ⟨t', ht'⟩ := q.delivers_select hform hB
  exact ⟨B.map (Projection.mk s).solution, t', ht', hperm.map _⟩

/-- A yes-or-no question says whether a binding is left of those that its groups find. -/
lemma exists_delivers_ask (q : Query) (index : TripleIndex) (options : RunOptions)
    (hform : q.form = .ask) :
    ∃ B t, Flow.Delivers false (q.run index.matchers options).1
      [.boolean !((Slice.mk q.offset q.limit).part B).isEmpty] t ∧
        B.Perm (q.found index options.evaluator) := by
  have hgroups : q.allGroups = q.groups := by rw [allGroups, hform]
  obtain ⟨B, t, hB, hperm⟩ := q.exists_delivers_bindings index options
  rw [allFound_eq_found hgroups] at hperm
  obtain ⟨t', ht'⟩ := q.delivers_ask hB
  refine ⟨B, t', ?_, hperm⟩
  have hrun : (q.run index.matchers options).1 = .boolean (Through.start HasItem.mk
      (q.slice?.elim (q.bindings index.matchers options).1 fun s =>
        (q.bindings index.matchers options).1.attach (.slice s)) true) := by
    rw [run, hform]
  rwa [hrun]

/-- **Results do not depend on the order of the graph.**  Take two runs of a query over any two
indexes of one graph and with any two windows.  Both end.  Tables have as many rows, and the same
ones if none are dropped and their number is not limited; where repetitions are removed, different
rows must have different digests.  Yes-or-no questions have the same answer. -/
theorem delivers_reordered (hindex : index.Lists g) (hindex' : index'.Lists g) (q : Query)
    (eval : Evaluator) (window window' : Window) (fresh fresh' : Nat → BlankNode) :
    (∀ s, q.form = .select s → ∃ (rows rows' : List Solution) (t t' : RunningResults Search),
      Flow.Delivers false (q.run index.matchers ⟨window, eval, fresh⟩).1
        (rows.map .solution) t ∧
      Flow.Delivers false (q.run index'.matchers ⟨window', eval, fresh'⟩).1
        (rows'.map .solution) t' ∧
      rows.length = rows'.length ∧
      (q.offset = 0 → q.limit = none →
        (q.distinct = true → q.RowsDiffer s g index eval) → rows.Perm rows')) ∧
    (q.form = .ask → ∃ (answer : Bool) (t t' : RunningResults Search),
      Flow.Delivers false (q.run index.matchers ⟨window, eval, fresh⟩).1 [.boolean answer] t ∧
      Flow.Delivers false (q.run index'.matchers ⟨window', eval, fresh'⟩).1
        [.boolean answer] t') := by
  have hfound := q.found_perm hindex hindex' eval
  refine ⟨fun s hform => ?_, fun hform => ?_⟩
  · obtain ⟨l, t, hl, hrows⟩ := q.exists_delivers_select index ⟨window, eval, fresh⟩ hform
    obtain ⟨l', t', hl', hrows'⟩ := q.exists_delivers_select index' ⟨window', eval, fresh'⟩ hform
    have hperm : l.Perm l' := hrows.trans ((hfound.map _).trans hrows'.symm)
    refine ⟨_, _, t, t', hl, hl', q.length_selected_perm _ hperm, ?_⟩
    intro hoffset hlimit hdiffer
    refine selected_perm hoffset hlimit (fun hq a ha b hb => ?_) hperm
    exact (hdiffer hq).digest_inj hindex a (hrows.mem_iff.1 ha) b (hrows.mem_iff.1 hb)
  · obtain ⟨B, t, hB, hperm⟩ := q.exists_delivers_ask index ⟨window, eval, fresh⟩ hform
    obtain ⟨B', t', hB', hperm'⟩ := q.exists_delivers_ask index' ⟨window', eval, fresh'⟩ hform
    have hlength := (Slice.mk q.offset q.limit).length_part_congr
      (hperm.trans (hfound.trans hperm'.symm)).length_eq
    have hempty : ((Slice.mk q.offset q.limit).part B).isEmpty =
        ((Slice.mk q.offset q.limit).part B').isEmpty := by
      rw [Bool.eq_iff_iff, List.isEmpty_iff_length_eq_zero, List.isEmpty_iff_length_eq_zero,
        hlength]
    rw [hempty] at hB
    exact ⟨_, t, t', hB, hB'⟩

/-- Two who know each other, one of them with an age and the other one without a name. -/
def unnamedGraph : Graph :=
  (Graph.ofList [⟨.iri ⟨"a"⟩, ⟨"knows"⟩, .blank ⟨"n"⟩⟩, ⟨.blank ⟨"n"⟩, ⟨"knows"⟩, .iri ⟨"a"⟩⟩,
    ⟨.iri ⟨"a"⟩, ⟨"age"⟩, .literal (.simple "7")⟩]).skolemize Skolem.defaultBase

/-- Who knows somebody, and about whom there is something, each of them once. -/
def distinctSample : Query where
  form := .select .all
  groups := [.pattern [⟨.var ⟨"x"⟩, .var ⟨"p"⟩, .blank ⟨"n"⟩⟩],
    .union [.pattern [⟨.var ⟨"x"⟩, .iri ⟨"knows"⟩, .blank ⟨"m"⟩⟩], .sequence []]]
  order := [⟨.var ⟨"x"⟩, true⟩]
  offset := 0
  limit := none
  distinct := true

theorem delivers_reordered_sample :
    unnamedGraph.index.Lists unnamedGraph ∧ unnamedGraph.backwards.Lists unnamedGraph ∧
      distinctSample.RowsDiffer .all unnamedGraph unnamedGraph.index Expression.evaluate ∧
      (distinctSample.rows .all unnamedGraph.index Expression.evaluate).length = 6 ∧
      ∃ (rows rows' : List Solution) (t t' : RunningResults Search),
        Flow.Delivers false
          (distinctSample.run unnamedGraph.index.matchers .standard).1 (rows.map .solution) t ∧
        Flow.Delivers false (distinctSample.run unnamedGraph.backwards.matchers
          ⟨some ⟨1, Nat.one_pos⟩, Expression.evaluate, .fresh⟩).1 (rows'.map .solution) t' ∧
        rows.Perm rows' := by
  have hdiffer :
      distinctSample.RowsDiffer .all unnamedGraph unnamedGraph.index Expression.evaluate :=
    { names := by decide +kernel
      terms := Graph.IsTabFree.skolemize (by decide +kernel) (by
        unfold Graph.IsTabFree
        decide +kernel)
      digests := by decide +kernel }
  obtain ⟨hselect, -⟩ := distinctSample.delivers_reordered unnamedGraph.lists_index
    unnamedGraph.lists_backwards Expression.evaluate none (some ⟨1, Nat.one_pos⟩) .fresh .fresh
  obtain ⟨rows, rows', t, t', h, h', -, hperm⟩ := hselect .all rfl
  exact ⟨unnamedGraph.lists_index, unnamedGraph.lists_backwards, hdiffer, by decide +kernel,
    rows, rows', t, t', h, h', hperm rfl rfl fun _ => hdiffer⟩

end Query

end SparqlStream
