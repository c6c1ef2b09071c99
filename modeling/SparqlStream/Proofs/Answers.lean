import Mathlib.Tactic
import SparqlStream.Proofs.Attachment
import SparqlStream.Proofs.Denotation

/-!
# The answers of a query

What a query makes of the bindings of its groups: they are sorted by all keys at once, projected or
put into a template, freed from repetitions, and sliced.  A yes-or-no question is sliced before it
is answered.

`Query.answers` says this with lists, and `Query.delivers_answers` says that a running query
delivers these answers, whatever its matchers are, as soon as its groups deliver the bindings.
-/

namespace SparqlStream

/-! ## Keys -/

namespace OrderKey

/-- The value of a key.  A key that has no value counts as the empty text. -/
def value (eval : Evaluator) (key : OrderKey) (b : Binding) : Term :=
  match eval key.expression b with
  | .ok t => t
  | .error _ => .literal (.simple "")

/-- The order of two bindings by a key. -/
def order (eval : Evaluator) (key : OrderKey) (a b : Binding) : Ordering :=
  let o := Term.compareKeys (some (key.value eval a)) (some (key.value eval b))
  if key.descending then o.swap else o

/-- The order of two bindings by some keys, the first of which is the most significant one. -/
def orderAll (eval : Evaluator) : List OrderKey → Binding → Binding → Ordering
  | [] => fun _ _ => .eq
  | key :: rest => compareLex (key.order eval) (orderAll eval rest)

end OrderKey

/-! ## Answers -/

/-- The template of a form that shows triples. -/
def QueryForm.template? : QueryForm → Option (List TriplePattern)
  | .construct template => some template
  | .describe targets => some (Query.descriptionTemplate targets)
  | .select _ | .ask => none

namespace Query

/-- The bindings of a query in the order that it asks for. -/
def sorted (q : Query) (eval : Evaluator) (B : List Binding) : List Binding :=
  stableSort (OrderKey.orderAll eval q.order) B

/-- The results that a query shows: the first one for each key, if it asks for that, without those
that it drops, and not more than it allows. -/
def selected {α : Type} (q : Query) (key : α → String) (l : List α) : List α :=
  (Slice.mk q.offset q.limit).part (if q.distinct then firsts key l else l)

/-- The triples of a template: those that need no binding, and then those of each binding. -/
def instances (template : List TriplePattern) (fresh : Nat → BlankNode) (B : List Binding) :
    List Triple :=
  (Template.start template fresh).ready ++ (Template.start template fresh).instances 0 B

/-- What a query answers if its groups have certain bindings. -/
def answers (q : Query) (options : RunOptions) (B : List Binding) : List ResultItem :=
  let B' := q.sorted options.evaluator B
  match q.form with
  | .select s => (q.selected Solution.key (B'.map (Projection.mk s).solution)).map .solution
  | .construct template =>
    (q.selected Triple.render (instances template options.fresh B')).map .triple
  | .describe targets =>
    let triples := instances (descriptionTemplate targets) options.fresh B'
    (q.selected Triple.render triples).map .triple
  | .ask => [.boolean !((Slice.mk q.offset q.limit).part B').isEmpty]

/-- The keys by which a query tells its results apart. -/
def keys (q : Query) (options : RunOptions) (B : List Binding) : List String :=
  let B' := q.sorted options.evaluator B
  match q.form with
  | .select s => B'.map fun b => ((Projection.mk s).solution b).key
  | .construct template => (instances template options.fresh B').map Triple.render
  | .describe targets =>
    (instances (descriptionTemplate targets) options.fresh B').map Triple.render
  | .ask => []

end Query

/-! ## Sorting by several keys -/

namespace OrderKey

lemma compareKeys_value (eval : Evaluator) (key : OrderKey) (a b : Binding) :
    Term.compareKeys (key.expression.keyValue eval a) (key.expression.keyValue eval b) =
      Term.compareKeys (some (key.value eval a)) (some (key.value eval b)) := by
  rw [Expression.keyValue, Expression.keyValue, value, value]
  cases eval key.expression a <;> cases eval key.expression b <;> rfl

lemma compare_eq_order (eval : Evaluator) (key : OrderKey) : key.compare eval = key.order eval := by
  funext a b
  rw [compare, order, compareKeys_value]

variable {eval : Evaluator} {keys : List OrderKey} {B : List Binding}

lemma orderAll_eq (eval : Evaluator) (keys : List OrderKey) :
    orderAll eval keys = compareAll (keys.map (·.compare eval)) := by
  induction keys with
  | nil => rfl
  | cons key keys ih =>
    rw [orderAll, ih, ← compare_eq_order]
    rfl

lemma forall_compare (h : ∀ key ∈ keys, TotalPreorderOn (key.order eval) B) :
    ∀ cmp ∈ keys.map (·.compare eval), TotalPreorderOn cmp B := by
  rw [List.forall_mem_map]
  intro key hkey
  rw [compare_eq_order]
  exact h key hkey

lemma totalPreorderOn_orderAll (h : ∀ key ∈ keys, TotalPreorderOn (key.order eval) B) :
    TotalPreorderOn (orderAll eval keys) B := by
  rw [orderAll_eq]
  exact totalPreorderOn_compareAll (forall_compare h)

end OrderKey

namespace Pipeline

variable {μ : Type} {eval : Evaluator} {p t : Pipeline μ} {keys : List OrderKey}

lemma orderByAll_cons (window : Window) (key : OrderKey) :
    p.orderByAll eval window (key :: keys) =
      (p.orderByAll eval window keys).orderBy eval window key := by
  rw [orderByAll, List.reverse_cons, List.foldl_append, orderByAll]
  rfl

lemma outlet_orderByAll (eval : Evaluator) (keys : List OrderKey) :
    (p.orderByAll eval none keys).outlet = p.outlet.sortByAll (keys.map (·.compare eval)) := by
  induction keys with
  | nil => rfl
  | cons key keys ih =>
    rw [orderByAll_cons, orderBy, outlet_attach, ih]
    rfl

variable [Operator μ Binding Binding ResultsError] {mayWait : Bool} {B : List Binding}

/-- Sorting by one key after another, the last one first, sorts by all keys at once. -/
theorem delivers_orderByAll (hp : Flow.Delivers mayWait p B t)
    (h : ∀ key ∈ keys, TotalPreorderOn (key.order eval) B) :
    ∃ t', Flow.Delivers mayWait (p.orderByAll eval none keys)
      (stableSort (OrderKey.orderAll eval keys) B) t' := by
  have hcmps := OrderKey.forall_compare h
  obtain ⟨o, ho⟩ := delivers_outlet hp
  obtain ⟨o', ho'⟩ := Outlet.delivers_sortByAll hcmps ho
  rw [← outlet_orderByAll, ← stableSort_compareAll hcmps, ← OrderKey.orderAll_eq] at ho'
  exact delivers_of_outlet ho'

/-- Sorting by any keys and with any window keeps the bindings. -/
theorem exists_delivers_orderByAll (eval : Evaluator) (window : Window) (keys : List OrderKey)
    (hp : Flow.Delivers mayWait p B t) :
    ∃ B' t', Flow.Delivers mayWait (p.orderByAll eval window keys) B' t' ∧ B'.Perm B := by
  induction keys with
  | nil => exact ⟨B, t, hp, .refl B⟩
  | cons key keys ih =>
    obtain ⟨B₁, t₁, h₁, hperm₁⟩ := ih
    obtain ⟨B₂, t₂, h₂, hperm₂⟩ := exists_delivers_orderBy eval window key h₁
    rw [orderByAll_cons]
    exact ⟨B₂, t₂, h₂, hperm₂.trans hperm₁⟩

end Pipeline

/-! ## Modifiers -/

namespace Query

open Operator

variable {τ α ε : Type} [Flow τ α ε] {rows t : τ} {mayWait : Bool} {l : List α}

/-- The slice that a query asks for, if any, shows its part. -/
lemma delivers_slice? (q : Query) (hrows : Flow.Delivers mayWait rows l t) :
    ∃ t', Flow.Delivers mayWait (Through.start q.slice? rows (q.slice?.all (·.needsInput)))
      ((Slice.mk q.offset q.limit).part l) t' := by
  rw [slice?]
  split
  · next hnone =>
    obtain ⟨hoffset, hlimit⟩ := hnone
    rw [hoffset, hlimit, Slice.part_whole]
    exact Through.delivers (isPatient_option Slice.isPatient) hrows (yields_none l)
  · by_cases hlimit : q.limit = some 0
    · have hneeds : (some (Slice.mk q.offset q.limit)).all (·.needsInput) = false := by
        rw [hlimit]
        rfl
      rw [Slice.part_eq_nil hlimit, hneeds]
      exact Through.delivers_of_drains (.nothing rfl) (Flow.release rows)
    · have hneeds : (some (Slice.mk q.offset q.limit)).all (·.needsInput) = true :=
        bne_iff_ne.2 hlimit
      rw [hneeds]
      exact Through.delivers (isPatient_option Slice.isPatient) hrows
        (embeds_some.yields (Slice.yields ⟨q.offset, q.limit⟩ hlimit l))

/-- Results with the modifiers of a query are those that are selected by the digests of their
keys. -/
lemma delivers_modify (q : Query) (key : α → String) (hrows : Flow.Delivers mayWait rows l t) :
    ∃ t', Flow.Delivers mayWait (q.modify key rows)
      (q.selected (fun a => sha1 (key a)) l) t' := by
  let distinct : Option (Distinct α) := if q.distinct then some (.start key) else none
  have hdistinct : ∃ t', Flow.Delivers mayWait (Through.mk distinct rows true)
      (if q.distinct then firsts (fun a => sha1 (key a)) l else l) t' := by
    refine Through.delivers (isPatient_option Distinct.isPatient) hrows ?_
    cases hq : q.distinct with
    | true =>
      simp only [distinct, hq]
      exact embeds_some.yields (Distinct.yields key l)
    | false =>
      simp only [distinct, hq]
      exact yields_none l
  obtain ⟨t', ht'⟩ := hdistinct
  exact q.delivers_slice? ht'

/-- A query without modifiers selects everything. -/
lemma selected_eq_self {q : Query} (hoffset : q.offset = 0) (hlimit : q.limit = none)
    (hdistinct : q.distinct = false) (key : α → String) (l : List α) : q.selected key l = l := by
  rw [selected, hoffset, hlimit, hdistinct, Slice.part_whole]
  rfl

lemma selected_sublist (q : Query) (key : α → String) (l : List α) :
    (q.selected key l).Sublist l := by
  rw [selected]
  cases q.distinct with
  | true => exact (Slice.part_sublist _ _).trans (firsts_sublist key l)
  | false => exact Slice.part_sublist _ l

/-- Digests select what the keys select, if no two keys have the same digest. -/
lemma selected_digest (q : Query) (key : α → String) (hdigests : q.distinct = true →
    ∀ a ∈ l, ∀ b ∈ l, sha1 (key a) = sha1 (key b) → key a = key b) :
    q.selected (fun a => sha1 (key a)) l = q.selected key l := by
  rw [selected, selected]
  cases hq : q.distinct with
  | true => rw [if_pos rfl, if_pos rfl, Distinct.firsts_digest (hdigests hq)]
  | false => rfl

end Query

/-! ## Results -/

namespace Results

variable {ρ τ β : Type} [Flow ρ Solution ResultsError] [Flow τ Triple ResultsError]
  [Flow β Bool ResultsError] {mayWait : Bool}

/-- Results of one kind deliver what the stream below them delivers. -/
lemma delivers_of_step {κ α : Type} [Flow κ α ResultsError] {f : κ → Results ρ τ β}
    {g : α → ResultItem}
    (hf : ∀ s, Flow.step (f s) = ((Flow.step s).1.map g, f (Flow.step s).2)) {s t : κ} {l : List α}
    (h : Flow.Delivers mayWait s l t) : Flow.Delivers mayWait (f s) (l.map g) (f t) := by
  induction h with
  | finish h => exact .finish (by rw [hf, h]; rfl)
  | item h _ ih => exact .item (by rw [hf, h]; rfl) ih
  | again h _ ih => exact .again (by rw [hf, h]; rfl) ih
  | pending hmay h _ ih => exact .pending hmay (by rw [hf, h]; rfl) ih

lemma delivers_solutions_of (columns : List Variable) {s t : ρ} {l : List Solution}
    (h : Flow.Delivers mayWait s l t) :
    Flow.Delivers mayWait (solutions columns s : Results ρ τ β) (l.map .solution)
      (solutions columns t) :=
  delivers_of_step (fun _ => rfl) h

lemma delivers_triples_of {s t : τ} {l : List Triple} (h : Flow.Delivers mayWait s l t) :
    Flow.Delivers mayWait (triples s : Results ρ τ β) (l.map .triple) (triples t) :=
  delivers_of_step (fun _ => rfl) h

lemma delivers_boolean_of {s t : β} {l : List Bool} (h : Flow.Delivers mayWait s l t) :
    Flow.Delivers mayWait (boolean s : Results ρ τ β) (l.map .boolean) (boolean t) :=
  delivers_of_step (fun _ => rfl) h

end Results

namespace Query

variable {μ : Type} [Operator μ Binding Binding ResultsError] {p t : Pipeline μ} {mayWait : Bool}
  {l : List Binding}

/-- A table shows the rows that are selected by the digests of their keys. -/
lemma delivers_rows (q : Query) (columns : List Variable) (s : Selection)
    (hp : Flow.Delivers mayWait p l t) :
    ∃ t', Flow.Delivers mayWait
      (.solutions columns (q.modify Solution.key (Through.start (Projection.mk s) p true)) :
        RunningResults μ)
      ((q.selected (fun r => sha1 r.key) (l.map (Projection.mk s).solution)).map .solution) t' := by
  obtain ⟨t₁, h₁⟩ := Through.delivers Projection.isPatient hp (Projection.yields ⟨s⟩ l)
  obtain ⟨t₂, h₂⟩ := q.delivers_modify Solution.key h₁
  exact ⟨_, Results.delivers_solutions_of columns h₂⟩

/-- A table shows the selected rows. -/
lemma delivers_table (q : Query) (columns : List Variable) (s : Selection)
    (hp : Flow.Delivers mayWait p l t)
    (hdigests : q.distinct = true → ∀ k ∈ l.map fun b => ((Projection.mk s).solution b).key,
      ∀ k' ∈ l.map fun b => ((Projection.mk s).solution b).key, sha1 k = sha1 k' → k = k') :
    ∃ t', Flow.Delivers mayWait
      (.solutions columns (q.modify Solution.key (Through.start (Projection.mk s) p true)) :
        RunningResults μ)
      ((q.selected Solution.key (l.map (Projection.mk s).solution)).map .solution) t' := by
  obtain ⟨t', ht'⟩ := q.delivers_rows columns s hp
  rw [q.selected_digest Solution.key fun hq a ha b hb => ?_] at ht'
  · exact ⟨t', ht'⟩
  · obtain ⟨b₁, hb₁, rfl⟩ := List.mem_map.1 ha
    obtain ⟨b₂, hb₂, rfl⟩ := List.mem_map.1 hb
    exact hdigests hq _ (List.mem_map.2 ⟨b₁, hb₁, rfl⟩) _ (List.mem_map.2 ⟨b₂, hb₂, rfl⟩)

/-- A query for a table shows the rows that are selected by the digests of their keys. -/
lemma delivers_select (q : Query) {matchers : MatcherSupply μ} {options : RunOptions}
    {s : Selection} (hform : q.form = .select s)
    (hB : Flow.Delivers mayWait (q.bindings matchers options).1 l t) :
    ∃ t', Flow.Delivers mayWait (q.run matchers options).1
      ((q.selected (fun r => sha1 r.key) (l.map (Projection.mk s).solution)).map .solution) t' := by
  rw [run, hform]
  cases s with
  | all => exact q.delivers_rows q.visibleVariables .all hB
  | columns vs => exact q.delivers_rows vs (.columns vs) hB

/-- A graph shows the triples that are selected by the digests of their texts. -/
lemma delivers_instances (q : Query) (template : List TriplePattern) (fresh : Nat → BlankNode)
    (hp : Flow.Delivers mayWait p l t) :
    ∃ t', Flow.Delivers mayWait
      (.triples (q.modify Triple.render (Through.start (Template.start template fresh) p true)) :
        RunningResults μ)
      ((q.selected (fun x => sha1 x.render) (instances template fresh l)).map .triple) t' := by
  have hyields := Template.yields_instances (ε := ResultsError) (.start template fresh) 0
    (Nat.zero_mul _).symm l
  obtain ⟨t₁, h₁⟩ := Through.delivers Template.isPatient hp hyields
  obtain ⟨t₂, h₂⟩ := q.delivers_modify Triple.render h₁
  exact ⟨_, Results.delivers_triples_of h₂⟩

/-- A query for a graph shows the triples that are selected by the digests of their texts. -/
lemma delivers_triples (q : Query) {matchers : MatcherSupply μ} {options : RunOptions}
    {template : List TriplePattern} (hform : q.form.template? = some template)
    (hB : Flow.Delivers mayWait (q.bindings matchers options).1 l t) :
    ∃ t', Flow.Delivers mayWait (q.run matchers options).1
      ((q.selected (fun x => sha1 x.render) (instances template options.fresh l)).map .triple)
      t' := by
  rw [run]
  cases hq : q.form with
  | construct patterns =>
    rw [hq] at hform
    obtain rfl := Option.some.inj hform
    exact q.delivers_instances patterns options.fresh hB
  | describe targets =>
    rw [hq] at hform
    obtain rfl := Option.some.inj hform
    exact q.delivers_instances (descriptionTemplate targets) options.fresh hB
  | select s => rw [hq] at hform; cases hform
  | ask => rw [hq] at hform; cases hform

/-- A graph shows the selected triples. -/
lemma delivers_graph (q : Query) (template : List TriplePattern) (fresh : Nat → BlankNode)
    (hp : Flow.Delivers mayWait p l t)
    (hdigests : q.distinct = true → ∀ k ∈ (instances template fresh l).map Triple.render,
      ∀ k' ∈ (instances template fresh l).map Triple.render, sha1 k = sha1 k' → k = k') :
    ∃ t', Flow.Delivers mayWait
      (.triples (q.modify Triple.render (Through.start (Template.start template fresh) p true)) :
        RunningResults μ)
      ((q.selected Triple.render (instances template fresh l)).map .triple) t' := by
  rw [← q.selected_digest Triple.render fun hq a ha b hb =>
    hdigests hq _ (List.mem_map_of_mem ha) _ (List.mem_map_of_mem hb)]
  exact q.delivers_instances template fresh hp

/-- A yes-or-no question shows whether a binding is left. -/
lemma delivers_ask (q : Query) (hp : Flow.Delivers mayWait p l t) :
    ∃ t', Flow.Delivers mayWait
      (.boolean (Through.start HasItem.mk (q.slice?.elim p fun s => p.attach (.slice s)) true) :
        RunningResults μ)
      [.boolean !((Slice.mk q.offset q.limit).part l).isEmpty] t' := by
  have hslice : ∃ t', Flow.Delivers mayWait (q.slice?.elim p fun s => p.attach (.slice s))
      ((Slice.mk q.offset q.limit).part l) t' := by
    rw [slice?]
    split
    · next hnone =>
      rw [hnone.1, hnone.2, Slice.part_whole]
      exact ⟨t, hp⟩
    · exact Pipeline.delivers_slice ⟨q.offset, q.limit⟩ hp
  obtain ⟨t₁, h₁⟩ := hslice
  obtain ⟨t₂, h₂⟩ := Through.delivers HasItem.isPatient h₁ (HasItem.yields _)
  exact ⟨_, Results.delivers_boolean_of h₂⟩

/-- **What a query answers.**  If the groups of a query deliver some bindings, every key that orders
them is a total preorder on these bindings, and no two results with different keys have the same
digest where repetitions are removed, then the running query delivers its answers and ends. -/
theorem delivers_answers (q : Query) (matchers : MatcherSupply μ) {options : RunOptions}
    (hwindow : options.window = none) {B : List Binding}
    (hB : Flow.Delivers mayWait (Pipeline.ofGroups matchers options.evaluator q.allGroups).1 B t)
    (horder : ∀ key ∈ q.order, TotalPreorderOn (key.order options.evaluator) B)
    (hdigests : q.distinct = true → ∀ k ∈ q.keys options B, ∀ k' ∈ q.keys options B,
      sha1 k = sha1 k' → k = k') :
    ∃ t', Flow.Delivers mayWait (q.run matchers options).1 (q.answers options B) t' := by
  obtain ⟨p, hp⟩ := Pipeline.delivers_orderByAll hB horder
  rw [← hwindow] at hp
  obtain ⟨form, groups, order, offset, limit, distinct⟩ := q
  cases form with
  | select s =>
    cases s with
    | all => exact delivers_table _ _ .all hp hdigests
    | columns vs => exact delivers_table _ _ (.columns vs) hp hdigests
  | construct template => exact delivers_graph _ template options.fresh hp hdigests
  | describe targets => exact delivers_graph _ _ options.fresh hp hdigests
  | ask => exact delivers_ask _ hp

/-- The second one of those about whom there is something, backwards. -/
def sample : Query where
  form := .select (.columns [⟨"x"⟩])
  groups := [.pattern [⟨.var ⟨"x"⟩, .var ⟨"p"⟩, .var ⟨"y"⟩⟩]]
  order := [⟨.var ⟨"x"⟩, true⟩]
  offset := 1
  limit := some 1
  distinct := true

/-- What there is in the order in which it is found. -/
def sampleBindings : List Binding :=
  [⟨[(⟨"x"⟩, .iri ⟨"a"⟩), (⟨"p"⟩, .iri ⟨"knows"⟩), (⟨"y"⟩, .iri ⟨"b"⟩)]⟩,
    ⟨[(⟨"x"⟩, .iri ⟨"b"⟩), (⟨"p"⟩, .iri ⟨"knows"⟩), (⟨"y"⟩, .iri ⟨"c"⟩)]⟩,
    ⟨[(⟨"x"⟩, .iri ⟨"a"⟩), (⟨"p"⟩, .iri ⟨"age"⟩), (⟨"y"⟩, .literal (.simple "7"))]⟩]

theorem delivers_answers_sample :
    RunOptions.standard.window = none ∧
      (∃ t, Flow.Delivers false (Pipeline.ofGroups Graph.sample.index.matchers
        RunOptions.standard.evaluator sample.allGroups).1 sampleBindings t) ∧
      (∀ key ∈ sample.order,
        TotalPreorderOn (key.order RunOptions.standard.evaluator) sampleBindings) ∧
      (∀ k ∈ sample.keys .standard sampleBindings, ∀ k' ∈ sample.keys .standard sampleBindings,
        sha1 k = sha1 k' → k = k') ∧
      ∃ t, Flow.Delivers false (sample.run Graph.sample.index.matchers .standard).1
        [.solution ⟨[(⟨"x"⟩, some (.iri ⟨"a"⟩))]⟩] t := by
  have hB : ∃ t, Flow.Delivers false (Pipeline.ofGroups Graph.sample.index.matchers
      RunOptions.standard.evaluator sample.allGroups).1 sampleBindings t :=
    Flow.delivers_of_collect 20 (by decide +kernel)
  have horder : ∀ key ∈ sample.order,
      TotalPreorderOn (key.order RunOptions.standard.evaluator) sampleBindings :=
    List.forall_mem_singleton.2 ⟨by decide +kernel, by decide +kernel⟩
  have hsorted : sample.sorted RunOptions.standard.evaluator sampleBindings =
      [⟨[(⟨"x"⟩, .iri ⟨"b"⟩), (⟨"p"⟩, .iri ⟨"knows"⟩), (⟨"y"⟩, .iri ⟨"c"⟩)]⟩,
        ⟨[(⟨"x"⟩, .iri ⟨"a"⟩), (⟨"p"⟩, .iri ⟨"knows"⟩), (⟨"y"⟩, .iri ⟨"b"⟩)]⟩,
        ⟨[(⟨"x"⟩, .iri ⟨"a"⟩), (⟨"p"⟩, .iri ⟨"age"⟩), (⟨"y"⟩, .literal (.simple "7"))]⟩] :=
    (StablySorted.eq_stableSort (OrderKey.totalPreorderOn_orderAll horder)
      ⟨by decide +kernel, by decide +kernel, by decide +kernel⟩).symm
  have hdigests : ∀ k ∈ sample.keys .standard sampleBindings,
      ∀ k' ∈ sample.keys .standard sampleBindings, sha1 k = sha1 k' → k = k' := by
    have hkeys : sample.keys .standard sampleBindings =
        (sample.sorted RunOptions.standard.evaluator sampleBindings).map
          fun b => ((Projection.mk (.columns [⟨"x"⟩])).solution b).key := rfl
    rw [hkeys, hsorted]
    decide +kernel
  have hanswers : sample.answers .standard sampleBindings =
      [.solution ⟨[(⟨"x"⟩, some (.iri ⟨"a"⟩))]⟩] := by
    have hrows : sample.answers .standard sampleBindings =
        (sample.selected Solution.key ((sample.sorted RunOptions.standard.evaluator
          sampleBindings).map (Projection.mk (.columns [⟨"x"⟩])).solution)).map .solution := rfl
    rw [hrows, hsorted]
    decide +kernel
  rw [← hanswers]
  obtain ⟨t, ht⟩ := hB
  exact ⟨rfl, ⟨t, ht⟩, horder, hdigests,
    sample.delivers_answers Graph.sample.index.matchers rfl ht horder fun _ => hdigests⟩

end Query

end SparqlStream
