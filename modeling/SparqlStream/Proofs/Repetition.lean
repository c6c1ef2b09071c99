import Mathlib.Tactic
import SparqlStream.Proofs.Answers
import SparqlStream.Proofs.RowKeys

/-!
# Tables without repetitions

Repeated rows are found by the texts of rows, and the text of a row lists its cells in their order.
So what is removed are the rows with the same cells in the same order.  Rows of a fixed list of
columns have the same cells as soon as they assign the same terms to the same variables.  A table
without a list takes the columns of each row from its binding, and two bindings may bind the same
variables in different orders, as the alternatives of a union do: both rows are shown.

`Query.delivers_distinct` says exactly when no two rows that are shown assign the same terms to the
same variables.  Nothing is lost in any case: each row is shown or agrees with one that is shown.
-/

namespace SparqlStream

/-! ## Rows that agree -/

namespace Solution

/-- Two rows assign the same terms to the same variables.  Cells without a term and the order of the
cells do not count. -/
def Agrees (r r' : Solution) : Prop := ∀ cell, cell ∈ r.bound ↔ cell ∈ r'.bound

instance (r r' : Solution) : Decidable (r.Agrees r') :=
  decidable_of_iff ((∀ cell ∈ r.bound, cell ∈ r'.bound) ∧ ∀ cell ∈ r'.bound, cell ∈ r.bound)
    ⟨fun h cell => ⟨h.1 cell, h.2 cell⟩, fun h => ⟨fun cell => (h cell).1, fun cell => (h cell).2⟩⟩

lemma Agrees.refl (r : Solution) : r.Agrees r := fun _ => Iff.rfl

lemma Agrees.symm {r r' : Solution} (h : r.Agrees r') : r'.Agrees r := fun cell => (h cell).symm

lemma mem_bound {r : Solution} {v : Variable} {t : Term} :
    (v, t) ∈ r.bound ↔ (v, some t) ∈ r.cells := by
  rw [bound, List.mem_filterMap]
  constructor
  · rintro ⟨⟨v', o⟩, hcell, ho⟩
    obtain ⟨t', rfl, heq⟩ := Option.map_eq_some_iff.1 ho
    cases heq
    exact hcell
  · exact fun hcell => ⟨(v, some t), hcell, rfl⟩

variable {columns : List Variable} {b b' : Binding}

lemma mem_bound_ofColumns {v : Variable} {t : Term} : (v, t) ∈ (ofColumns columns b).bound ↔
    v ∈ columns ∧ (b.get? v).map Term.deskolemize = some t := by
  rw [mem_bound, ofColumns, List.mem_map]
  constructor
  · rintro ⟨v', hv', heq⟩
    obtain ⟨rfl, ht⟩ := Prod.mk.inj heq
    exact ⟨hv', ht⟩
  · rintro ⟨hv, ht⟩
    exact ⟨v, hv, by rw [ht]⟩

/-- Rows of the same columns that agree are the same. -/
lemma Agrees.ofColumns_eq (h : (ofColumns columns b).Agrees (ofColumns columns b')) :
    ofColumns columns b = ofColumns columns b' := by
  refine congrArg mk (List.map_congr_left fun v hv => Prod.ext rfl (Option.ext fun t => ?_))
  have hcell := h (v, t)
  rw [mem_bound_ofColumns, mem_bound_ofColumns, and_iff_right hv, and_iff_right hv] at hcell
  exact hcell

/-! ## Rows that are told apart -/

/-- Where the columns are known, their names may be any texts. -/
lemma values_eq_of_key_eq {f f' : Variable → Option Term}
    (hf : ∀ v ∈ columns, ∀ t ∈ f v, t.IsTabFree) (hf' : ∀ v ∈ columns, ∀ t ∈ f' v, t.IsTabFree)
    (h : (columns.flatMap fun v => (cellKey (v, f v)).toList) =
      columns.flatMap fun v => (cellKey (v, f' v)).toList) : ∀ v ∈ columns, f v = f' v := by
  induction columns with
  | nil => exact List.forall_mem_nil _
  | cons v columns ih =>
    rw [List.forall_mem_cons] at hf hf' ⊢
    rw [List.flatMap_cons, List.flatMap_cons, toList_cellKey, toList_cellKey] at h
    simp only [List.cons_append, List.append_assoc, List.nil_append, List.cons.injEq, true_and,
      List.append_cancel_left_eq] at h
    obtain ⟨hvalue, hrest⟩ :=
      append_delimiter_inj (tab_notMem_value hf.1) (tab_notMem_value hf'.1) h
    exact ⟨value_inj (String.toList_inj.1 hvalue), ih hf.2 hf'.2 hrest⟩

lemma ofColumns_eq_of_key_eq (hb : ∀ e ∈ b.entries, e.2.IsTabFree)
    (hb' : ∀ e ∈ b'.entries, e.2.IsTabFree)
    (h : (ofColumns columns b).key = (ofColumns columns b').key) :
    ofColumns columns b = ofColumns columns b' := by
  have hvalue : ∀ {c : Binding}, (∀ e ∈ c.entries, e.2.IsTabFree) → ∀ v ∈ columns,
      ∀ t ∈ (c.get? v).map Term.deskolemize, t.IsTabFree := by
    intro c hc v _ t ht
    obtain ⟨x, hx, rfl⟩ := Option.map_eq_some_iff.1 ht
    exact (hc _ (Binding.mem_entries_of_get? hx)).deskolemize
  have hkeys := congrArg String.toList h
  rw [toList_key, toList_key, ofColumns, ofColumns, List.flatMap_map, List.flatMap_map] at hkeys
  have hvalues := values_eq_of_key_eq (hvalue hb) (hvalue hb') hkeys
  exact congrArg mk (List.map_congr_left fun v hv => congrArg (Prod.mk v) (hvalues v hv))

end Solution

/-- The rows of some bindings are told apart by the digests of their texts: terms are written
without tabs, variables that name columns of their own without equals signs, and no two texts have
the same digest. -/
structure Selection.TellsApart (s : Selection) (B : List Binding) : Prop where
  terms : ∀ b ∈ B, ∀ e ∈ b.entries, e.2.IsTabFree
  names : s = .all → ∀ b ∈ B, ∀ v ∈ b.domain, '=' ∉ v.name.toList
  digests : ∀ b ∈ B, ∀ b' ∈ B,
    sha1 ((Projection.mk s).solution b).key = sha1 ((Projection.mk s).solution b').key →
      ((Projection.mk s).solution b).key = ((Projection.mk s).solution b').key

/-- Rows with the same digest are the same. -/
lemma Selection.TellsApart.solution_eq {s : Selection} {B : List Binding} (h : s.TellsApart B)
    {b b' : Binding} (hb : b ∈ B) (hb' : b' ∈ B)
    (hdigest : sha1 ((Projection.mk s).solution b).key =
      sha1 ((Projection.mk s).solution b').key) :
    (Projection.mk s).solution b = (Projection.mk s).solution b' := by
  have hkey := h.digests b hb b' hb' hdigest
  cases s with
  | all =>
    exact Solution.key_inj (Solution.isLegible_ofBinding (h.terms b hb) (h.names rfl b hb))
      (Solution.isLegible_ofBinding (h.terms b' hb') (h.names rfl b' hb')) hkey
  | columns vs => exact Solution.ofColumns_eq_of_key_eq (h.terms b hb) (h.terms b' hb') hkey

/-! ## First rows -/

section Firsts

variable {α κ : Type} [BEq κ] [LawfulBEq κ] {key : α → κ} {l : List α}

/-- No two first items have the same key. -/
lemma pairwise_firsts : (firsts key l).Pairwise fun a b => key a ≠ key b := by
  have hnodup := nodup_eraseDups (l.map key)
  rw [← map_firsts] at hnodup
  exact List.pairwise_map.1 hnodup

/-- Each key has a first item. -/
lemma exists_mem_firsts {a : α} (h : a ∈ l) : ∃ b ∈ firsts key l, key b = key a := by
  have hmem : key a ∈ (firsts key l).map key := by
    rw [map_firsts, List.mem_eraseDups]
    exact List.mem_map_of_mem h
  exact List.mem_map.1 hmem

/-- Where items with the same key are the same, all items are among the first ones. -/
lemma mem_firsts (hkey : ∀ a ∈ l, ∀ b ∈ l, key a = key b → a = b) {a : α} :
    a ∈ firsts key l ↔ a ∈ l := by
  refine ⟨fun h => (firsts_sublist key l).subset h, fun h => ?_⟩
  obtain ⟨b, hb, hab⟩ : ∃ b ∈ firsts key l, key b = key a := exists_mem_firsts h
  rwa [← hkey b ((firsts_sublist key l).subset hb) a h hab]

/-- Where items with the same key are the same, no two first items are alike exactly if only the
same items are alike. -/
lemma pairwise_firsts_iff {R : α → α → Prop} (hsymm : ∀ a b, R a b → R b a)
    (hkey : ∀ a ∈ l, ∀ b ∈ l, key a = key b → a = b) :
    (firsts key l).Pairwise (fun a b => ¬ R a b) ↔ ∀ a ∈ l, ∀ b ∈ l, R a b → a = b := by
  constructor
  · intro h a ha b hb hab
    by_contra hne
    have hnot : Std.Symm fun a b => ¬ R a b := ⟨fun a b hab hba => hab (hsymm b a hba)⟩
    exact h.forall ((mem_firsts hkey).2 ha) ((mem_firsts hkey).2 hb) hne hab
  · intro h
    have hkeys : (firsts key l).Pairwise fun a b => key a ≠ key b := pairwise_firsts
    refine hkeys.imp_of_mem fun {a b} ha hb hne hab => hne ?_
    rw [h a ((firsts_sublist key l).subset ha) b ((firsts_sublist key l).subset hb) hab]

end Firsts

namespace Query

variable {μ : Type} [Operator μ Binding Binding ResultsError] {q : Query} {s : Selection}
  {t : Pipeline μ} {mayWait : Bool}

/-- **Tables without repetitions.**  Take a query for a table without repetitions that neither drops
nor limits rows, and let its groups deliver bindings whose rows are told apart.  The table shows
rows of the query with repetitions, and each of these rows agrees with one that is shown.  No two
rows that are shown agree exactly if rows that agree have the same cells in the same order, and this
is always so if the query lists its columns. -/
theorem delivers_distinct (hform : q.form = .select s) (hdistinct : q.distinct = true)
    (hoffset : q.offset = 0) (hlimit : q.limit = none) (matchers : MatcherSupply μ)
    (options : RunOptions) {B : List Binding}
    (hB : Flow.Delivers mayWait (Pipeline.ofGroups matchers options.evaluator q.allGroups).1 B t)
    (htells : s.TellsApart B) :
    ∃ (rows shown : List Solution) (t₁ t₂ : RunningResults μ),
      Flow.Delivers mayWait ({ q with distinct := false }.run matchers options).1
        (rows.map .solution) t₁ ∧
      Flow.Delivers mayWait (q.run matchers options).1 (shown.map .solution) t₂ ∧
      rows.Perm (B.map (Projection.mk s).solution) ∧
      (∀ r ∈ shown, r ∈ rows) ∧ (∀ r ∈ rows, ∃ r' ∈ shown, r.Agrees r') ∧
      ((shown.Pairwise fun r r' => ¬ r.Agrees r') ↔
        ∀ r ∈ rows, ∀ r' ∈ rows, r.Agrees r' → r = r') ∧
      ∀ columns, s = .columns columns → shown.Pairwise fun r r' => ¬ r.Agrees r' := by
  obtain ⟨B', t', hB', hperm⟩ :=
    Pipeline.exists_delivers_orderByAll options.evaluator options.window q.order hB
  let rows := B'.map (Projection.mk s).solution
  let key : Solution → String := fun r => sha1 r.key
  have hkey : ∀ r ∈ rows, ∀ r' ∈ rows, key r = key r' → r = r' := by
    intro r hr r' hr' hdigest
    obtain ⟨b, hb, rfl⟩ := List.mem_map.1 hr
    obtain ⟨b', hb', rfl⟩ := List.mem_map.1 hr'
    exact htells.solution_eq (hperm.mem_iff.1 hb) (hperm.mem_iff.1 hb') hdigest
  have hpairwise := pairwise_firsts_iff (R := Solution.Agrees) (fun _ _ h => h.symm) hkey
  have hrows : { q with distinct := false }.selected key rows = rows :=
    selected_eq_self (q := { q with distinct := false }) hoffset hlimit rfl key rows
  have hshown : q.selected key rows = firsts key rows := by
    rw [selected, hoffset, hlimit, Slice.part_whole, if_pos hdistinct]
  obtain ⟨t₁, h₁⟩ := { q with distinct := false }.delivers_select hform hB'
  obtain ⟨t₂, h₂⟩ := q.delivers_select hform hB'
  rw [hrows] at h₁
  rw [hshown] at h₂
  refine ⟨rows, firsts key rows, t₁, t₂, h₁, h₂, hperm.map _,
    fun r hr => (firsts_sublist key rows).subset hr,
    fun r hr => ⟨r, (mem_firsts hkey).2 hr, .refl r⟩, hpairwise, ?_⟩
  rintro columns rfl
  refine hpairwise.2 fun r hr r' hr' hagrees => ?_
  obtain ⟨b, -, rfl⟩ := List.mem_map.1 hr
  obtain ⟨b', -, rfl⟩ := List.mem_map.1 hr'
  exact hagrees.ofColumns_eq

/-- Two who know each other, which is stated from both sides. -/
def sidesGraph : Graph :=
  .ofList [⟨.iri ⟨"a"⟩, ⟨"knows"⟩, .iri ⟨"b"⟩⟩, ⟨.iri ⟨"b"⟩, ⟨"knownBy"⟩, .iri ⟨"a"⟩⟩]

/-- Who knows whom, from one side or from the other one, each pair once. -/
def sidesSample (s : Selection) : Query where
  form := .select s
  groups := [.union [.pattern [⟨.var ⟨"x"⟩, .iri ⟨"knows"⟩, .var ⟨"y"⟩⟩],
    .pattern [⟨.var ⟨"y"⟩, .iri ⟨"knownBy"⟩, .var ⟨"x"⟩⟩]]]
  order := []
  offset := 0
  limit := none
  distinct := true

/-- What is found from one side, and then from the other one. -/
def sidesBindings : List Binding :=
  [⟨[(⟨"x"⟩, .iri ⟨"a"⟩), (⟨"y"⟩, .iri ⟨"b"⟩)]⟩, ⟨[(⟨"y"⟩, .iri ⟨"b"⟩), (⟨"x"⟩, .iri ⟨"a"⟩)]⟩]

theorem delivers_distinct_sample :
    (∃ t, Flow.Delivers false (Pipeline.ofGroups sidesGraph.index.matchers
      RunOptions.standard.evaluator (sidesSample (.columns [⟨"x"⟩, ⟨"y"⟩])).allGroups).1
        sidesBindings t) ∧
      (Selection.columns [⟨"x"⟩, ⟨"y"⟩]).TellsApart sidesBindings ∧
      ∃ (rows shown : List Solution) (t : RunningResults Search),
        Flow.Delivers false ((sidesSample (.columns [⟨"x"⟩, ⟨"y"⟩])).run
          sidesGraph.index.matchers .standard).1 (shown.map .solution) t ∧
        rows.length = 2 ∧ (∀ r ∈ rows, ∃ r' ∈ shown, r.Agrees r') ∧
        shown.Pairwise fun r r' => ¬ r.Agrees r' := by
  have hB : ∃ t, Flow.Delivers false (Pipeline.ofGroups sidesGraph.index.matchers
      RunOptions.standard.evaluator (sidesSample (.columns [⟨"x"⟩, ⟨"y"⟩])).allGroups).1
        sidesBindings t :=
    Flow.delivers_of_collect 40 (by decide +kernel)
  have htells : (Selection.columns [⟨"x"⟩, ⟨"y"⟩]).TellsApart sidesBindings :=
    { terms := by decide +kernel
      names := fun h => nomatch h
      digests := by decide +kernel }
  obtain ⟨t, ht⟩ := hB
  obtain ⟨rows, shown, -, t₂, -, h₂, hperm, -, hcovered, -, hcolumns⟩ :=
    delivers_distinct rfl rfl rfl rfl sidesGraph.index.matchers .standard ht htells
  exact ⟨⟨t, ht⟩, htells, rows, shown, t₂, h₂, hperm.length_eq, hcovered, hcolumns _ rfl⟩

/-- Without a list of columns, a row is shown again if its variables have been bound in another
order. -/
theorem delivers_distinct_twice :
    (∃ t, Flow.Delivers false ((sidesSample .all).run sidesGraph.index.matchers .standard).1
      [.solution ⟨[(⟨"x"⟩, some (.iri ⟨"a"⟩)), (⟨"y"⟩, some (.iri ⟨"b"⟩))]⟩,
        .solution ⟨[(⟨"y"⟩, some (.iri ⟨"b"⟩)), (⟨"x"⟩, some (.iri ⟨"a"⟩))]⟩] t) ∧
      Solution.Agrees ⟨[(⟨"x"⟩, some (.iri ⟨"a"⟩)), (⟨"y"⟩, some (.iri ⟨"b"⟩))]⟩
        ⟨[(⟨"y"⟩, some (.iri ⟨"b"⟩)), (⟨"x"⟩, some (.iri ⟨"a"⟩))]⟩ :=
  ⟨Flow.delivers_of_collect 40 (by decide +kernel), by decide +kernel⟩

end Query

end SparqlStream
