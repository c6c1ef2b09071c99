import Mathlib.Tactic
import SparqlStream.Proofs.Reordering

/-!
# The columns of a table without a list

A table without a list of columns declares the variables of the patterns of its query, and takes the
columns of each row from its binding.  The first are read off the query, from left to right.  The
others are bound by searches, slot by slot, and include the variables that stand for blank nodes
until a match is shown.

Both are the first occurrences in one list of variables.  A mandatory search binds all variables of
its patterns, and in this order, behind those that are bound already: `domain_of_mem_answers`.  So
without optional parts and alternatives, what is bound at any place of the query are the variables
of all patterns before it, and in the end every row has exactly the declared columns.  With them, a
row may lack columns or have them in another order, but has no others:
`Query.delivers_declaredColumns`.
-/

namespace SparqlStream

/-! ## First occurrences -/

section FirstOccurrences

variable {α : Type} [DecidableEq α]

/-- What comes last occurs for the first time, or has occurred before. -/
lemma eraseDups_concat (l : List α) (a : α) :
    (l ++ [a]).eraseDups = if a ∈ l then l.eraseDups else l.eraseDups ++ [a] := by
  rw [List.eraseDups_append, List.removeAll]
  split
  · next h => simp [h]
  · next h => simp [h, List.eraseDups_cons]

/-- Without repetitions, items are in the order of their first occurrences. -/
lemma pairwise_idxOf_eraseDups (l : List α) :
    l.eraseDups.Pairwise fun a b => l.idxOf a < l.idxOf b := by
  induction l using List.reverseRecOn with
  | nil => exact .nil
  | append_singleton l a ih =>
    have hold : ∀ {b}, b ∈ l.eraseDups → (l ++ [a]).idxOf b = l.idxOf b :=
      fun hb => List.idxOf_append_of_mem (List.mem_eraseDups.1 hb)
    have hbefore : l.eraseDups.Pairwise fun b c => (l ++ [a]).idxOf b < (l ++ [a]).idxOf c := by
      refine ih.imp_of_mem fun hb hc h => ?_
      rwa [hold hb, hold hc]
    rw [eraseDups_concat]
    split
    · exact hbefore
    · next hnew =>
      refine List.pairwise_append.2 ⟨hbefore, List.pairwise_singleton _ _, fun b hb c hc => ?_⟩
      obtain rfl := List.mem_singleton.1 hc
      rw [hold hb, List.idxOf_append_of_notMem hnew]
      have hlt := List.idxOf_lt_length_of_mem (List.mem_eraseDups.1 hb)
      omega

end FirstOccurrences

lemma Query.firstOccurrences_eq (vs : List Variable) : firstOccurrences vs = vs.eraseDups := by
  induction vs using List.reverseRecOn with
  | nil => rfl
  | append_singleton vs v ih =>
    have hstep : firstOccurrences (vs ++ [v]) =
        if v ∈ firstOccurrences vs then firstOccurrences vs else firstOccurrences vs ++ [v] :=
      List.foldl_concat _ _ _ _
    rw [hstep, eraseDups_concat, ← ih]
    simp only [mem_firstOccurrences]

/-! ## What a search binds -/

section Searches

variable {g : Graph} {index : TripleIndex} {ps : List TriplePattern} {b b' : Binding}

lemma TriplePattern.filterMap_var?_unknowns (p : TriplePattern) :
    p.unknowns.filterMap (·.var?) = p.variables := by
  obtain ⟨s, q, o⟩ := p
  cases s <;> cases q <;> cases o <;> rfl

/-- The variables of some patterns are what is left of their unknowns without blank nodes. -/
lemma filterMap_var?_unknowns (ps : List TriplePattern) :
    (ps.flatMap (·.unknowns)).filterMap (·.var?) = ps.flatMap (·.variables) := by
  rw [List.filterMap_flatMap]
  exact List.flatMap_congr fun p _ => p.filterMap_var?_unknowns

/-- Of the variables of the slots, those that are not hidden are the variables of the patterns. -/
lemma HiddenApart.filter_slots (h : HiddenApart ps b) :
    (((ps.map .ofPattern).flatMap SlotPattern.slots).filterMap (·.var?)).filter
      (· ∉ ps.flatMap (·.hiddenVariables)) = ps.flatMap (·.variables) := by
  rw [filterMap_var?_slots, ← filterMap_var?_unknowns, ← List.filterMap_eq_filter,
    List.filterMap_map]
  refine List.filterMap_congr fun u hu => ?_
  simp only [Function.comp_apply, Option.guard, h.toVariable_mem_hidden hu]
  cases u <;> rfl

/-- A mandatory search shows what it finds without what is hidden. -/
lemma TripleIndex.exists_of_mem_answers (hb' : b' ∈ index.answers ps false b) :
    ∃ found ∈ foundFrom index (ps.map .ofPattern) b,
      b' = found.restrict (· ∉ ps.flatMap (·.hiddenVariables)) := by
  cases ps with
  | nil =>
    rw [answers_nil, List.mem_singleton] at hb'
    refine ⟨b, List.mem_singleton_self b, ?_⟩
    simp [hb', Binding.restrict]
  | cons p ps =>
    rw [answers_cons, if_neg Bool.false_ne_true, Search.orUnmatched_none] at hb'
    obtain ⟨found, hfound, rfl⟩ := List.mem_map.1 hb'
    exact ⟨found, hfound, rfl⟩

/-- If first occurrences in some list are bound, a mandatory search binds those that the variables
of its patterns bring into the list. -/
lemma domain_of_mem_answers (hindex : index.Lists g) (h : HiddenApart ps b) {vs : List Variable}
    (hb : b.domain = vs.eraseDups) (hb' : b' ∈ index.answers ps false b) :
    b'.domain = (vs ++ ps.flatMap (·.variables)).eraseDups := by
  obtain ⟨found, hfound, rfl⟩ := TripleIndex.exists_of_mem_answers hb'
  obtain ⟨⟨a, rfl, ha⟩, -⟩ := (mem_foundFrom hindex).1 hfound
  let shown : Variable → Bool := (· ∉ ps.flatMap (·.hiddenVariables))
  have hold : b.domain.filter shown = b.domain :=
    List.filter_eq_self.2 fun v hv => decide_eq_true fun hhidden => (h v hhidden).2 hv
  have hnew : (a.map Prod.fst).filter shown =
      ((ps.flatMap (·.variables)).removeAll vs).eraseDups := by
    have hbound : ∀ v, (!b.contains v) = !vs.elem v := by
      intro v
      rw [Bool.eq_iff_iff]
      simp [Binding.contains_eq_false, hb]
    rw [ha, openVariables, filter_eraseDups, List.filter_comm, h.filter_slots, List.removeAll]
    simp only [hbound]
  have hdomain : ∀ c : Binding, (c.restrict shown).domain = c.domain.filter shown := by
    intro c
    rw [Binding.domain, Binding.domain, Binding.restrict, List.filter_map]
    rfl
  rw [hdomain, Binding.domain_append, List.filter_append, hold, hnew, hb, List.eraseDups_append]

end Searches

/-! ## Groups without optional parts and alternatives -/

namespace Group

mutual

/-- Whether a group has neither optional parts nor alternatives. -/
def isConjunctive : Group → Bool
  | pattern _ => true
  | sequence children => allConjunctive children
  | .optional _ => false
  | union _ => false
  | filter _ inner => isConjunctive inner

/-- Whether some groups have neither optional parts nor alternatives. -/
def allConjunctive : List Group → Bool
  | [] => true
  | first :: rest => isConjunctive first && allConjunctive rest

end

variable {g : Graph} {index : TripleIndex} {eval : Evaluator}

mutual

/-- A conjunctive group binds the variables of its patterns in the order of their first
occurrences, behind what is bound already. -/
theorem domain_of_mem_solutionsBy (hindex : index.Lists g) {vs : List Variable} {b b' : Binding}
    (hvs : ∀ v ∈ vs, v.isReserved = false) (hb : b.domain = vs.eraseDups) :
    (group : Group) → group.isConjunctive = true → PlainPatterns group.triplePatterns →
      b' ∈ group.solutionsBy index.answers eval false b →
        b'.domain = (vs ++ group.triplePatterns.flatMap (·.variables)).eraseDups
  | .pattern ps, _, hplain, hb' => by
    rw [solutionsBy] at hb'
    have hbplain : b.IsPlain := fun v hv => hvs v (List.mem_eraseDups.1 (hb ▸ hv))
    exact domain_of_mem_answers hindex (PlainPatterns.hiddenApart hplain hbplain) hb hb'
  | .sequence children, hgroup, hplain, hb' => by
    rw [solutionsBy] at hb'
    rw [isConjunctive] at hgroup
    rw [triplePatterns] at hplain ⊢
    exact domain_of_mem_solutionsInTurnBy hindex hvs hb children hgroup hplain hb'
  | .optional _, hgroup, _, _ => by
    rw [isConjunctive] at hgroup
    cases hgroup
  | .union _, hgroup, _, _ => by
    rw [isConjunctive] at hgroup
    cases hgroup
  | .filter condition inner, hgroup, hplain, hb' => by
    rw [solutionsBy] at hb'
    rw [isConjunctive] at hgroup
    rw [triplePatterns] at hplain ⊢
    exact domain_of_mem_solutionsBy hindex hvs hb inner hgroup hplain (List.mem_filter.1 hb').1

theorem domain_of_mem_solutionsInTurnBy (hindex : index.Lists g) {vs : List Variable}
    {b b' : Binding} (hvs : ∀ v ∈ vs, v.isReserved = false) (hb : b.domain = vs.eraseDups) :
    (groups : List Group) → allConjunctive groups = true →
      PlainPatterns (allTriplePatterns groups) →
      b' ∈ solutionsInTurnBy index.answers eval false b groups →
        b'.domain = (vs ++ (allTriplePatterns groups).flatMap (·.variables)).eraseDups
  | [], _, _, hb' => by
    rw [solutionsInTurnBy, List.mem_singleton] at hb'
    rw [hb', hb, allTriplePatterns, List.flatMap_nil, List.append_nil]
  | first :: rest, hgroups, hplain, hb' => by
    rw [solutionsInTurnBy] at hb'
    rw [allConjunctive, Bool.and_eq_true] at hgroups
    rw [allTriplePatterns] at hplain ⊢
    obtain ⟨b₁, hb₁, hb'⟩ := List.mem_flatMap.1 hb'
    have hfirst := domain_of_mem_solutionsBy hindex hvs hb first hgroups.1 hplain.left hb₁
    -- what the first group brings in is plain, too, so the rest binds behind both
    have hvs' : ∀ v ∈ vs ++ first.triplePatterns.flatMap (·.variables), v.isReserved = false :=
      fun v hv => (List.mem_append.1 hv).elim (hvs v) (hplain.left v)
    rw [List.flatMap_append, ← List.append_assoc]
    exact domain_of_mem_solutionsInTurnBy hindex hvs' hfirst rest hgroups.2 hplain.right hb'

end

end Group

/-! ## Rows -/

namespace Query

variable {g : Graph} {index : TripleIndex} {q : Query} {eval : Evaluator} {b : Binding}

lemma columns_ofBinding (b : Binding) : (Solution.ofBinding b).columns = b.domain := by
  rw [Solution.columns, Solution.ofBinding, List.map_map, Binding.domain]
  rfl

/-- Without a list of columns, all values of a row are there. -/
lemma isSome_of_mem_values {value : Option Term} (h : value ∈ (Solution.ofBinding b).values) :
    value.isSome = true := by
  rw [Solution.values, Solution.ofBinding, List.map_map] at h
  obtain ⟨e, -, rfl⟩ := List.mem_map.1 h
  rfl

/-- The variables of the patterns of a query from left to right, repetitions included. -/
def patternVariables (q : Query) : List Variable :=
  (Group.allTriplePatterns q.groups).flatMap (·.variables)

lemma visibleVariables_eq (q : Query) : q.visibleVariables = q.patternVariables.eraseDups :=
  firstOccurrences_eq _

/-- A row has no columns that are not declared, and none twice. -/
lemma columns_of_mem_rows (hindex : index.Lists g) {r : Solution}
    (hr : r ∈ q.rows .all index eval) :
    r.columns.Nodup ∧ ∀ v ∈ r.columns, v ∈ q.visibleVariables := by
  obtain ⟨b, hb, rfl⟩ := List.mem_map.1 hr
  have hcolumns : ((Projection.mk .all).solution b).columns = b.domain := columns_ofBinding b
  rw [hcolumns]
  refine ⟨Group.nodup_domain_of_mem hindex hb, fun v hv => ?_⟩
  obtain ⟨e, he, rfl⟩ := List.mem_map.1 hv
  exact mem_firstOccurrences.2 (Group.isOver_of_mem hindex hb e he).1

/-- Without optional parts and alternatives, a row has all columns that are declared, in order. -/
lemma columns_eq_of_mem_rows (hindex : index.Lists g)
    (hgroups : Group.allConjunctive q.groups = true)
    (hplain : PlainPatterns (Group.allTriplePatterns q.groups)) {r : Solution}
    (hr : r ∈ q.rows .all index eval) :
    r.columns = q.visibleVariables ∧ ∀ value ∈ r.values, value.isSome = true := by
  obtain ⟨b, hb, rfl⟩ := List.mem_map.1 hr
  refine ⟨?_, fun value hvalue => isSome_of_mem_values hvalue⟩
  have hcolumns : ((Projection.mk .all).solution b).columns = b.domain := columns_ofBinding b
  have hempty : Binding.empty.domain = ([] : List Variable).eraseDups := rfl
  rw [hcolumns, visibleVariables_eq, Group.domain_of_mem_solutionsInTurnBy hindex
    (List.forall_mem_nil _) hempty q.groups hgroups hplain hb]
  rfl

/-- **Declared columns.**  A table without a list of columns declares the variables of the patterns
of all groups, each of them once and in the order of their first occurrences.  Each row that is
shown has different columns, and only declared ones.  If no group is optional or has alternatives,
and no variable has a reserved name, each row has exactly the declared columns, in their order, and
a value in each of them. -/
theorem delivers_declaredColumns (hindex : index.Lists g) (hform : q.form = .select .all)
    (options : RunOptions) :
    (q.visibleVariables.Nodup ∧ (∀ v, v ∈ q.visibleVariables ↔ v ∈ q.patternVariables) ∧
      q.visibleVariables.Pairwise fun v w =>
        q.patternVariables.idxOf v < q.patternVariables.idxOf w) ∧
    (∃ stream, (q.run index.matchers options).1 = .solutions q.visibleVariables stream) ∧
    ∃ (rows : List Solution) (t : RunningResults Search),
      Flow.Delivers false (q.run index.matchers options).1 (rows.map .solution) t ∧
      (∀ r ∈ rows, r.columns.Nodup ∧ ∀ v ∈ r.columns, v ∈ q.visibleVariables) ∧
      (Group.allConjunctive q.groups = true →
        PlainPatterns (Group.allTriplePatterns q.groups) → ∀ r ∈ rows,
          r.columns = q.visibleVariables ∧ ∀ value ∈ r.values, value.isSome = true) := by
  refine ⟨⟨?_, fun v => mem_firstOccurrences, ?_⟩, ?_, ?_⟩
  · rw [visibleVariables_eq]
    exact nodup_eraseDups _
  · rw [visibleVariables_eq]
    exact pairwise_idxOf_eraseDups _
  · rw [run, hform]
    exact ⟨_, rfl⟩
  · obtain ⟨l, t, hl, hperm⟩ := q.exists_delivers_select index options hform
    have hrows : ∀ r ∈ q.selected (fun r => sha1 r.key) l,
        r ∈ q.rows .all index options.evaluator :=
      fun r hr => hperm.mem_iff.1 ((q.selected_sublist _ l).subset hr)
    exact ⟨_, t, hl, fun r hr => columns_of_mem_rows hindex (hrows r hr),
      fun hgroups hplain r hr => columns_eq_of_mem_rows hindex hgroups hplain (hrows r hr)⟩

/-- Who knows somebody about whom there is something, with somebody else about whom the same is
said. -/
def declaredSample : Query where
  form := .select .all
  groups := [.pattern [⟨.var ⟨"x"⟩, .iri ⟨"knows"⟩, .blank ⟨"n"⟩⟩,
      ⟨.blank ⟨"n"⟩, .var ⟨"p"⟩, .var ⟨"y"⟩⟩],
    .filter (.bound ⟨"p"⟩) (.sequence [.pattern [⟨.var ⟨"z"⟩, .var ⟨"p"⟩, .var ⟨"y"⟩⟩]])]
  order := [⟨.var ⟨"z"⟩, true⟩]
  offset := 0
  limit := some 3
  distinct := true

theorem delivers_declaredColumns_sample :
    Graph.sample.index.Lists Graph.sample ∧ declaredSample.form = .select .all ∧
      Group.allConjunctive declaredSample.groups = true ∧
      PlainPatterns (Group.allTriplePatterns declaredSample.groups) ∧
      ∃ (rows : List Solution) (t : RunningResults Search),
        Flow.Delivers false (declaredSample.run Graph.sample.index.matchers .standard).1
          (rows.map .solution) t ∧
        ∀ r ∈ rows, r.columns = [⟨"x"⟩, ⟨"p"⟩, ⟨"y"⟩, ⟨"z"⟩] ∧
          ∀ value ∈ r.values, value.isSome = true := by
  have hgroups : Group.allConjunctive declaredSample.groups = true := by decide
  have hplain : PlainPatterns (Group.allTriplePatterns declaredSample.groups) := by decide +kernel
  have hdeclared : declaredSample.visibleVariables = [⟨"x"⟩, ⟨"p"⟩, ⟨"y"⟩, ⟨"z"⟩] := by decide
  obtain ⟨-, -, rows, t, hrows, -, hall⟩ :=
    delivers_declaredColumns (q := declaredSample) Graph.sample.lists_index rfl .standard
  rw [hdeclared] at hall
  exact ⟨Graph.sample.lists_index, rfl, hgroups, hplain, rows, t, hrows, hall hgroups hplain⟩

end Query

end SparqlStream
