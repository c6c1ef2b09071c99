import Mathlib.Tactic
import SparqlStream.Proofs.Sideways

/-!
# From patterns to groups

The group of a safe pattern, given a binding, has the solutions of the pattern joined with the
binding: `Group.Answers.solves`.  There is one lemma for each kind of pattern, and each of them is
a law of the algebra.  Flattening does not matter, because the members of a group in turn, and its
alternatives side by side, do what the group does.
-/

namespace SparqlStream

open Binding

/-! ## Variables in scope -/

namespace GraphPattern

variable {g : Graph} {outside : List Variable} {p : GraphPattern} {b : Binding} {v : Variable}

lemma mem_domain_extensions {ps : List TriplePattern} {b' : Binding}
    (hb' : b' ∈ g.extensions ps b) (hv : v ∈ b'.domain) : v ∈ b.domain ∨ v ∈ (bgp ps).inScope := by
  obtain ⟨a, ha, rfl⟩ := List.mem_map.1 hb'
  obtain ⟨t, ht⟩ := mem_domain_iff.1 hv
  rw [get?_extendBy, valuation, Option.or_eq_some_iff] at ht
  rcases ht with ht | ⟨-, ht⟩
  · exact .inl (mem_domain_iff.2 ⟨t, ht⟩)
  · have hkey := exists_lookup_iff.1 ⟨t, ht⟩
    rw [(mem_satisfying.1 ha).1] at hkey
    exact .inr (mem_variables (mem_openUnknowns.1 hkey).1)

/-- The solutions of a pattern bind variables in its scope only. -/
theorem mem_inScope (hp : p.Safe g outside) (hb : b ∈ p.solutions g) (hv : v ∈ b.domain) :
    v ∈ p.inScope := by
  induction hp generalizing b with
  | bgp _ => exact (mem_domain_extensions hb hv).resolve_left (List.not_mem_nil)
  | join _ _ ihl ihr =>
    obtain ⟨a, ha, hb⟩ := List.mem_flatMap.1 hb
    obtain ⟨r, hr, -, rfl⟩ := mem_joinWith.1 hb
    exact List.mem_append.2 ((mem_domain_merge.1 hv).imp (ihl ha) (ihr hr))
  | union _ _ ihl ihr =>
    exact List.mem_append.2 ((List.mem_append.1 hb).imp (ihl · hv) (ihr · hv))
  | filter _ _ ih => exact ih (List.mem_filter.1 hb).1 hv
  | leftJoin _ _ _ ih =>
    obtain ⟨a, ha, hb⟩ := List.mem_flatMap.1 hb
    rw [leftJoinWith] at hb
    split at hb
    · rw [List.mem_singleton] at hb
      rw [hb] at hv
      exact List.mem_append_left _ (ih ha hv)
    · obtain ⟨r, hr, -, rfl⟩ := mem_joinWith.1 hb
      refine List.mem_append.2 ((mem_domain_merge.1 hv).imp (ih ha) fun hv => ?_)
      exact (mem_domain_extensions hr hv).resolve_left (List.not_mem_nil)

end GraphPattern

/-! ## Members and alternatives -/

namespace Group

variable {g : Graph} {eval : Evaluator} {b : Binding} {optional : Bool}

lemma solutionsInTurn_singleton (group : Group) :
    solutionsInTurn g eval optional b [group] = group.solutions g eval optional b := by
  rw [solutionsInTurn]
  simp only [solutionsInTurn]
  exact List.flatMap_singleton' _

lemma solutionsAside_singleton (group : Group) :
    solutionsAside g eval b [group] = group.solutions g eval false b := by
  rw [solutionsAside, solutionsAside, List.append_nil]

lemma solutionsInTurn_append (l r : List Group) :
    solutionsInTurn g eval optional b (l ++ r) =
      (solutionsInTurn g eval optional b l).flatMap (solutionsInTurn g eval optional · r) := by
  induction l generalizing b with
  | nil => rw [List.nil_append, solutionsInTurn, List.flatMap_singleton]
  | cons group l ih =>
    rw [List.cons_append, solutionsInTurn, solutionsInTurn, List.flatMap_assoc]
    exact List.flatMap_congr fun b _ => ih

lemma solutionsAside_append (l r : List Group) :
    solutionsAside g eval b (l ++ r) = solutionsAside g eval b l ++ solutionsAside g eval b r := by
  induction l with
  | nil => rw [List.nil_append, solutionsAside, List.nil_append]
  | cons group l ih =>
    rw [List.cons_append, solutionsAside, solutionsAside, ih, List.append_assoc]

/-- The members of a group in turn do what the group does. -/
lemma solutionsInTurn_members (group : Group) :
    solutionsInTurn g eval false b group.members = group.solutions g eval false b := by
  cases group with
  | sequence children => rw [members, solutions]
  | pattern _ | «optional» _ | union _ | filter _ _ => exact solutionsInTurn_singleton _

/-- The alternatives of a group side by side do what the group does, if it has any. -/
lemma solutionsAside_alternatives {group : Group} (h : group.alternatives ≠ []) :
    solutionsAside g eval b group.alternatives = group.solutions g eval false b := by
  cases group with
  | union children =>
    cases children with
    | nil => exact absurd rfl h
    | cons first rest => rw [alternatives, solutionsAside, solutions]
  | pattern _ | «optional» _ | sequence _ | filter _ _ =>
    exact solutionsAside_singleton _

lemma allTriplePatterns_append (l r : List Group) :
    allTriplePatterns (l ++ r) = allTriplePatterns l ++ allTriplePatterns r := by
  induction l with
  | nil => rw [List.nil_append, allTriplePatterns, List.nil_append]
  | cons group l ih => rw [List.cons_append, allTriplePatterns, allTriplePatterns, ih,
      List.append_assoc]

lemma allTriplePatterns_members (group : Group) :
    allTriplePatterns group.members = group.triplePatterns := by
  cases group <;> simp [members, triplePatterns, allTriplePatterns]

lemma allTriplePatterns_alternatives (group : Group) :
    allTriplePatterns group.alternatives = group.triplePatterns := by
  cases group <;> simp [alternatives, triplePatterns, allTriplePatterns]

/-! ## Groups that answer patterns -/

/-- A group answers a pattern: given a binding of variables that occur outside, it has the solutions
of the pattern joined with the binding. -/
structure Answers (g : Graph) (outside : List Variable) (p : GraphPattern) (group : Group) :
    Prop where
  ok : Group.ofPattern p = .ok group
  alternatives_ne_nil : group.alternatives ≠ []
  plain : PlainPatterns group.triplePatterns
  solves : ∀ b : Binding, (∀ v ∈ b.domain, v ∈ outside) →
    meanings (group.solutions g Expression.evaluate false b : Multiset Binding) =
      meanings (b.joinWith (p.solutions g) : Multiset Binding)

variable {outside : List Variable} {p l r : GraphPattern} {group left right : Group}
  {ps : List TriplePattern}

/-- What a group shows for a binding binds what the binding binds and what is in scope. -/
lemma Answers.mem_domain (h : group.Answers g outside p) (hp : p.Safe g outside)
    (hb : ∀ v ∈ b.domain, v ∈ outside) {b' : Binding} {v : Variable}
    (hb' : b' ∈ group.solutions g Expression.evaluate false b) (hv : v ∈ b'.domain) :
    v ∈ b.domain ∨ v ∈ p.inScope := by
  obtain ⟨c, hc, heq⟩ := exists_of_meanings (h.solves b hb) (Multiset.mem_coe.2 hb')
  obtain ⟨a, ha, -, rfl⟩ := mem_joinWith.1 (Multiset.mem_coe.1 hc)
  rw [← mem_domain_congr heq, mem_domain_merge] at hv
  exact hv.imp_right (GraphPattern.mem_inScope hp ha)

lemma answers_bgp (hps : PlainPatterns ps) :
    ∃ group, Answers g outside (.bgp ps) group := by
  cases ps with
  | nil =>
    refine ⟨.sequence [], rfl, List.cons_ne_nil _ _, hps, fun b _ => ?_⟩
    have hperm := extensions_perm g [] b
    rw [Graph.extensions_nil g b] at hperm
    rw [GraphPattern.solutions, Multiset.coe_eq_coe.2 hperm, solutions, solutionsInTurn]
  | cons p ps =>
    refine ⟨.pattern (p :: ps), rfl, List.cons_ne_nil _ _, hps, fun b _ => ?_⟩
    rw [GraphPattern.solutions, Multiset.coe_eq_coe.2 (extensions_perm g (p :: ps) b), solutions,
      Graph.solutions, Bool.false_and, if_neg Bool.false_ne_true]

/-- What comes after a group makes of its solutions what it makes of the joined ones. -/
lemma Answers.meanings_flatMap (h : group.Answers g outside p) (hp : p.Safe g outside)
    (hb : ∀ v ∈ b.domain, v ∈ outside) {f f' : Binding → List Binding}
    (hf : ∀ b' c : Binding, (∀ v ∈ b'.domain, v ∈ b.domain ∨ v ∈ p.inScope) → b'.get? = c.get? →
      meanings (f b' : Multiset Binding) = meanings (f' c : Multiset Binding)) :
    meanings ((group.solutions g Expression.evaluate false b).flatMap f : Multiset Binding) =
      meanings ((b.joinWith (p.solutions g)).flatMap f' : Multiset Binding) := by
  rw [← Multiset.coe_bind, ← Multiset.coe_bind]
  refine meanings_bind (h.solves b hb) fun b' hb' c _ heq => hf b' c (fun v hv => ?_) heq
  exact h.mem_domain hp hb (Multiset.mem_coe.1 hb') hv

lemma Answers.join (hl : left.Answers g (outside ++ r.inScope) l)
    (hr : right.Answers g (outside ++ l.inScope) r) (hsafe : l.Safe g (outside ++ r.inScope)) :
    Answers g outside (.join l r) (.sequence (left.members ++ right.members)) := by
  refine ⟨?_, List.cons_ne_nil _ _, ?_, fun b hb => ?_⟩
  · rw [ofPattern, hl.ok, hr.ok]
    rfl
  · rw [triplePatterns, allTriplePatterns_append, allTriplePatterns_members,
      allTriplePatterns_members]
    exact hl.plain.append hr.plain
  · rw [solutions, solutionsInTurn_append, solutionsInTurn_members, GraphPattern.solutions,
      joinWith_join]
    refine hl.meanings_flatMap hsafe (fun v hv => List.mem_append_left _ (hb v hv)) ?_
    intro b' c hb' heq
    -- The right side sees what the left side binds, which `hr` allows to occur outside of it.
    have houtside : ∀ v ∈ b'.domain, v ∈ outside ++ l.inScope :=
      fun v hv => List.mem_append.2 ((hb' v hv).imp_left (hb v))
    rw [solutionsInTurn_members, hr.solves b' houtside, joinWith_congr heq]

lemma Answers.union (hl : left.Answers g outside l) (hr : right.Answers g outside r) :
    Answers g outside (.union l r) (.union (left.alternatives ++ right.alternatives)) := by
  have hne : (Group.union (left.alternatives ++ right.alternatives)).alternatives ≠ [] :=
    fun h => hl.alternatives_ne_nil (List.append_eq_nil_iff.1 h).1
  refine ⟨?_, hne, ?_, fun b hb => ?_⟩
  · rw [ofPattern, hl.ok, hr.ok]
    rfl
  · rw [triplePatterns, allTriplePatterns_append, allTriplePatterns_alternatives,
      allTriplePatterns_alternatives]
    exact hl.plain.append hr.plain
  · rw [← solutionsAside_alternatives hne, alternatives, solutionsAside_append,
      solutionsAside_alternatives hl.alternatives_ne_nil,
      solutionsAside_alternatives hr.alternatives_ne_nil, GraphPattern.solutions, joinWith_union,
      ← Multiset.coe_add, ← Multiset.coe_add, meanings_add, meanings_add, hl.solves b hb,
      hr.solves b hb]

lemma Answers.filter {condition : Expression} (h : group.Answers g outside p)
    (hbinds : ∀ v ∈ condition.mentions, p.Binds g v) :
    Answers g outside (.filter condition p) (.filter condition group) := by
  refine ⟨?_, List.cons_ne_nil _ _, ?_, fun b hb => ?_⟩
  · rw [ofPattern, h.ok]
    rfl
  · rw [triplePatterns]
    exact h.plain
  · rw [solutions, GraphPattern.solutions,
      joinWith_filter b condition fun a ha v hv => hbinds v hv a ha]
    exact meanings_filter condition (h.solves b hb)

/-! ### Left joins -/

/-- A search for an optional pattern joins a binding from the left. -/
lemma meanings_optional (b : Binding) :
    meanings (g.solutions ps true b : Multiset Binding) =
      meanings (b.leftJoinWith (g.extensions ps .empty) : Multiset Binding) := by
  have hperm := extensions_perm g ps b
  rw [Graph.solutions, Bool.true_and, leftJoinWith, hperm.isEmpty_eq]
  split
  · rfl
  · rw [Multiset.coe_eq_coe.2 hperm]

/-- What a left join puts after its left side searches for an optional pattern. -/
lemma exists_rightSide (g : Graph) (eval : Evaluator) (hps : PlainPatterns ps) :
    ∃ group, Group.ofPattern (.bgp ps) = .ok group ∧ PlainPatterns group.triplePatterns ∧
      ∀ b, solutionsInTurn g eval false b [.optional [group]] = g.solutions ps true b := by
  cases ps with
  | nil =>
    refine ⟨.sequence [], rfl, hps, fun b => ?_⟩
    rw [solutionsInTurn_singleton, solutions, solutionsInTurn_singleton, solutions,
      solutionsInTurn, Graph.solutions, Graph.extensions_nil]
    rfl
  | cons p ps =>
    refine ⟨.pattern (p :: ps), rfl, hps, fun b => ?_⟩
    rw [solutionsInTurn_singleton, solutions, solutionsInTurn_singleton, solutions]

lemma Answers.leftJoin (h : group.Answers g (outside ++ (GraphPattern.bgp ps).inScope) l)
    (hsafe : l.Safe g (outside ++ (GraphPattern.bgp ps).inScope)) (hps : PlainPatterns ps)
    (hbinds : ∀ v ∈ outside, v ∈ (GraphPattern.bgp ps).inScope → l.Binds g v) :
    ∃ group', Answers g outside (.leftJoin l (.bgp ps) none) group' := by
  obtain ⟨right, hok, hplain, hright⟩ := exists_rightSide g Expression.evaluate hps
  refine ⟨.sequence (group.members ++ [.optional [right]]), ?_, List.cons_ne_nil _ _, ?_,
    fun b hb => ?_⟩
  · rw [ofPattern, hok, h.ok]
    rfl
  · have hone : allTriplePatterns [.optional [right]] = right.triplePatterns := by
      simp [allTriplePatterns, triplePatterns]
    rw [triplePatterns, allTriplePatterns_append, allTriplePatterns_members, hone]
    exact h.plain.append hplain
  · -- A variable of `b` that the right side binds is bound in every solution of the left side, so
    -- that `b` cannot keep a left solution from being extended.
    have hshared : ∀ v ∈ b.domain, ∀ r ∈ g.extensions ps .empty, v ∈ r.domain →
        ∀ a ∈ l.solutions g, v ∈ a.domain := by
      intro v hv r hr hvr a ha
      have hscope := (GraphPattern.mem_domain_extensions hr hvr).resolve_left List.not_mem_nil
      exact hbinds v (hb v hv) hscope a ha
    rw [solutions, solutionsInTurn_append, solutionsInTurn_members, GraphPattern.solutions,
      GraphPattern.solutions, joinWith_leftJoin hshared]
    refine h.meanings_flatMap hsafe (fun v hv => List.mem_append_left _ (hb v hv)) ?_
    intro b' c _ heq
    rw [hright, meanings_optional, leftJoinWith_congr heq]

/-- A safe pattern is answered by the group that it becomes. -/
theorem exists_answers (h : p.Safe g outside) : ∃ group, Answers g outside p group := by
  induction h with
  | bgp hps => exact answers_bgp hps
  | join hl _ ihl ihr =>
    obtain ⟨left, hleft⟩ := ihl
    obtain ⟨right, hright⟩ := ihr
    exact ⟨_, hleft.join hright hl⟩
  | union _ _ ihl ihr =>
    obtain ⟨left, hleft⟩ := ihl
    obtain ⟨right, hright⟩ := ihr
    exact ⟨_, hleft.union hright⟩
  | filter hbinds _ ih =>
    obtain ⟨group, hgroup⟩ := ih
    exact ⟨_, hgroup.filter hbinds⟩
  | leftJoin hbinds hps hl ih =>
    obtain ⟨group, hgroup⟩ := ih
    exact hgroup.leftJoin hl hps hbinds

end Group

end SparqlStream
