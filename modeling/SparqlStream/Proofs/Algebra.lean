import Mathlib.Data.Multiset.Bind
import Mathlib.Tactic
import SparqlStream.Proofs.Denotation
import SparqlStream.Proofs.Extension
import SparqlStream.Proofs.Relevance
import SparqlStream.Query.Groups

/-!
# The algebra of solutions

What graph patterns mean from the bottom up: the solutions of a pattern are combined from the
solutions of its parts, and each part is answered for itself.  A binding counts for the terms that
it gives to variables, not for the order in which it lists them, so multisets of bindings are
compared by their `Binding.meanings`.

The laws of the second half say when a binding can be joined with the parts of a pattern instead
of the whole.  They hold without conditions for joins and unions.  A selection needs a condition
that does not look at the binding, and a left join a binding that shares no variable with the
right side alone.
-/

namespace SparqlStream

/-! ## Joins -/

namespace Binding

/-- Two bindings agree on the variables that both bind. -/
def Compatible (b c : Binding) : Prop := ∀ v ∈ b.domain, v ∈ c.domain → b.get? v = c.get? v

instance (b c : Binding) : Decidable (b.Compatible c) := inferInstanceAs (Decidable (∀ _ ∈ _, _))

/-- The terms of two bindings. -/
def merge (b c : Binding) : Binding := ⟨b.entries ++ c.entries.filter (!b.contains ·.1)⟩

/-- A binding joined with the compatible ones of some bindings. -/
def joinWith (b : Binding) (cs : List Binding) : List Binding :=
  (cs.filter (b.Compatible ·)).map b.merge

/-- A binding joined with the compatible ones of some bindings, or itself if there are none. -/
def leftJoinWith (b : Binding) (cs : List Binding) : List Binding :=
  if (b.joinWith cs).isEmpty then [b] else b.joinWith cs

end Binding

namespace GraphPattern

/-- The solutions of a pattern from the bottom up.  Patterns with other parts than basic graph
patterns, joins, unions, filters and left joins without a condition are left out. -/
def solutions (g : Graph) : GraphPattern → List Binding
  | bgp ps => g.extensions ps .empty
  | join l r => (solutions g l).flatMap (·.joinWith (solutions g r))
  | leftJoin l r none => (solutions g l).flatMap (·.leftJoinWith (solutions g r))
  | union l r => solutions g l ++ solutions g r
  | filter condition inner => (solutions g inner).filter (condition.holds Expression.evaluate)
  | _ => []

/-- Every solution of a pattern binds a variable. -/
def Binds (g : Graph) (p : GraphPattern) (v : Variable) : Prop := ∀ b ∈ p.solutions g, v ∈ b.domain

instance (g : Graph) (p : GraphPattern) (v : Variable) : Decidable (p.Binds g v) :=
  inferInstanceAs (Decidable (∀ _ ∈ _, _))

/-- Patterns that mean the same whether their parts are answered for themselves or for a binding.
They have basic graph patterns, joins, unions, filters and left joins with basic graph patterns as
their parts, and no name of a variable is reserved.  A condition mentions only variables that every
solution of its pattern binds.  A variable that occurs on the right side of a left join and outside
of it is bound by every solution of the left side.

The list `outside` holds the variables of the patterns that a pattern is joined with.  Variables of
conditions and of the other branches of a union need not be counted, because they are never bound
before the pattern is reached. -/
inductive Safe (g : Graph) : List Variable → GraphPattern → Prop
  | bgp {outside : List Variable} {ps : List TriplePattern} :
    PlainPatterns ps → Safe g outside (.bgp ps)
  | join {outside : List Variable} {l r : GraphPattern} :
    Safe g (outside ++ r.inScope) l → Safe g (outside ++ l.inScope) r → Safe g outside (.join l r)
  | union {outside : List Variable} {l r : GraphPattern} :
    Safe g outside l → Safe g outside r → Safe g outside (.union l r)
  | filter {outside : List Variable} {condition : Expression} {inner : GraphPattern} :
    (∀ v ∈ condition.mentions, inner.Binds g v) → Safe g outside inner →
      Safe g outside (.filter condition inner)
  | leftJoin {outside : List Variable} {l : GraphPattern} {ps : List TriplePattern} :
    (∀ v ∈ outside, v ∈ (bgp ps).inScope → l.Binds g v) → PlainPatterns ps →
      Safe g (outside ++ (bgp ps).inScope) l → Safe g outside (.leftJoin l (.bgp ps) none)

end GraphPattern

/-! ## Meanings -/

namespace Binding

/-- The terms that some bindings give to variables. -/
def meanings (S : Multiset Binding) : Multiset (Variable → Option Term) := S.map get?

variable {b b' c : Binding} {v : Variable} {S T S' T' : Multiset Binding}

lemma mem_domain_iff : v ∈ b.domain ↔ ∃ t, b.get? v = some t := by
  rw [← contains_iff, contains, Option.isSome_iff_exists]

lemma mem_domain_congr (h : b.get? = b'.get?) : v ∈ b.domain ↔ v ∈ b'.domain := by
  rw [mem_domain_iff, h, mem_domain_iff]

lemma compatible_iff : b.Compatible c ↔
    ∀ v s t, b.get? v = some s → c.get? v = some t → s = t := by
  constructor
  · intro h v s t hs ht
    have heq := h v (mem_domain_iff.2 ⟨s, hs⟩) (mem_domain_iff.2 ⟨t, ht⟩)
    rw [hs, ht] at heq
    exact Option.some.inj heq
  · intro h v hb hc
    obtain ⟨s, hs⟩ := mem_domain_iff.1 hb
    obtain ⟨t, ht⟩ := mem_domain_iff.1 hc
    rw [hs, ht, h v s t hs ht]

lemma lookup_filter_fst {α β : Type} [BEq α] [LawfulBEq α] (keeps : α → Bool) (l : List (α × β))
    {a : α} (ha : keeps a = true) : (l.filter fun e => keeps e.1).lookup a = l.lookup a := by
  induction l with
  | nil => rfl
  | cons e l ih =>
    obtain ⟨x, y⟩ := e
    by_cases hx : a = x
    · subst hx
      rw [List.filter_cons_of_pos (by exact ha), List.lookup_cons_self, List.lookup_cons_self]
    · rw [List.lookup_cons, beq_false_of_ne hx, List.filter_cons]
      split
      · rw [List.lookup_cons, beq_false_of_ne hx]
        exact ih
      · exact ih

lemma get?_merge (b c : Binding) (v : Variable) :
    (b.merge c).get? v = (b.get? v).or (c.get? v) := by
  rw [merge, get?_append]
  cases hv : b.get? v with
  | some t => rw [Option.some_or, Option.some_or]
  | none =>
    rw [Option.none_or, Option.none_or]
    exact lookup_filter_fst (!b.contains ·) c.entries (by rw [contains, hv]; rfl)

lemma mem_domain_merge : v ∈ (b.merge c).domain ↔ v ∈ b.domain ∨ v ∈ c.domain := by
  rw [mem_domain_iff, mem_domain_iff, mem_domain_iff, get?_merge]
  cases b.get? v <;> simp

/-! ### Multisets of bindings -/

lemma meanings_add : meanings (S + T) = meanings S + meanings T := Multiset.map_add _ S T

lemma meanings_singleton : meanings {b} = {b.get?} := Multiset.map_singleton _ b

/-- What is made of bindings with the same meanings has the same meanings. -/
lemma meanings_bind {f f' : Binding → Multiset Binding} (h : meanings S = meanings T)
    (hf : ∀ b ∈ S, ∀ b' ∈ T, b.get? = b'.get? → meanings (f b) = meanings (f' b')) :
    meanings (S.bind f) = meanings (T.bind f') := by
  rw [meanings, meanings, ← Multiset.rel_eq, Multiset.rel_map] at h
  induction h with
  | zero => rfl
  | @cons b b' S T hb _ ih =>
    rw [Multiset.cons_bind, Multiset.cons_bind, meanings_add, meanings_add,
      hf b (Multiset.mem_cons_self b S) b' (Multiset.mem_cons_self b' T) hb,
      ih fun c hc c' hc' => hf c (Multiset.mem_cons_of_mem hc) c' (Multiset.mem_cons_of_mem hc')]

lemma meanings_bind_congr {f f' : Binding → Multiset Binding}
    (hf : ∀ b ∈ S, meanings (f b) = meanings (f' b)) :
    meanings (S.bind f) = meanings (S.bind f') := by
  rw [meanings, meanings, Multiset.map_bind, Multiset.map_bind]
  exact Multiset.bind_congr hf

/-- Each binding of a multiset has a counterpart in one with the same meanings. -/
lemma exists_of_meanings (h : meanings S = meanings T) (hb : b ∈ S) :
    ∃ b' ∈ T, b'.get? = b.get? := by
  rw [← Multiset.mem_map, ← meanings, ← h]
  exact Multiset.mem_map_of_mem _ hb

/-- What a selection keeps depends on meanings only. -/
lemma meanings_filter (e : Expression) {l l' : List Binding}
    (h : meanings (l : Multiset Binding) = meanings (l' : Multiset Binding)) :
    meanings (l.filter (e.holds Expression.evaluate) : Multiset Binding) =
      meanings (l'.filter (e.holds Expression.evaluate) : Multiset Binding) := by
  have hcoe : ∀ l : List Binding, (l.filter (e.holds Expression.evaluate) : Multiset Binding) =
      Multiset.filter (e.holds Expression.evaluate · = true) l := fun l => by simp
  rw [hcoe, hcoe, Multiset.filter_eq_bind, Multiset.filter_eq_bind]
  refine meanings_bind h fun b _ b' _ hb => ?_
  rw [e.holds_congr fun v _ => congrFun hb v]
  split
  · rw [meanings_singleton, meanings_singleton, hb]
  · rfl

/-! ## Laws -/

/-- Two bindings joined: one binding if they are compatible, and none otherwise. -/
def joined (b c : Binding) : Multiset Binding := if b.Compatible c then {b.merge c} else 0

variable {a r : Binding} {A : Multiset Binding} {R : List Binding}

lemma joined_of (h : b.Compatible c) : b.joined c = {b.merge c} := if_pos h

lemma joined_of_not (h : ¬b.Compatible c) : b.joined c = 0 := if_neg h

lemma coe_joinWith (b : Binding) (cs : List Binding) :
    (b.joinWith cs : Multiset Binding) = (cs : Multiset Binding).bind b.joined := by
  induction cs with
  | nil => rfl
  | cons c cs ih =>
    rw [← Multiset.cons_coe, Multiset.cons_bind, ← ih, joinWith, List.filter_cons]
    by_cases hc : b.Compatible c
    · rw [joined_of hc, if_pos (decide_eq_true hc), List.map_cons, ← Multiset.cons_coe,
        Multiset.singleton_add, joinWith]
    · rw [joined_of_not hc, if_neg (by simpa using hc), zero_add, joinWith]

lemma mem_joinWith {cs : List Binding} {b' : Binding} :
    b' ∈ b.joinWith cs ↔ ∃ c ∈ cs, b.Compatible c ∧ b.merge c = b' := by
  rw [joinWith, List.mem_map]
  simp only [List.mem_filter, decide_eq_true_eq, and_assoc]

lemma compatible_congr (hb : b.get? = b'.get?) : b.Compatible c ↔ b'.Compatible c := by
  rw [compatible_iff, compatible_iff, hb]

/-- Joining respects meanings. -/
lemma joined_congr (hb : b.get? = b'.get?) : meanings (b.joined c) = meanings (b'.joined c) := by
  have hiff : b.Compatible c ↔ b'.Compatible c := compatible_congr hb
  rw [joined, joined]
  by_cases hc : b.Compatible c
  · rw [if_pos hc, if_pos (hiff.1 hc), meanings_singleton, meanings_singleton]
    congr 1
    funext v
    rw [get?_merge, get?_merge, hb]
  · rw [if_neg hc, if_neg (mt hiff.2 hc)]

lemma joinWith_congr (hb : b.get? = b'.get?) (cs : List Binding) :
    meanings (b.joinWith cs : Multiset Binding) = meanings (b'.joinWith cs : Multiset Binding) := by
  rw [coe_joinWith, coe_joinWith]
  exact meanings_bind_congr fun c _ => joined_congr hb

lemma Compatible.of_merge (hb : b.Compatible (a.merge r)) : b.Compatible a := by
  rw [compatible_iff] at hb ⊢
  intro v s t hs ht
  exact hb v s t hs (by rw [get?_merge, ht, Option.some_or])

lemma Compatible.merge_right (hb : b.Compatible (a.merge r)) (ha : a.Compatible r) :
    (b.merge a).Compatible r := by
  rw [compatible_iff] at hb ha ⊢
  intro v s t hs ht
  rw [get?_merge, Option.or_eq_some_iff] at hs
  rcases hs with hs | ⟨-, hs⟩
  · cases hv : a.get? v with
    | none => exact hb v s t hs (by rw [get?_merge, hv, Option.none_or, ht])
    | some x =>
      have hx := hb v s x hs (by rw [get?_merge, hv, Option.some_or])
      exact hx.trans (ha v x t hv ht)
  · exact ha v s t hs ht

lemma Compatible.merge_left (hb : b.Compatible a) (h : (b.merge a).Compatible r) :
    a.Compatible r ∧ b.Compatible (a.merge r) := by
  rw [compatible_iff] at hb h
  refine ⟨compatible_iff.2 fun v s t hs ht => ?_, compatible_iff.2 fun v s t hs ht => ?_⟩
  · cases hv : b.get? v with
    | none => exact h v s t (by rw [get?_merge, hv, Option.none_or, hs]) ht
    | some x =>
      have hx := h v x t (by rw [get?_merge, hv, Option.some_or]) ht
      exact (hb v x s hv hs).symm.trans hx
  · rw [get?_merge, Option.or_eq_some_iff] at ht
    rcases ht with ht | ⟨-, ht⟩
    · exact hb v s t hs ht
    · exact h v s t (by rw [get?_merge, hs, Option.some_or]) ht

lemma merge_assoc : (b.merge (a.merge r)).get? = ((b.merge a).merge r).get? := by
  funext v
  rw [get?_merge, get?_merge, get?_merge, get?_merge, Option.or_assoc]

/-- Three bindings can be joined from the right or from the left. -/
lemma joined_assoc (b a r : Binding) :
    meanings ((a.joined r).bind b.joined) = meanings ((b.joined a).bind (·.joined r)) := by
  by_cases hb : b.Compatible a
  · rw [joined_of hb, Multiset.singleton_bind]
    by_cases h : (b.merge a).Compatible r
    · obtain ⟨ha, hmerge⟩ := hb.merge_left h
      rw [joined_of h, joined_of ha, Multiset.singleton_bind, joined_of hmerge, meanings_singleton,
        meanings_singleton, merge_assoc]
    · rw [joined_of_not h]
      by_cases ha : a.Compatible r
      · rw [joined_of ha, Multiset.singleton_bind, joined_of_not fun hc => h (hc.merge_right ha)]
      · rw [joined_of_not ha, Multiset.zero_bind]
  · rw [joined_of_not hb, Multiset.zero_bind]
    by_cases ha : a.Compatible r
    · rw [joined_of ha, Multiset.singleton_bind, joined_of_not fun hc => hb hc.of_merge]
    · rw [joined_of_not ha, Multiset.zero_bind]

/-- A join can be joined from its left side on. -/
lemma joinWith_join (b : Binding) (A R : List Binding) :
    meanings (b.joinWith (A.flatMap (·.joinWith R)) : Multiset Binding) =
      meanings ((b.joinWith A).flatMap (·.joinWith R) : Multiset Binding) := by
  rw [coe_joinWith, ← Multiset.coe_bind, ← Multiset.coe_bind, coe_joinWith, Multiset.bind_assoc,
    Multiset.bind_assoc]
  refine meanings_bind_congr fun a _ => ?_
  simp only [coe_joinWith]
  rw [Multiset.bind_assoc, Multiset.bind_bind]
  exact meanings_bind_congr fun r _ => joined_assoc b a r

lemma joinWith_union (b : Binding) (A R : List Binding) :
    b.joinWith (A ++ R) = b.joinWith A ++ b.joinWith R := by
  rw [joinWith, List.filter_append, List.map_append, joinWith, joinWith]

/-- A condition on variables that are bound anyway can be checked after a join. -/
lemma joinWith_filter (b : Binding) (e : Expression) {A : List Binding}
    (hA : ∀ a ∈ A, ∀ v ∈ e.mentions, v ∈ a.domain) :
    b.joinWith (A.filter (e.holds Expression.evaluate)) =
      (b.joinWith A).filter (e.holds Expression.evaluate) := by
  rw [joinWith, joinWith, List.filter_map, List.filter_comm]
  congr 1
  refine List.filter_congr fun a ha => ?_
  rw [List.mem_filter, decide_eq_true_iff] at ha
  refine e.holds_congr fun v hv => ?_
  obtain ⟨t, ht⟩ := mem_domain_iff.1 (hA a ha.1 v hv)
  rw [get?_merge, ht]
  cases hb : b.get? v with
  | none => rfl
  | some s => rw [Option.some_or, compatible_iff.1 ha.2 v s t hb ht]

/-! ### Left joins -/

lemma joinWith_isEmpty {cs : List Binding} :
    (b.joinWith cs).isEmpty = true ↔ ∀ c ∈ cs, ¬b.Compatible c := by
  simp [joinWith]

/-- Joining from the left respects meanings. -/
lemma leftJoinWith_congr (hb : b.get? = b'.get?) (cs : List Binding) :
    meanings (b.leftJoinWith cs : Multiset Binding) =
      meanings (b'.leftJoinWith cs : Multiset Binding) := by
  have hempty : (b.joinWith cs).isEmpty = (b'.joinWith cs).isEmpty := by
    rw [Bool.eq_iff_iff, joinWith_isEmpty, joinWith_isEmpty]
    exact forall₂_congr fun c _ => not_congr (compatible_congr hb)
  rw [leftJoinWith, leftJoinWith, hempty]
  split
  · rw [Multiset.coe_singleton, Multiset.coe_singleton, meanings_singleton, meanings_singleton, hb]
  · exact joinWith_congr hb cs

lemma joined_eq_zero_of_mem_leftJoinWith (hb : ¬b.Compatible a) {c : Binding}
    (hc : c ∈ a.leftJoinWith R) : b.joined c = 0 := by
  rw [leftJoinWith] at hc
  split at hc
  · rw [List.mem_singleton.1 hc]
    exact joined_of_not hb
  · obtain ⟨r, -, -, rfl⟩ := mem_joinWith.1 hc
    exact joined_of_not fun h => hb h.of_merge

lemma Compatible.merge_congr (hb : b.Compatible a)
    (hshared : ∀ v ∈ b.domain, v ∈ r.domain → v ∈ a.domain) :
    (b.merge a).Compatible r ↔ a.Compatible r := by
  refine ⟨fun h => (hb.merge_left h).1, fun h => ?_⟩
  rw [compatible_iff] at hb h ⊢
  intro v s t hs ht
  rw [get?_merge, Option.or_eq_some_iff] at hs
  rcases hs with hs | ⟨-, hs⟩
  · obtain ⟨x, hx⟩ := mem_domain_iff.1
      (hshared v (mem_domain_iff.2 ⟨s, hs⟩) (mem_domain_iff.2 ⟨t, ht⟩))
    exact (hb v s x hs hx).trans (h v x t hx ht)
  · exact h v s t hs ht

lemma leftJoined_assoc
    (hshared : ∀ v ∈ b.domain, ∀ r ∈ R, v ∈ r.domain → v ∈ a.domain) :
    meanings ((a.leftJoinWith R : Multiset Binding).bind b.joined) =
      meanings ((b.joined a).bind fun b' => b'.leftJoinWith R) := by
  by_cases hb : b.Compatible a
  · have hempty : ((b.merge a).joinWith R).isEmpty = (a.joinWith R).isEmpty := by
      rw [Bool.eq_iff_iff, joinWith_isEmpty, joinWith_isEmpty]
      exact forall₂_congr fun r hr => not_congr (hb.merge_congr fun v hv => hshared v hv r hr)
    have hjoin := joinWith_join b [a] R
    have hone : b.joinWith [a] = [b.merge a] := by simp [joinWith, hb]
    rw [List.flatMap_singleton, hone, List.flatMap_singleton, coe_joinWith] at hjoin
    rw [joined_of hb, Multiset.singleton_bind, leftJoinWith, leftJoinWith, hempty]
    split
    · rw [Multiset.coe_singleton, Multiset.singleton_bind, joined_of hb, Multiset.coe_singleton]
    · exact hjoin
  · rw [joined_of_not hb, Multiset.zero_bind, Multiset.bind_congr fun c hc =>
      joined_eq_zero_of_mem_leftJoinWith hb (Multiset.mem_coe.1 hc), Multiset.bind_zero]

/-- A left join can be joined from its left side on, if the left side binds what the right side
shares with the binding. -/
lemma joinWith_leftJoin {A : List Binding}
    (hshared : ∀ v ∈ b.domain, ∀ r ∈ R, v ∈ r.domain → ∀ a ∈ A, v ∈ a.domain) :
    meanings (b.joinWith (A.flatMap (·.leftJoinWith R)) : Multiset Binding) =
      meanings ((b.joinWith A).flatMap (·.leftJoinWith R) : Multiset Binding) := by
  rw [coe_joinWith, ← Multiset.coe_bind, ← Multiset.coe_bind, coe_joinWith, Multiset.bind_assoc,
    Multiset.bind_assoc]
  exact meanings_bind_congr fun a ha =>
    leftJoined_assoc fun v hv r hr hvr => hshared v hv r hr hvr a (Multiset.mem_coe.1 ha)

end Binding

end SparqlStream
