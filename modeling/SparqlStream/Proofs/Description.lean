import Mathlib.Tactic
import SparqlStream.Proofs.Answers
import SparqlStream.Proofs.Layout
import SparqlStream.Proofs.Rewriting

/-!
# Descriptions

A description shows the triples of a template that has one pattern for each target, with new
variables for the predicate and the object.  The same template is also the last group of the query,
as a basic graph pattern.  So it is not enough that there is a triple about one of the targets: all
targets together have to be described.  A target without a triple of its own, be it one among many,
leaves the description empty, and a variable that no group binds stands for every subject there is.

`Query.delivers_description` says exactly which triples are shown.  Where each solution gives each
target a term about which there is a triple, these are the triples about the targets.
-/

namespace SparqlStream

/-! ## Assignments that satisfy patterns -/

section Satisfying

variable {g : Graph} {ps : List TriplePattern} {b : Binding} {σ : Unknown → Option Term}

/-- A pattern becomes a triple only if its unknowns have terms. -/
lemma exists_of_becomes {p : TriplePattern} {u : Triple} {w : Unknown}
    (h : p.becomes σ u = true) (hw : w ∈ p.unknowns) : ∃ t, σ w = some t := by
  rw [TriplePattern.becomes, decide_eq_true_iff] at h
  obtain ⟨hs, hq, ho⟩ := h
  obtain ⟨s, q, o⟩ := p
  simp only [TriplePattern.unknowns, List.mem_append, Option.mem_toList] at hw
  rcases hw with (hw | hw) | hw
  · cases s <;> cases hw <;> exact ⟨_, hs⟩
  · cases q <;> cases hw
    exact ⟨_, hq⟩
  · cases o <;> cases hw <;> exact ⟨_, ho⟩

/-- Terms that agree with a binding and make some patterns triples of the graph are found by an
assignment. -/
lemma exists_mem_satisfying (hσ : ∀ v t, b.get? v = some t → σ (.var v) = some t)
    (hall : ∀ p ∈ ps, ∃ u ∈ g.triples, p.becomes σ u = true) :
    ∃ a ∈ g.satisfying ps b, ∀ p ∈ ps, ∀ w ∈ p.unknowns, b.valuation a w = σ w := by
  let a : Assignment := (openUnknowns ps b).map fun w => (w, (σ w).getD default)
  have hkeys : a.map Prod.fst = openUnknowns ps b := by
    rw [List.map_map]
    exact List.map_id _
  have hopen : ∀ p ∈ ps, ∀ w ∈ p.unknowns, w.isOpen b = true → a.lookup w = σ w := by
    intro p hp w hw hwopen
    obtain ⟨u, -, hu⟩ := hall p hp
    obtain ⟨t, ht⟩ := exists_of_becomes hu hw
    have hmem : w ∈ openUnknowns ps b :=
      mem_openUnknowns.2 ⟨List.mem_flatMap.2 ⟨p, hp, hw⟩, hwopen⟩
    rw [lookup_map_pair (fun w => (σ w).getD default) hmem, ht, Option.getD_some]
  have hagree : ∀ p ∈ ps, ∀ w ∈ p.unknowns, b.valuation a w = σ w := by
    intro p hp w hw
    cases w with
    | blank n => exact hopen p hp _ hw rfl
    | var v =>
      rw [Binding.valuation]
      cases hv : b.get? v with
      | some t => rw [Option.some_or, hσ v t hv]
      | none =>
        rw [Option.none_or]
        refine hopen p hp _ hw ?_
        rw [Unknown.isOpen, Binding.contains, hv]
        rfl
  refine ⟨a, mem_satisfying.2 ⟨hkeys, fun p hp => ?_⟩, hagree⟩
  obtain ⟨u, hu, hbecomes⟩ := hall p hp
  exact ⟨u, hu, (TriplePattern.becomes_congr (hagree p hp) u).trans hbecomes⟩

end Satisfying

/-! ## Templates of descriptions -/

lemma toString_nat_inj {i j : Nat} (h : toString i = toString j) : i = j := by
  have hdigits : Nat.toDigits 10 i = Nat.toDigits 10 j := by
    rw [Nat.toString_eq_repr, Nat.toString_eq_repr, Nat.repr_eq_ofList_toDigits,
      Nat.repr_eq_ofList_toDigits] at h
    exact String.ofList_injective h
  rw [← Nat.ofDigitChars_ten_toDigits (n := i), hdigits, Nat.ofDigitChars_ten_toDigits]

namespace Query

/-- The variable for the predicate of a target. -/
def predicateVariable (i : Nat) : Variable := ⟨"__predicate" ++ toString i⟩

/-- The variable for the object of a target. -/
def objectVariable (i : Nat) : Variable := ⟨"__object" ++ toString i⟩

/-- The pattern of a target. -/
def descriptionPattern (i : Nat) (target : IriPattern) : TriplePattern :=
  ⟨target.toTermPattern, .var (predicateVariable i), .var (objectVariable i)⟩

/-- The new variables of a description. -/
def describingVariables (targets : List IriPattern) : List Variable :=
  (List.range targets.length).flatMap fun i => [predicateVariable i, objectVariable i]

variable {targets : List IriPattern} {i j : Nat}

lemma mem_descriptionTemplate {p : TriplePattern} : p ∈ descriptionTemplate targets ↔
    ∃ (i : Nat) (h : i < targets.length), descriptionPattern i targets[i] = p :=
  List.mem_mapIdx

lemma predicateVariable_inj (h : predicateVariable i = predicateVariable j) : i = j :=
  toString_nat_inj (String.append_right_inj _ |>.1 (Variable.mk.inj h))

lemma objectVariable_inj (h : objectVariable i = objectVariable j) : i = j :=
  toString_nat_inj (String.append_right_inj _ |>.1 (Variable.mk.inj h))

lemma predicateVariable_ne_objectVariable : predicateVariable i ≠ objectVariable j := by
  intro h
  have hlists := congrArg String.toList (Variable.mk.inj h)
  simp at hlists

lemma mem_describingVariables {v : Variable} : v ∈ describingVariables targets ↔
    ∃ i < targets.length, v = predicateVariable i ∨ v = objectVariable i := by
  rw [describingVariables, List.mem_flatMap]
  simp only [List.mem_range, List.mem_cons, List.not_mem_nil, or_false]

end Query

/-! ## What is shown of a triple -/

/-- What a description shows of a triple about a target.  A target that is an IRI is shown as it
is, and a triple whose predicate is a Skolem IRI is left out. -/
def IriPattern.shown? (target : IriPattern) (u : Triple) : Option Triple := do
  let subject : Term :=
    match target with
    | .iri i => .iri i
    | .var _ => u.subject.toTerm.deskolemize
  let s ← subject.toSubject?
  let p ← (Term.iri u.predicate).deskolemize.toIri?
  some ⟨s, p, u.object.deskolemize⟩

/-- A triple of the graph is about a target: its subject is the IRI that the target is, or the
term of the variable that the target is. -/
def Graph.IsAbout (g : Graph) (σ : Unknown → Option Term) (target : IriPattern) (u : Triple) :
    Prop :=
  u ∈ g.triples ∧ target.value? σ = some u.subject.toTerm

namespace Query

variable {g : Graph} {targets : List IriPattern} {target : IriPattern} {i : Nat} {b μ : Binding}
  {a : Assignment} {σ : Unknown → Option Term} {u x : Triple}

lemma value?_toTermPattern (target : IriPattern) :
    target.toTermPattern.value? σ = target.value? σ := by
  cases target <;> rfl

/-- The pattern of a target becomes the triples about the target. -/
lemma becomes_descriptionPattern : (descriptionPattern i target).becomes σ u = true ↔
    target.value? σ = some u.subject.toTerm ∧
      σ (.var (predicateVariable i)) = some (.iri u.predicate) ∧
      σ (.var (objectVariable i)) = some u.object := by
  rw [TriplePattern.becomes, decide_eq_true_iff, descriptionPattern, value?_toTermPattern]
  rfl

lemma value?_extendBy (target : IriPattern) :
    target.value? ((b.extendBy a).valuation []) = target.value? (b.valuation a) := by
  cases target with
  | iri i => rfl
  | var v =>
    rw [IriPattern.value?, IriPattern.value?, Binding.valuation, get?_extendBy]
    exact Option.or_none

/-- The pattern of a target makes of a binding what is shown of the triple that it becomes. -/
lemma triple?_descriptionPattern (rename : BlankNode → BlankNode)
    (h : (descriptionPattern i target).becomes (b.valuation a) u = true) :
    Template.triple? (b.extendBy a) rename (descriptionPattern i target) = target.shown? u := by
  obtain ⟨hs, hp, ho⟩ := becomes_descriptionPattern.1 h
  rw [← get?_extendBy] at hp ho
  rw [← value?_extendBy] at hs
  cases target with
  | iri i =>
    simp only [Template.triple?, descriptionPattern, IriPattern.toTermPattern, Template.value?,
      Template.predicate?, hp, ho, IriPattern.shown?, Option.map_some, Option.bind_eq_bind,
      Option.bind_some]
  | var v =>
    have hv : (b.extendBy a).get? v = some u.subject.toTerm := by
      rw [← hs]
      exact Option.or_none.symm
    simp only [Template.triple?, descriptionPattern, IriPattern.toTermPattern, Template.value?,
      Template.predicate?, hp, ho, hv, IriPattern.shown?, Option.map_some, Option.bind_eq_bind,
      Option.bind_some]

/-- New terms for the new variables of a description. -/
lemma exists_describing (targets : List IriPattern) (us : Fin targets.length → Triple)
    (σ : Unknown → Option Term) :
    ∃ σ' : Unknown → Option Term,
      (∀ i : Fin targets.length, σ' (.var (predicateVariable i)) = some (.iri (us i).predicate) ∧
        σ' (.var (objectVariable i)) = some (us i).object) ∧
      ∀ w, (∀ v ∈ describingVariables targets, w ≠ .var v) → σ' w = σ w := by
  let key : Fin targets.length ⊕ Fin targets.length → Unknown :=
    Sum.elim (fun i => .var (predicateVariable i)) fun i => .var (objectVariable i)
  let value : Fin targets.length ⊕ Fin targets.length → Option Term :=
    Sum.elim (fun i => some (.iri (us i).predicate)) fun i => some (us i).object
  have hkey : Function.Injective key := by
    rintro (i | i) (j | j) h
    · exact congrArg Sum.inl (Fin.ext (predicateVariable_inj (Unknown.var.inj h)))
    · exact absurd (Unknown.var.inj h) predicateVariable_ne_objectVariable
    · exact absurd (Unknown.var.inj h).symm predicateVariable_ne_objectVariable
    · exact congrArg Sum.inr (Fin.ext (objectVariable_inj (Unknown.var.inj h)))
  refine ⟨Function.extend key value σ, fun i => ⟨?_, ?_⟩, fun w hw => ?_⟩
  · exact hkey.extend_apply value σ (.inl i)
  · exact hkey.extend_apply value σ (.inr i)
  · refine Function.extend_apply' value σ w ?_
    rintro ⟨i | i, rfl⟩
    · exact hw _ (mem_describingVariables.2 ⟨i, i.2, .inl rfl⟩) rfl
    · exact hw _ (mem_describingVariables.2 ⟨i, i.2, .inr rfl⟩) rfl

/-- Triples about the targets, one for each of them, are found by an assignment. -/
lemma exists_mem_satisfying_description (hb : ∀ v ∈ b.domain, v ∉ describingVariables targets)
    (htargets : ∀ v, .var v ∈ targets → v ∉ describingVariables targets)
    {us : Fin targets.length → Triple} (hus : ∀ i, g.IsAbout (b.valuation a) targets[i] (us i)) :
    ∃ a' ∈ g.satisfying (descriptionTemplate targets) b, ∀ i : Fin targets.length,
      (descriptionPattern i targets[i]).becomes (b.valuation a') (us i) = true := by
  obtain ⟨σ, hσ, hother⟩ := exists_describing targets us (b.valuation a)
  have hold : ∀ v, v ∉ describingVariables targets → σ (.var v) = b.valuation a (.var v) :=
    fun v hv => hother (.var v) fun w hw heq => hv (Unknown.var.inj heq ▸ hw)
  have hbound : ∀ v t, b.get? v = some t → σ (.var v) = some t := by
    intro v t hv
    rw [hold v (hb v (Binding.mem_domain_iff.2 ⟨t, hv⟩)), Binding.valuation, hv, Option.some_or]
  have hsubject : ∀ target ∈ targets, target.value? σ = target.value? (b.valuation a) := by
    intro target htarget
    cases target with
    | iri i => rfl
    | var v => exact hold v (htargets v htarget)
  have hbecomes : ∀ i : Fin targets.length,
      (descriptionPattern i targets[i]).becomes σ (us i) = true := fun i =>
    becomes_descriptionPattern.2
      ⟨(hsubject _ (List.getElem_mem i.2)).trans (hus i).2, (hσ i).1, (hσ i).2⟩
  obtain ⟨a', ha', hagree⟩ := exists_mem_satisfying hbound fun p hp => by
    obtain ⟨i, hi, rfl⟩ := mem_descriptionTemplate.1 hp
    exact ⟨_, (hus ⟨i, hi⟩).1, hbecomes ⟨i, hi⟩⟩
  refine ⟨a', ha', fun i => ?_⟩
  have hmem := mem_descriptionTemplate.2 ⟨i, i.2, rfl⟩
  exact (TriplePattern.becomes_congr (hagree _ hmem) (us i)).trans (hbecomes i)

/-- A description of a solution shows the triples about the targets, if all targets are described
at once. -/
lemma mem_description (hb : ∀ v ∈ b.domain, v ∉ describingVariables targets)
    (htargets : ∀ v, .var v ∈ targets → v ∉ describingVariables targets)
    (rename : BlankNode → BlankNode) :
    (∃ c ∈ g.extensions (descriptionTemplate targets) b, ∃ p ∈ descriptionTemplate targets,
        Template.triple? c rename p = some x) ↔
      ∃ a : Assignment, (∀ target ∈ targets, ∃ u, g.IsAbout (b.valuation a) target u) ∧
        ∃ target ∈ targets, ∃ u, g.IsAbout (b.valuation a) target u ∧ target.shown? u = some x := by
  constructor
  · rintro ⟨c, hc, p, hp, hx⟩
    obtain ⟨a, ha, rfl⟩ := List.mem_map.1 hc
    have hall : ∀ (i : Nat) (hi : i < targets.length), ∃ u ∈ g.triples,
        (descriptionPattern i targets[i]).becomes (b.valuation a) u = true :=
      fun i hi => (mem_satisfying.1 ha).2 _ (mem_descriptionTemplate.2 ⟨i, hi, rfl⟩)
    refine ⟨a, fun target htarget => ?_, ?_⟩
    · obtain ⟨i, hi, rfl⟩ := List.mem_iff_getElem.1 htarget
      obtain ⟨u, hu, hbecomes⟩ := hall i hi
      exact ⟨u, hu, (becomes_descriptionPattern.1 hbecomes).1⟩
    · obtain ⟨i, hi, rfl⟩ := mem_descriptionTemplate.1 hp
      obtain ⟨u, hu, hbecomes⟩ := hall i hi
      rw [triple?_descriptionPattern rename hbecomes] at hx
      exact ⟨_, List.getElem_mem hi, u, ⟨hu, (becomes_descriptionPattern.1 hbecomes).1⟩, hx⟩
  · rintro ⟨a, hall, target, htarget, u, hu, hx⟩
    obtain ⟨k, hk, rfl⟩ := List.mem_iff_getElem.1 htarget
    -- some triple for each target, but the shown one for the target that it is about
    choose us hus using fun i : Fin targets.length => hall targets[i] (List.getElem_mem i.2)
    have hchosen : ∀ i : Fin targets.length,
        g.IsAbout (b.valuation a) targets[i] (Function.update us ⟨k, hk⟩ u i) := by
      intro i
      by_cases hi : i = ⟨k, hk⟩
      · rw [hi, Function.update_self]
        exact hu
      · rw [Function.update_of_ne hi]
        exact hus i
    obtain ⟨a', ha', hbecomes⟩ := exists_mem_satisfying_description hb htargets hchosen
    have hshown := hbecomes ⟨k, hk⟩
    rw [Function.update_self] at hshown
    exact ⟨_, List.mem_map_of_mem ha', _, mem_descriptionTemplate.2 ⟨k, hk, rfl⟩,
      (triple?_descriptionPattern rename hshown).trans hx⟩

/-! ## Runs -/

/-- Solutions of patterns bind variables of the patterns. -/
lemma keeps_domain (g : Graph) (vs : List Variable) :
    Answering.Keeps (fun p => ∀ v ∈ p.variables, v ∈ vs) (fun b => ∀ v ∈ b.domain, v ∈ vs)
      g.solutions := by
  intro ps optional b b' hps hb hb' v hv
  rw [Graph.solutions] at hb'
  split at hb'
  · rw [List.mem_singleton] at hb'
    exact hb v (hb' ▸ hv)
  · rcases GraphPattern.mem_domain_extensions hb' hv with hold | hnew
    · exact hb v hold
    · obtain ⟨p, hp, hv⟩ := List.mem_flatMap.1 hnew
      exact hps p hp v hv

/-- The solutions of the groups of a query, without the triples about targets. -/
def solutions (q : Query) (g : Graph) (eval : Evaluator) : List Binding :=
  Group.solutionsInTurn g eval false .empty q.groups

/-- The new variables of a description are not variables of the query. -/
def NamesApart (q : Query) (targets : List IriPattern) : Prop :=
  ∀ v ∈ (Group.allTriplePatterns q.groups).flatMap (·.variables) ++ targets.filterMap (·.var?),
    v ∉ describingVariables targets

instance (q : Query) (targets : List IriPattern) : Decidable (q.NamesApart targets) :=
  inferInstanceAs (Decidable (∀ _ ∈ _, _))

variable {q : Query} {eval : Evaluator} {index : TripleIndex}

lemma NamesApart.domain (h : q.NamesApart targets) (hb : b ∈ q.solutions g eval) :
    ∀ v ∈ b.domain, v ∉ describingVariables targets := by
  intro v hv
  rw [solutions, ← Group.solutionsInTurnBy_solutions] at hb
  have hkept := Group.kept_solutionsInTurnBy
    (keeps_domain g ((Group.allTriplePatterns q.groups).flatMap (·.variables)))
    (List.forall_mem_nil _) q.groups (fun _ hp _ hv => List.mem_flatMap.2 ⟨_, hp, hv⟩) hb
  exact h v (List.mem_append_left _ (hkept v hv))

lemma NamesApart.notMem (h : q.NamesApart targets) {v : Variable} (hv : .var v ∈ targets) :
    v ∉ describingVariables targets :=
  h v (List.mem_append_right _ (List.mem_filterMap.2 ⟨_, hv, rfl⟩))

/-- The bindings of a description extend the solutions of its groups. -/
lemma mem_bindings_description (hform : q.form = .describe targets) :
    b ∈ Group.solutionsInTurn g eval false .empty q.allGroups ↔
      ∃ c ∈ q.solutions g eval, b ∈ g.extensions (descriptionTemplate targets) c := by
  have hgroups : q.allGroups = q.groups ++ [.pattern (descriptionTemplate targets)] := by
    rw [allGroups, hform]
  rw [hgroups, Group.solutionsInTurn_append, List.mem_flatMap]
  refine exists_congr fun c => and_congr_right fun _ => ?_
  rw [Group.solutionsInTurn_singleton, Group.solutions]
  rfl

/-- A description makes each of its triples of a binding, and takes no blank node for it. -/
lemma mem_instances_description {fresh : Nat → BlankNode} {B : List Binding} :
    x ∈ instances (descriptionTemplate targets) fresh B ↔
      ∃ b ∈ B, ∃ p ∈ descriptionTemplate targets, Template.triple? b id p = some x := by
  have hground : ∀ p ∈ descriptionTemplate targets, p.isGround = false := by
    intro p hp
    obtain ⟨i, hi, rfl⟩ := mem_descriptionTemplate.1 hp
    cases targets[i] <;> rfl
  have hrename : ∀ p ∈ descriptionTemplate targets, ∀ (c : Binding) rename,
      Template.triple? c rename p = Template.triple? c id p := by
    intro p hp c rename
    obtain ⟨i, hi, rfl⟩ := mem_descriptionTemplate.1 hp
    cases htarget : targets[i] <;> rfl
  have hready : (Template.start (descriptionTemplate targets) fresh).ready = [] := by
    have hnone : (descriptionTemplate targets).filter (·.isGround) = [] :=
      List.filter_eq_nil_iff.2 fun p hp => by simp [hground p hp]
    rw [Template.start]
    dsimp only
    rw [hnone, List.filterMap_nil]
  have hpatterns : (Template.start (descriptionTemplate targets) fresh).patterns =
      descriptionTemplate targets :=
    List.filter_eq_self.2 fun p hp => by simp [hground p hp]
  rw [instances, hready, List.nil_append, Template.mem_instances, hpatterns]
  constructor
  · rintro ⟨j, hj, p, hp, hx⟩
    exact ⟨B[j], List.getElem_mem hj, p, hp, (hrename p hp _ _).symm.trans hx⟩
  · rintro ⟨b, hb, p, hp, hx⟩
    obtain ⟨j, hj, rfl⟩ := List.mem_iff_getElem.1 hb
    exact ⟨j, hj, p, hp, (hrename p hp _ _).trans hx⟩

/-- The bindings of a description make the triples about its targets, for each solution that leads
to a description of all of them. -/
lemma mem_instances_iff {fresh : Nat → BlankNode} {B : List Binding}
    (hform : q.form = .describe targets) (hnames : q.NamesApart targets)
    (hB : B.Perm (Group.solutionsInTurn g eval false .empty q.allGroups)) :
    x ∈ instances (descriptionTemplate targets) fresh B ↔
      ∃ b ∈ q.solutions g eval, ∃ a : Assignment,
        (∀ target ∈ targets, ∃ u, g.IsAbout (b.valuation a) target u) ∧
        ∃ target ∈ targets, ∃ u, g.IsAbout (b.valuation a) target u ∧
          target.shown? u = some x := by
  have hdescription : ∀ b ∈ q.solutions g eval, _ := fun b hb =>
    mem_description (g := g) (x := x) (hnames.domain hb) (fun _ => hnames.notMem) id
  rw [mem_instances_description]
  constructor
  · rintro ⟨c, hc, p, hp, hx⟩
    obtain ⟨b, hb, hc⟩ := (mem_bindings_description hform).1 (hB.mem_iff.1 hc)
    exact ⟨b, hb, (hdescription b hb).1 ⟨c, hc, p, hp, hx⟩⟩
  · rintro ⟨b, hb, hx⟩
    obtain ⟨c, hc, p, hp, hx⟩ := (hdescription b hb).2 hx
    exact ⟨c, hB.mem_iff.2 ((mem_bindings_description hform).2 ⟨b, hb, hc⟩), p, hp, hx⟩

/-- A target to which a solution gives a term keeps it, whatever else is assigned. -/
lemma isAbout_valuation (h : g.IsAbout (b.valuation []) target u) (a : Assignment) (u' : Triple) :
    g.IsAbout (b.valuation a) target u' ↔ g.IsAbout (b.valuation []) target u' := by
  have hvalue : target.value? (b.valuation a) = target.value? (b.valuation []) := by
    cases target with
    | iri i => rfl
    | var v =>
      obtain ⟨t, ht⟩ : ∃ t, b.get? v = some t := ⟨_, Option.or_none.symm.trans h.2⟩
      rw [IriPattern.value?, IriPattern.value?, Binding.valuation, Binding.valuation, ht,
        Option.some_or, Option.some_or]
  rw [Graph.IsAbout, Graph.IsAbout, hvalue]

/-- **Descriptions.**  Take a description that neither drops nor limits triples nor removes
repetitions, with variables that are neither reserved nor new ones of a description.  It shows the
triples about its targets, for each solution and each choice of terms for the targets that the
solution leaves open, if there is a triple about every one of the targets.  So if each solution
gives each target a term about which there is a triple, it shows all triples about the targets. -/
theorem delivers_description (hindex : index.Lists g) (hform : q.form = .describe targets)
    (hoffset : q.offset = 0) (hlimit : q.limit = none) (hdistinct : q.distinct = false)
    (hplain : PlainPatterns (Group.allTriplePatterns q.allGroups)) (hnames : q.NamesApart targets)
    (options : RunOptions) :
    ∃ (shown : List Triple) (t : RunningResults Search),
      Flow.Delivers false (q.run index.matchers options).1 (shown.map .triple) t ∧
      (∀ x, x ∈ shown ↔ ∃ b ∈ q.solutions g options.evaluator, ∃ a : Assignment,
        (∀ target ∈ targets, ∃ u, g.IsAbout (b.valuation a) target u) ∧
        ∃ target ∈ targets, ∃ u, g.IsAbout (b.valuation a) target u ∧
          target.shown? u = some x) ∧
      ((∀ b ∈ q.solutions g options.evaluator, ∀ target ∈ targets,
          ∃ u, g.IsAbout (b.valuation []) target u) →
        ∀ x, x ∈ shown ↔ ∃ b ∈ q.solutions g options.evaluator, ∃ target ∈ targets,
          ∃ u, g.IsAbout (b.valuation []) target u ∧ target.shown? u = some x) := by
  obtain ⟨outs, t, houts, hitems⟩ := Pipeline.delivers_behind hindex options.evaluator hplain
    (List.forall_mem_singleton.2 (List.forall_mem_nil _) : ∀ b ∈ [Binding.empty], b.IsPlain)
  rw [Multiset.coe_singleton, Multiset.singleton_bind, Multiset.coe_eq_coe] at hitems
  obtain ⟨B, t', hB, hperm⟩ :=
    Pipeline.exists_delivers_orderByAll options.evaluator options.window q.order houts
  obtain ⟨t'', ht''⟩ := q.delivers_triples (congrArg QueryForm.template? hform) hB
  rw [selected_eq_self hoffset hlimit hdistinct] at ht''
  have hexact : ∀ x, x ∈ instances (descriptionTemplate targets) options.fresh B ↔ _ :=
    fun _ => mem_instances_iff hform hnames (hperm.trans hitems)
  refine ⟨_, t'', ht'', hexact, fun hall x => (hexact x).trans ?_⟩
  refine exists_congr fun b => and_congr_right fun hb => ?_
  constructor
  · rintro ⟨a, -, target, htarget, u, hu, hx⟩
    obtain ⟨u', hu'⟩ := hall b hb target htarget
    exact ⟨target, htarget, u, (isAbout_valuation hu' a u).1 hu, hx⟩
  · rintro ⟨target, htarget, u, hu, hx⟩
    exact ⟨[], hall b hb, target, htarget, u, hu, hx⟩

/-- A description of some targets behind some groups. -/
def describing (targets : List IriPattern) (groups : List Group) : Query where
  form := .describe targets
  groups := groups
  order := []
  offset := 0
  limit := none
  distinct := false

/-- Whoever knows somebody, and somebody who is known. -/
def describingSample : Query :=
  describing [.var ⟨"x"⟩, .iri ⟨"b"⟩] [.pattern [⟨.var ⟨"x"⟩, .iri ⟨"knows"⟩, .blank ⟨"n"⟩⟩]]

theorem delivers_description_sample :
    Graph.sample.index.Lists Graph.sample ∧
      describingSample.form = .describe [.var ⟨"x"⟩, .iri ⟨"b"⟩] ∧ describingSample.offset = 0 ∧
      describingSample.limit = none ∧ describingSample.distinct = false ∧
      PlainPatterns (Group.allTriplePatterns describingSample.allGroups) ∧
      describingSample.NamesApart [.var ⟨"x"⟩, .iri ⟨"b"⟩] ∧
      ∃ (shown : List Triple) (t : RunningResults Search),
        Flow.Delivers false (describingSample.run Graph.sample.index.matchers .standard).1
          (shown.map .triple) t ∧
        ∀ x ∈ Graph.sample.triples, x ∈ shown := by
  have hplain : PlainPatterns (Group.allTriplePatterns describingSample.allGroups) := by
    decide +kernel
  have hnames : describingSample.NamesApart [.var ⟨"x"⟩, .iri ⟨"b"⟩] := by decide +kernel
  have hsolutions : describingSample.solutions Graph.sample Expression.evaluate =
      [⟨[(⟨"x"⟩, .iri ⟨"b"⟩)]⟩, ⟨[(⟨"x"⟩, .iri ⟨"a"⟩)]⟩] := by decide +kernel
  obtain ⟨shown, t, hshown, -, hall⟩ := delivers_description Graph.sample.lists_index
    (rfl : describingSample.form = _) rfl rfl rfl hplain hnames .standard
  have hsubjects : ∀ b ∈ [Binding.mk [(⟨"x"⟩, .iri ⟨"b"⟩)], ⟨[(⟨"x"⟩, .iri ⟨"a"⟩)]⟩],
      ∀ target ∈ [IriPattern.var ⟨"x"⟩, .iri ⟨"b"⟩], ∃ u ∈ Graph.sample.triples,
        target.value? (b.valuation []) = some u.subject.toTerm := by
    decide +kernel
  have habout : ∀ x ∈ Graph.sample.triples,
      ∃ b ∈ [Binding.mk [(⟨"x"⟩, .iri ⟨"b"⟩)], ⟨[(⟨"x"⟩, .iri ⟨"a"⟩)]⟩],
        IriPattern.value? (b.valuation []) (.var ⟨"x"⟩) = some x.subject.toTerm ∧
          IriPattern.shown? (.var ⟨"x"⟩) x = some x := by
    decide +kernel
  refine ⟨Graph.sample.lists_index, rfl, rfl, rfl, rfl, hplain, hnames, shown, t, hshown, ?_⟩
  intro x hx
  obtain ⟨b, hb, hvalue, hx'⟩ := habout x hx
  rw [← hsolutions] at hb hsubjects
  exact (hall hsubjects x).2 ⟨b, hb, _, List.mem_cons_self, x, ⟨hx, hvalue⟩, hx'⟩

/-- Nothing is shown of a target about which there are triples, if there is none about another. -/
theorem delivers_description_nothing :
    (∃ t, Flow.Delivers false ((describing [.iri ⟨"a"⟩, .iri ⟨"c"⟩] []).run
        Graph.sample.index.matchers .standard).1 [] t) ∧
      .empty ∈ (describing [.iri ⟨"a"⟩, .iri ⟨"c"⟩] []).solutions Graph.sample
        Expression.evaluate ∧
      Graph.sample.IsAbout (Binding.empty.valuation []) (.iri ⟨"a"⟩)
        ⟨.iri ⟨"a"⟩, ⟨"knows"⟩, .iri ⟨"b"⟩⟩ ∧
      IriPattern.shown? (.iri ⟨"a"⟩) ⟨.iri ⟨"a"⟩, ⟨"knows"⟩, .iri ⟨"b"⟩⟩ =
        some ⟨.iri ⟨"a"⟩, ⟨"knows"⟩, .iri ⟨"b"⟩⟩ :=
  ⟨Flow.delivers_of_collect 40 (by decide +kernel), by decide +kernel,
    ⟨by decide +kernel, by decide +kernel⟩, by decide +kernel⟩

end Query

end SparqlStream
