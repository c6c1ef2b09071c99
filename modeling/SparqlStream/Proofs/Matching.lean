import Mathlib.Tactic
import SparqlStream.Proofs.Denotation
import SparqlStream.Proofs.Extension

/-!
# A search finds the extensions

A depth-first search tries, for one pattern after another, the triples that an index lists for
it.  `foundFrom` lists the bindings in which it ends.  Such a binding grows along all slots of the
patterns and makes every pattern a triple of the graph, and each one is found once, because the
triples tried for a pattern are different and a binding makes a pattern one triple only.

The extensions of `Graph.extensions` have the same two properties, once the unknowns of a pattern
are read as variables.  Hence the search finds a permutation of them: `foundFrom_perm`.  This needs
that different unknowns are different variables, and that a blank node is not bound from the
beginning: `HiddenApart`.
-/

namespace SparqlStream

/-! ## One pattern and one triple -/

namespace SlotPattern

/-- The positions of a pattern. -/
def slots (p : SlotPattern) : List Slot := [p.subject, p.predicate, p.object]

/-- Whether a binding makes a pattern a certain triple. -/
def Becomes (p : SlotPattern) (b : Binding) (t : Triple) : Prop :=
  p.subject.value? b = some t.subject.toTerm ∧ p.predicate.value? b = some (.iri t.predicate) ∧
    p.object.value? b = some t.object

variable {p : SlotPattern} {b b' b₁ : Binding} {t t' : Triple} {ss : List Slot}
  {index : TripleIndex} {g : Graph}

lemma Becomes.unique (h : p.Becomes b t) (h' : p.Becomes b t') : t = t' := by
  obtain ⟨hs, hp, ho⟩ := h
  obtain ⟨hs', hp', ho'⟩ := h'
  have hsubject : t.subject = t'.subject := by
    have hterm := Option.some.inj (hs.symm.trans hs')
    rw [← Term.toSubject?_eq_some, Subject.toSubject?_toTerm] at hterm
    exact Option.some.inj hterm
  have hpredicate : t.predicate = t'.predicate :=
    Term.iri.inj (Option.some.inj (hp.symm.trans hp'))
  have hobject : t.object = t'.object := Option.some.inj (ho.symm.trans ho')
  cases t
  cases t'
  simp_all only

/-- What a pattern becomes does not change after its positions have been bound. -/
lemma becomes_congr (hg : Binding.Grows p.slots b b₁) (hg' : Binding.Grows ss b₁ b') :
    p.Becomes b' t ↔ p.Becomes b₁ t := by
  rw [Becomes, Becomes, hg.value?_eq (s := p.subject) (by simp [slots]) hg',
    hg.value?_eq (s := p.predicate) (by simp [slots]) hg',
    hg.value?_eq (s := p.object) (by simp [slots]) hg']

/-- A pattern is matched with a triple by binding what it leaves open. -/
lemma matchTriple_eq_some :
    p.matchTriple b t = some b' ↔ Binding.Grows p.slots b b' ∧ p.Becomes b' t := by
  have hslots : p.slots = [p.subject] ++ ([p.predicate] ++ [p.object]) := rfl
  rw [hslots]
  simp only [matchTriple, Option.bind_eq_bind, Option.bind_eq_some_iff, Slot.matchTerm_eq_some]
  constructor
  · rintro ⟨b₁, ⟨hg₁, hs⟩, b₂, ⟨hg₂, hp⟩, hg₃, ho⟩
    have hg := Binding.grows_append.2 ⟨b₂, hg₂, hg₃⟩
    exact ⟨Binding.grows_append.2 ⟨b₁, hg₁, hg⟩, hg.value? hs, hg₃.value? hp, ho⟩
  · rintro ⟨hg, hs, hp, ho⟩
    obtain ⟨b₁, hg₁, hg⟩ := Binding.grows_append.1 hg
    obtain ⟨b₂, hg₂, hg₃⟩ := Binding.grows_append.1 hg
    refine ⟨b₁, ⟨hg₁, ?_⟩, b₂, ⟨hg₂, ?_⟩, hg₃, ho⟩
    · rwa [← hg₁.value?_eq List.mem_cons_self hg]
    · rwa [← hg₂.value?_eq List.mem_cons_self hg₃]

/-! ## Candidates -/

/-- The candidates of a pattern are some triples of the graph, with all that can match. -/
lemma candidates_perm (hindex : index.Lists g) (p : SlotPattern) (b : Binding) :
    ∃ keeps : Triple → Bool, (p.candidates index b).Perm (g.triples.filter keeps) ∧
      ∀ ss b' t, Binding.Grows ss b b' → p.Becomes b' t → keeps t = true := by
  cases hs : p.subject.value? b with
  | some s =>
    refine ⟨fun t => s.toSubject? = some t.subject, ?_, ?_⟩
    · simp only [candidates, hs]
      cases hsub : s.toSubject? with
      | none => simp
      | some i => simpa [eq_comm] using hindex.withSubject i
    · intro ss b' t hg hb
      have hterm := Option.some.inj ((hg.value? hs).symm.trans hb.1)
      simp [hterm]
  | none =>
    cases hq : p.predicate.value? b with
    | some q =>
      refine ⟨fun t => q.toIri? = some t.predicate, ?_, ?_⟩
      · simp only [candidates, hs, hq]
        cases hiri : q.toIri? with
        | none => simp
        | some i => simpa [eq_comm] using hindex.withPredicate i
      · intro ss b' t hg hb
        have hterm := Option.some.inj ((hg.value? hq).symm.trans hb.2.1)
        simp [hterm, Term.toIri?]
    | none =>
      cases ho : p.object.value? b with
      | some o =>
        refine ⟨fun t => t.object = o, ?_, ?_⟩
        · rw [candidates, hs, hq, ho]
          exact hindex.withObject o
        · intro ss b' t hg hb
          have hterm := Option.some.inj ((hg.value? ho).symm.trans hb.2.2)
          simp [hterm]
      | none =>
        refine ⟨fun _ => true, ?_, fun _ _ _ _ _ => rfl⟩
        rw [candidates, hs, hq, ho]
        simpa using hindex.all

lemma mem_of_mem_candidates (hindex : index.Lists g) (ht : t ∈ p.candidates index b) :
    t ∈ g.triples := by
  obtain ⟨keeps, hperm, -⟩ := candidates_perm hindex p b
  exact (List.mem_filter.1 (hperm.mem_iff.1 ht)).1

lemma mem_candidates (hindex : index.Lists g) (ht : t ∈ g.triples)
    (hg : Binding.Grows ss b b') (hb : p.Becomes b' t) : t ∈ p.candidates index b := by
  obtain ⟨keeps, hperm, hkeeps⟩ := candidates_perm hindex p b
  exact hperm.mem_iff.2 (List.mem_filter.2 ⟨ht, hkeeps ss b' t hg hb⟩)

lemma nodup_candidates (hindex : index.Lists g) : (p.candidates index b).Nodup := by
  obtain ⟨keeps, hperm, -⟩ := candidates_perm hindex p b
  exact hperm.nodup_iff.2 (g.nodup.filter _)

end SlotPattern

/-! ## Several patterns -/

/-- The bindings in which a search for some patterns ends. -/
def foundFrom (index : TripleIndex) : List SlotPattern → Binding → List Binding
  | [], b => [b]
  | p :: later, b => (p.candidates index b).flatMap fun t =>
    (p.matchTriple b t).elim [] (foundFrom index later)

section Found

variable {index : TripleIndex} {g : Graph} {ps : List SlotPattern} {b b' : Binding}

lemma mem_elim_nil {α β : Type} {o : Option α} {f : α → List β} {x : β} :
    x ∈ o.elim [] f ↔ ∃ a, o = some a ∧ x ∈ f a := by
  cases o <;> simp

/-- A search finds the bindings that grow along all slots and make every pattern a triple. -/
lemma mem_foundFrom (hindex : index.Lists g) :
    b' ∈ foundFrom index ps b ↔ Binding.Grows (ps.flatMap (·.slots)) b b' ∧
      ∀ p ∈ ps, ∃ t ∈ g.triples, p.Becomes b' t := by
  induction ps generalizing b with
  | nil =>
    rw [foundFrom, List.mem_singleton, List.flatMap_nil, Binding.grows_nil]
    simp
  | cons p ps ih =>
    simp only [foundFrom, List.mem_flatMap, mem_elim_nil, ih, List.flatMap_cons,
      List.forall_mem_cons, Binding.grows_append, SlotPattern.matchTriple_eq_some]
    constructor
    · rintro ⟨t, ht, b₁, ⟨hg, hb⟩, hg', hall⟩
      exact ⟨⟨b₁, hg, hg'⟩, ⟨t, SlotPattern.mem_of_mem_candidates hindex ht,
        (SlotPattern.becomes_congr hg hg').2 hb⟩, hall⟩
    · rintro ⟨⟨b₁, hg, hg'⟩, ⟨t, ht, hb⟩, hall⟩
      have hb₁ := (SlotPattern.becomes_congr hg hg').1 hb
      exact ⟨t, SlotPattern.mem_candidates hindex ht hg hb₁, b₁, ⟨hg, hb₁⟩, hg', hall⟩

/-- A search finds nothing twice. -/
lemma nodup_foundFrom (hindex : index.Lists g) : (foundFrom index ps b).Nodup := by
  induction ps generalizing b with
  | nil => exact List.nodup_singleton b
  | cons p ps ih =>
    rw [foundFrom, List.nodup_flatMap]
    constructor
    · intro t _
      cases p.matchTriple b t with
      | none => exact List.nodup_nil
      | some b₁ => exact ih
    · refine (SlotPattern.nodup_candidates hindex).imp ?_
      intro t t' hne b' hb' hb''
      obtain ⟨b₁, h₁, hfound₁⟩ := mem_elim_nil.1 hb'
      obtain ⟨b₂, h₂, hfound₂⟩ := mem_elim_nil.1 hb''
      obtain ⟨hg₁, hbecomes₁⟩ := SlotPattern.matchTriple_eq_some.1 h₁
      obtain ⟨hg₂, hbecomes₂⟩ := SlotPattern.matchTriple_eq_some.1 h₂
      have hb₁ := (SlotPattern.becomes_congr hg₁ ((mem_foundFrom hindex).1 hfound₁).1).2 hbecomes₁
      have hb₂ := (SlotPattern.becomes_congr hg₂ ((mem_foundFrom hindex).1 hfound₂).1).2 hbecomes₂
      exact hne (hb₁.unique hb₂)

/-- What a search finds does not depend on the order in which a graph is listed. -/
lemma foundFrom_perm_of_lists {index' : TripleIndex} (hindex : index.Lists g)
    (hindex' : index'.Lists g) : (foundFrom index ps b).Perm (foundFrom index' ps b) := by
  refine (List.perm_ext_iff_of_nodup (nodup_foundFrom hindex) (nodup_foundFrom hindex')).2 ?_
  intro b'
  rw [mem_foundFrom hindex, mem_foundFrom hindex']

end Found

/-! ## Unknowns as variables -/

lemma isReserved_blankVariable (n : BlankNode) : (Slot.blankVariable n).isReserved = true := by
  rw [Variable.isReserved, Slot.blankVariable, List.isPrefixOf_iff_prefix, String.toList_append]
  exact List.prefix_append _ _

lemma Slot.blankVariable_inj {n m : BlankNode}
    (h : Slot.blankVariable n = Slot.blankVariable m) : n = m := by
  have hname := congrArg (fun v => v.name.toList) h
  simp only [Slot.blankVariable, String.toList_append, List.append_cancel_left_eq,
    String.toList_inj] at hname
  cases n
  cases m
  simp_all only

namespace Unknown

/-- The variable under which a search matches an unknown. -/
def toVariable : Unknown → Variable
  | var v => v
  | blank n => Slot.blankVariable n

/-- An unknown that is no variable with a reserved name. -/
def IsPlain : Unknown → Prop
  | var v => v.isReserved = false
  | blank _ => True

end Unknown

lemma TermPattern.var?_ofTermPattern (x : TermPattern) :
    (Slot.ofTermPattern x).var? = x.unknown?.map (·.toVariable) := by
  cases x <;> rfl

lemma IriPattern.var?_ofIriPattern (x : IriPattern) :
    (Slot.ofIriPattern x).var? = x.unknown?.map (·.toVariable) := by
  cases x <;> rfl

lemma filterMap_var?_slots (ps : List TriplePattern) :
    (((ps.map .ofPattern).flatMap SlotPattern.slots).filterMap (·.var?)) =
      (ps.flatMap (·.unknowns)).map (·.toVariable) := by
  induction ps with
  | nil => rfl
  | cons p ps ih =>
    rw [List.map_cons, List.flatMap_cons, List.flatMap_cons, List.filterMap_append, ih,
      List.map_append]
    congr 1
    simp only [SlotPattern.slots, SlotPattern.ofPattern, TriplePattern.unknowns,
      List.filterMap_cons, List.filterMap_nil, TermPattern.var?_ofTermPattern,
      IriPattern.var?_ofIriPattern]
    cases p.subject.unknown? <;> cases p.predicate.unknown? <;> cases p.object.unknown? <;> rfl

lemma mem_variables {ps : List TriplePattern} {v : Variable}
    (hv : .var v ∈ ps.flatMap (·.unknowns)) : v ∈ ps.flatMap (·.variables) := by
  obtain ⟨p, hp, hu⟩ := List.mem_flatMap.1 hv
  refine List.mem_flatMap.2 ⟨p, hp, ?_⟩
  obtain ⟨s, q, o⟩ := p
  simp only [TriplePattern.unknowns, TriplePattern.variables, List.mem_append,
    Option.mem_toList] at hu ⊢
  rcases hu with (hs | hq) | ho
  · cases s <;> cases hs
    exact .inl (.inl rfl)
  · cases q <;> cases hq
    exact .inl (.inr rfl)
  · cases o <;> cases ho
    exact .inr rfl

lemma PlainPatterns.isPlain {ps : List TriplePattern} (hps : PlainPatterns ps) {u : Unknown}
    (hu : u ∈ ps.flatMap (·.unknowns)) : u.IsPlain := by
  cases u with
  | blank n => trivial
  | var v => exact hps v (mem_variables hu)

lemma mem_hiddenVariables {ps : List TriplePattern} {v : Variable} :
    v ∈ ps.flatMap (·.hiddenVariables) ↔
      ∃ n, .blank n ∈ ps.flatMap (·.unknowns) ∧ v = Slot.blankVariable n := by
  simp only [List.mem_flatMap]
  constructor
  · rintro ⟨⟨s, q, o⟩, hp, hv⟩
    simp only [TriplePattern.hiddenVariables, List.mem_append] at hv
    rcases hv with hv | hv
    · cases s <;> simp only [List.not_mem_nil, List.mem_singleton] at hv
      exact ⟨_, ⟨_, hp, by simp [TriplePattern.unknowns, TermPattern.unknown?]⟩, hv⟩
    · cases o <;> simp only [List.not_mem_nil, List.mem_singleton] at hv
      exact ⟨_, ⟨_, hp, by simp [TriplePattern.unknowns, TermPattern.unknown?]⟩, hv⟩
  · rintro ⟨n, ⟨⟨s, q, o⟩, hp, hu⟩, rfl⟩
    refine ⟨_, hp, ?_⟩
    simp only [TriplePattern.unknowns, List.mem_append, Option.mem_toList] at hu
    simp only [TriplePattern.hiddenVariables, List.mem_append]
    rcases hu with (hu | hu) | hu
    · cases s <;> cases hu
      exact .inl (List.mem_singleton_self _)
    · cases q <;> cases hu
    · cases o <;> cases hu
      exact .inr (List.mem_singleton_self _)

/-- The variables that stand for the blank nodes of some patterns are neither variables of these
patterns nor bound. -/
def HiddenApart (ps : List TriplePattern) (b : Binding) : Prop :=
  ∀ v ∈ ps.flatMap (·.hiddenVariables), v ∉ ps.flatMap (·.variables) ∧ v ∉ b.domain

instance (ps : List TriplePattern) (b : Binding) : Decidable (HiddenApart ps b) :=
  inferInstanceAs (Decidable (∀ _ ∈ _, _))

/-- Without reserved names, no name is that of a blank node. -/
lemma PlainPatterns.hiddenApart {ps : List TriplePattern} {b : Binding} (hps : PlainPatterns ps)
    (hb : b.IsPlain) : HiddenApart ps b := by
  intro v hv
  obtain ⟨n, -, rfl⟩ := mem_hiddenVariables.1 hv
  have hreserved := isReserved_blankVariable n
  refine ⟨fun hmem => ?_, fun hmem => ?_⟩
  · rw [hps _ hmem] at hreserved
    cases hreserved
  · rw [hb _ hmem] at hreserved
    cases hreserved

section Reading

variable {ps : List TriplePattern} {b b' : Binding} {a : Assignment} {u w : Unknown}

lemma HiddenApart.ne_blankVariable (h : HiddenApart ps b) {v : Variable} {n : BlankNode}
    (hv : .var v ∈ ps.flatMap (·.unknowns)) (hn : .blank n ∈ ps.flatMap (·.unknowns)) :
    v ≠ Slot.blankVariable n := by
  rintro rfl
  exact (h _ (mem_hiddenVariables.2 ⟨n, hn, rfl⟩)).1 (mem_variables hv)

/-- Of the unknowns of some patterns, the blank nodes are matched as variables that are hidden. -/
lemma HiddenApart.toVariable_mem_hidden (h : HiddenApart ps b)
    (hu : u ∈ ps.flatMap (·.unknowns)) :
    u.toVariable ∈ ps.flatMap (·.hiddenVariables) ↔ u.var? = none := by
  cases u with
  | var v =>
    exact iff_of_false (fun hhidden => (h v hhidden).1 (mem_variables hu))
      (Option.some_ne_none v)
  | blank n => exact iff_of_true (mem_hiddenVariables.2 ⟨n, hu, rfl⟩) rfl

/-- The unknowns of some patterns are matched as different variables. -/
lemma HiddenApart.toVariable_inj (h : HiddenApart ps b) (hu : u ∈ ps.flatMap (·.unknowns))
    (hw : w ∈ ps.flatMap (·.unknowns)) (huw : u.toVariable = w.toVariable) : u = w := by
  cases u with
  | var v =>
    cases w with
    | var v' => exact congrArg Unknown.var huw
    | blank n => exact absurd huw (h.ne_blankVariable hu hw)
  | blank n =>
    cases w with
    | var v => exact absurd huw.symm (h.ne_blankVariable hw hu)
    | blank m => exact congrArg Unknown.blank (Slot.blankVariable_inj huw)

/-- The binding does not bind what stands for a blank node. -/
lemma HiddenApart.get?_blankVariable (h : HiddenApart ps b) {n : BlankNode}
    (hn : .blank n ∈ ps.flatMap (·.unknowns)) : b.get? (Slot.blankVariable n) = none :=
  Binding.get?_eq_none.2 (h _ (mem_hiddenVariables.2 ⟨n, hn, rfl⟩)).2

lemma HiddenApart.isOpen_eq (h : HiddenApart ps b) (hu : u ∈ ps.flatMap (·.unknowns)) :
    u.isOpen b = !b.contains u.toVariable := by
  cases u with
  | var v => rfl
  | blank n =>
    rw [Binding.contains, Unknown.toVariable, h.get?_blankVariable hu]
    rfl

lemma mem_openUnknowns :
    u ∈ openUnknowns ps b ↔ u ∈ ps.flatMap (·.unknowns) ∧ u.isOpen b = true := by
  rw [openUnknowns, List.mem_eraseDups, List.mem_filter]

lemma openVariables_eq (h : HiddenApart ps b) :
    openVariables ((ps.map .ofPattern).flatMap SlotPattern.slots) b =
      (openUnknowns ps b).map (·.toVariable) := by
  have hfilter : ((ps.flatMap (·.unknowns)).map (·.toVariable)).filter (!b.contains ·) =
      ((ps.flatMap (·.unknowns)).filter (·.isOpen b)).map (·.toVariable) := by
    rw [List.filter_map]
    congr 1
    exact List.filter_congr fun u hu => (h.isOpen_eq hu).symm
  rw [openVariables, filterMap_var?_slots, hfilter, openUnknowns]
  refine (map_eraseDups _ _ fun u hu w hw => ?_).symm
  exact h.toVariable_inj (List.mem_filter.1 hu).1 (List.mem_filter.1 hw).1

/-- A binding extended by an assignment, with its blank nodes as a search binds them. -/
def Binding.readAs (b : Binding) (a : Assignment) : Binding :=
  ⟨b.entries ++ a.map fun e => (e.1.toVariable, e.2)⟩

/-- A list whose first components are images is the image of a list. -/
lemma exists_map_fst {α β γ : Type} {f : α → β} {l : List (β × γ)} {us : List α}
    (h : l.map Prod.fst = us.map f) :
    ∃ a : List (α × γ), a.map Prod.fst = us ∧ l = a.map fun e => (f e.1, e.2) := by
  induction us generalizing l with
  | nil => exact ⟨[], rfl, List.map_eq_nil_iff.1 h⟩
  | cons u us ih =>
    obtain ⟨⟨x, t⟩, l', rfl, hx, hl'⟩ := List.map_eq_cons_iff.1 h
    obtain ⟨a, ha, rfl⟩ := ih hl'
    refine ⟨(u, t) :: a, by rw [List.map_cons, ha], ?_⟩
    dsimp only at hx
    rw [List.map_cons, hx]

/-- The growth of a binding along patterns is an assignment to what it leaves open. -/
lemma grows_iff_readAs (h : HiddenApart ps b) :
    Binding.Grows ((ps.map .ofPattern).flatMap SlotPattern.slots) b b' ↔
      ∃ a : Assignment, a.map Prod.fst = openUnknowns ps b ∧ b' = b.readAs a := by
  constructor
  · rintro ⟨l, rfl, hl⟩
    rw [openVariables_eq h] at hl
    obtain ⟨a, ha, rfl⟩ := exists_map_fst hl
    exact ⟨a, ha, rfl⟩
  · rintro ⟨a, ha, rfl⟩
    refine ⟨_, rfl, ?_⟩
    rw [openVariables_eq h, ← ha, List.map_map, List.map_map]
    rfl

lemma lookup_readAs (h : HiddenApart ps b) (ha : ∀ e ∈ a, e.1 ∈ ps.flatMap (·.unknowns))
    (hu : u ∈ ps.flatMap (·.unknowns)) :
    (a.map fun e => (e.1.toVariable, e.2)).lookup u.toVariable = a.lookup u := by
  induction a with
  | nil => rfl
  | cons e a ih =>
    obtain ⟨he, hrest⟩ := List.forall_mem_cons.1 ha
    obtain ⟨w, t⟩ := e
    by_cases hw : u = w
    · subst hw
      rw [List.map_cons, List.lookup_cons_self, List.lookup_cons_self]
    · have hne : u.toVariable ≠ w.toVariable := fun huw => hw (h.toVariable_inj hu he huw)
      rw [List.map_cons, List.lookup_cons, List.lookup_cons, beq_false_of_ne hne,
        beq_false_of_ne hw]
      exact ih hrest

/-- Reading an assignment, a binding says about an unknown what the valuation says. -/
lemma get?_readAs (h : HiddenApart ps b) (ha : ∀ e ∈ a, e.1 ∈ ps.flatMap (·.unknowns))
    (hu : u ∈ ps.flatMap (·.unknowns)) :
    (b.readAs a).get? u.toVariable = b.valuation a u := by
  rw [Binding.readAs, Binding.get?_append, lookup_readAs h ha hu]
  cases u with
  | var v => rfl
  | blank n =>
    rw [Unknown.toVariable, h.get?_blankVariable hu, Option.none_or]
    rfl

lemma value?_ofTermPattern (h : HiddenApart ps b) (ha : ∀ e ∈ a, e.1 ∈ ps.flatMap (·.unknowns))
    {x : TermPattern} (hx : ∀ u, x.unknown? = some u → u ∈ ps.flatMap (·.unknowns)) :
    (Slot.ofTermPattern x).value? (b.readAs a) = x.value? (b.valuation a) := by
  cases x with
  | iri _ => rfl
  | literal _ => rfl
  | blank n => exact get?_readAs (u := .blank n) h ha (hx _ rfl)
  | var v => exact get?_readAs (u := .var v) h ha (hx _ rfl)

lemma value?_ofIriPattern (h : HiddenApart ps b) (ha : ∀ e ∈ a, e.1 ∈ ps.flatMap (·.unknowns))
    {x : IriPattern} (hx : ∀ u, x.unknown? = some u → u ∈ ps.flatMap (·.unknowns)) :
    (Slot.ofIriPattern x).value? (b.readAs a) = x.value? (b.valuation a) := by
  cases x with
  | iri _ => rfl
  | var v => exact get?_readAs (u := .var v) h ha (hx _ rfl)

lemma becomes_ofPattern (h : HiddenApart ps b) (ha : ∀ e ∈ a, e.1 ∈ ps.flatMap (·.unknowns))
    {p : TriplePattern} (hp : p ∈ ps) (t : Triple) :
    (SlotPattern.ofPattern p).Becomes (b.readAs a) t ↔ p.becomes (b.valuation a) t = true := by
  have hmem : ∀ u ∈ p.unknowns, u ∈ ps.flatMap (·.unknowns) :=
    fun u hu => List.mem_flatMap.2 ⟨p, hp, hu⟩
  simp only [TriplePattern.unknowns, List.mem_append, Option.mem_toList] at hmem
  rw [SlotPattern.Becomes, TriplePattern.becomes, decide_eq_true_iff, SlotPattern.ofPattern,
    value?_ofTermPattern h ha fun u hu => hmem u (.inl (.inl hu)),
    value?_ofIriPattern h ha fun u hu => hmem u (.inl (.inr hu)),
    value?_ofTermPattern h ha fun u hu => hmem u (.inr hu)]

/-! ## Assignments -/

lemma mem_assignments {ts : List Term} {us : List Unknown} :
    a ∈ assignments ts us ↔ a.map Prod.fst = us ∧ ∀ e ∈ a, e.2 ∈ ts := by
  induction us generalizing a with
  | nil =>
    rw [assignments, List.mem_singleton, List.map_eq_nil_iff]
    exact ⟨fun h => ⟨h, by simp [h]⟩, And.left⟩
  | cons u us ih =>
    simp only [assignments, List.mem_flatMap, List.mem_map, ih]
    constructor
    · rintro ⟨t, ht, a', ⟨rfl, hmem⟩, rfl⟩
      exact ⟨rfl, List.forall_mem_cons.2 ⟨ht, hmem⟩⟩
    · rintro ⟨hfst, hmem⟩
      obtain ⟨⟨x, t⟩, a', rfl, rfl, hfst'⟩ := List.map_eq_cons_iff.1 hfst
      obtain ⟨ht, hmem'⟩ := List.forall_mem_cons.1 hmem
      exact ⟨t, ht, a', ⟨hfst', hmem'⟩, rfl⟩

lemma nodup_assignments {ts : List Term} (hts : ts.Nodup) (us : List Unknown) :
    (assignments ts us).Nodup := by
  induction us with
  | nil => exact List.nodup_singleton []
  | cons u us ih =>
    rw [assignments, List.nodup_flatMap]
    constructor
    · intro t _
      exact ih.map (List.cons_injective)
    · refine hts.imp ?_
      intro t t' hne l hl hl'
      obtain ⟨a, -, rfl⟩ := List.mem_map.1 hl
      obtain ⟨a', -, heq⟩ := List.mem_map.1 hl'
      exact hne (Prod.mk.inj (List.cons.inj heq).1).2.symm

lemma lookup_of_mem {α β : Type} [BEq α] [LawfulBEq α] {l : List (α × β)} {e : α × β}
    (hl : (l.map Prod.fst).Nodup) (he : e ∈ l) : l.lookup e.1 = some e.2 := by
  induction l with
  | nil => cases he
  | cons x l ih =>
    obtain ⟨hx, hl⟩ := List.nodup_cons.1 hl
    rcases List.mem_cons.1 he with rfl | he
    · exact List.lookup_cons_self
    · have hne : e.1 ≠ x.1 := by
        intro h
        exact hx (List.mem_map.2 ⟨e, he, h⟩)
      rw [List.lookup_cons, beq_false_of_ne hne]
      exact ih hl he

/-- A pattern that becomes a triple takes the terms of its unknowns from it. -/
lemma mem_terms_of_becomes {g : Graph} {p : TriplePattern} {σ : Unknown → Option Term}
    {t : Triple} {x : Term} (ht : t ∈ g.triples) (hb : p.becomes σ t = true)
    (hu : u ∈ p.unknowns) (hx : σ u = some x) : x ∈ g.terms := by
  rw [TriplePattern.becomes, decide_eq_true_iff] at hb
  obtain ⟨hs, hq, ho⟩ := hb
  obtain ⟨s, q, o⟩ := p
  rw [Graph.terms, List.mem_dedup, List.mem_flatMap]
  refine ⟨t, ht, ?_⟩
  simp only [TriplePattern.unknowns, List.mem_append, Option.mem_toList] at hu
  simp only [List.mem_cons, List.not_mem_nil, or_false]
  rcases hu with (hu | hu) | hu
  · cases s <;> cases hu <;> exact .inl (Option.some.inj (hx.symm.trans hs))
  · cases q <;> cases hu
    exact .inr (.inl (Option.some.inj (hx.symm.trans hq)))
  · cases o <;> cases hu <;> exact .inr (.inr (Option.some.inj (hx.symm.trans ho)))

/-- An assignment to open unknowns that satisfies the patterns uses terms of the graph only. -/
lemma mem_terms_of_satisfies {g : Graph} (ha : a.map Prod.fst = openUnknowns ps b)
    (hall : ∀ p ∈ ps, ∃ t ∈ g.triples, p.becomes (b.valuation a) t = true) :
    ∀ e ∈ a, e.2 ∈ g.terms := by
  intro e he
  have hopen : e.1 ∈ openUnknowns ps b := by
    rw [← ha]
    exact List.mem_map_of_mem he
  obtain ⟨hmem, hisOpen⟩ := mem_openUnknowns.1 hopen
  obtain ⟨p, hp, hu⟩ := List.mem_flatMap.1 hmem
  obtain ⟨t, ht, hb⟩ := hall p hp
  refine mem_terms_of_becomes ht hb hu ?_
  have hkeys : (a.map Prod.fst).Nodup := by
    rw [ha, openUnknowns]
    exact nodup_eraseDups _
  have hlookup := lookup_of_mem hkeys he
  cases hu : e.1 with
  | blank n =>
    rw [hu] at hlookup
    exact hlookup
  | var v =>
    rw [hu] at hlookup hisOpen
    have hnone : b.get? v = none := by
      rw [Binding.get?_eq_none, ← Binding.contains_eq_false]
      rwa [Unknown.isOpen, Bool.not_eq_true'] at hisOpen
    rw [Binding.valuation, hnone, Option.none_or]
    exact hlookup

/-! ## The search and the extensions -/

section Perm

variable {g : Graph} {index : TripleIndex}

lemma mem_satisfying : a ∈ g.satisfying ps b ↔ a.map Prod.fst = openUnknowns ps b ∧
    ∀ p ∈ ps, ∃ t ∈ g.triples, p.becomes (b.valuation a) t = true := by
  rw [Graph.satisfying, List.mem_filter, mem_assignments, List.all_eq_true]
  simp only [List.any_eq_true]
  exact ⟨fun h => ⟨h.1.1, h.2⟩, fun h => ⟨⟨h.1, mem_terms_of_satisfies h.1 h.2⟩, h.2⟩⟩

lemma mem_unknowns_of_mem_satisfying (ha : a ∈ g.satisfying ps b) :
    ∀ e ∈ a, e.1 ∈ ps.flatMap (·.unknowns) := by
  intro e he
  have hopen : e.1 ∈ openUnknowns ps b := by
    rw [← (mem_satisfying.1 ha).1]
    exact List.mem_map_of_mem he
  exact (mem_openUnknowns.1 hopen).1

lemma isPlain_of_mem_satisfying (hps : PlainPatterns ps) (ha : a ∈ g.satisfying ps b) :
    ∀ e ∈ a, e.1.IsPlain :=
  fun e he => hps.isPlain (mem_unknowns_of_mem_satisfying ha e he)

lemma nodup_satisfying : (g.satisfying ps b).Nodup :=
  (nodup_assignments (List.nodup_dedup _) _).filter _

lemma nodup_readAs : ((g.satisfying ps b).map b.readAs).Nodup := by
  refine List.Nodup.map_on ?_ nodup_satisfying
  intro a ha a' ha' heq
  have hfst : a.map Prod.fst = a'.map Prod.fst := by
    rw [(mem_satisfying.1 ha).1, (mem_satisfying.1 ha').1]
  have hsnd : a.map Prod.snd = a'.map Prod.snd := by
    have hentries := List.append_cancel_left (congrArg Binding.entries heq)
    have hmap := congrArg (List.map Prod.snd) hentries
    simpa only [List.map_map, Function.comp_def] using hmap
  rw [← List.zip_unzip a, ← List.zip_unzip a', List.unzip_eq_map, List.unzip_eq_map, hfst, hsnd]

/-- A search finds the extensions of a binding, blank nodes included. -/
theorem foundFrom_perm (hindex : index.Lists g) (h : HiddenApart ps b) :
    (foundFrom index (ps.map .ofPattern) b).Perm ((g.satisfying ps b).map b.readAs) := by
  refine (List.perm_ext_iff_of_nodup (nodup_foundFrom hindex) nodup_readAs).2 fun b' => ?_
  rw [mem_foundFrom hindex, grows_iff_readAs h, List.mem_map]
  constructor
  · rintro ⟨⟨a, ha, rfl⟩, hall⟩
    have hmem : ∀ e ∈ a, e.1 ∈ ps.flatMap (·.unknowns) := by
      intro e he
      exact (mem_openUnknowns.1 (ha ▸ List.mem_map_of_mem he)).1
    refine ⟨a, mem_satisfying.2 ⟨ha, fun p hp => ?_⟩, rfl⟩
    obtain ⟨t, ht, hbecomes⟩ := hall _ (List.mem_map_of_mem hp)
    exact ⟨t, ht, (becomes_ofPattern h hmem hp t).1 hbecomes⟩
  · rintro ⟨a, ha, rfl⟩
    obtain ⟨hfst, hall⟩ := mem_satisfying.1 ha
    refine ⟨⟨a, hfst, rfl⟩, fun q hq => ?_⟩
    obtain ⟨p, hp, rfl⟩ := List.mem_map.1 hq
    obtain ⟨t, ht, hbecomes⟩ := hall p hp
    exact ⟨t, ht, (becomes_ofPattern h (mem_unknowns_of_mem_satisfying ha) hp t).2 hbecomes⟩

/-- Leaving out the variables of blank nodes leaves out the blank nodes of an assignment. -/
lemma restrict_readAs (h : HiddenApart ps b) (ha : a ∈ g.satisfying ps b) :
    (b.readAs a).restrict (· ∉ ps.flatMap (·.hiddenVariables)) = b.extendBy a := by
  have hmem := mem_unknowns_of_mem_satisfying ha
  -- The binding has no hidden variables, and of the assignment exactly the blank nodes are hidden.
  have hold : b.entries.filter (fun e => decide (e.1 ∉ ps.flatMap (·.hiddenVariables))) =
      b.entries := by
    refine List.filter_eq_self.2 fun e he => decide_eq_true fun hhidden => ?_
    exact (h _ hhidden).2 (List.mem_map_of_mem he)
  have hnew : (a.map fun e => (e.1.toVariable, e.2)).filter
        (fun e => decide (e.1 ∉ ps.flatMap (·.hiddenVariables))) =
      a.filterMap fun e => e.1.var?.map (·, e.2) := by
    rw [← List.filterMap_eq_filter, List.filterMap_map]
    refine List.filterMap_congr fun e he => ?_
    obtain ⟨u, t⟩ := e
    simp only [Function.comp_apply, Option.guard, h.toVariable_mem_hidden (hmem _ he)]
    cases u <;> rfl
  rw [Binding.restrict, Binding.readAs, List.filter_append, hold, hnew, Binding.extendBy]

/-- What a search shows of what it finds are the extensions of a binding. -/
theorem visible_foundFrom_perm (hindex : index.Lists g) (h : HiddenApart ps b) :
    ((foundFrom index (ps.map .ofPattern) b).map
      (·.restrict (· ∉ ps.flatMap (·.hiddenVariables)))).Perm (g.extensions ps b) := by
  refine ((foundFrom_perm hindex h).map _).trans ?_
  rw [List.map_map, Graph.extensions]
  refine List.Perm.of_eq (List.map_congr_left fun a ha => ?_)
  exact restrict_readAs h ha

end Perm

end Reading

end SparqlStream
