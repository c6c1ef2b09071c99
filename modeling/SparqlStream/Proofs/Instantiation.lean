import Mathlib.Tactic
import SparqlStream.Proofs.Description
import SparqlStream.Proofs.NestedLoop
import SparqlStream.Proofs.RowKeys

/-!
# Graphs from templates

A template is split in two.  Its triples without variables and blank nodes are shown before any
binding is asked for; of the others, each binding makes those that it can.  `Template.Makes` says
which these are without looking at how they are made: a pattern is left out if one of its variables
is unbound, if it has no IRI as its predicate, or if its subject is a literal.

The blank nodes of the template get new names for each binding.  The names are numbered through:
with `n` blank nodes in the template, binding `i` has the numbers from `i * n` on.  So two names are
the same only for the same binding and the same blank node, whichever triples are left out.
-/

namespace SparqlStream

/-! ## What a template makes of values -/

/-- What the unknowns of a template stand for.  Values of variables are shown without Skolem IRIs,
and blank nodes have new names. -/
def Binding.shown (b : Binding) (name : BlankNode → BlankNode) : Unknown → Option Term
  | .var v => (b.get? v).map Term.deskolemize
  | .blank n => some (.blank (name n))

/-- The reasons to leave out a pattern. -/
inductive TriplePattern.IsLeftOut (p : TriplePattern) (σ : Unknown → Option Term) : Prop
  | unbound {v : Variable} (hv : .var v ∈ p.unknowns) (hnone : σ (.var v) = none)
  | predicate {t : Term} (ht : p.predicate.value? σ = some t) (hiri : ∀ i, t ≠ .iri i)
  | subject {l : Literal} (hl : p.subject.value? σ = some (.literal l))

/-- The triples that some patterns make, in the order of the patterns. -/
inductive Template.Makes (σ : Unknown → Option Term) : List TriplePattern → List Triple → Prop
  | nil : Makes σ [] []
  | made {p : TriplePattern} {ps : List TriplePattern} {x : Triple} {xs : List Triple} :
    ¬p.IsLeftOut σ → p.becomes σ x = true → Makes σ ps xs → Makes σ (p :: ps) (x :: xs)
  | leftOut {p : TriplePattern} {ps : List TriplePattern} {xs : List Triple} :
    p.IsLeftOut σ → Makes σ ps xs → Makes σ (p :: ps) xs

/-- What a template makes of bindings: some triples at once, and a row of triples for each binding.
`name i` is what its blank nodes are called in row `i`. -/
structure Template.Construction (fresh : Nat → BlankNode) (template : List TriplePattern)
    (B : List Binding) (ground : List Triple) (rows : List (List Triple))
    (name : Nat → BlankNode → BlankNode) : Prop where
  /-- The triples without variables and blank nodes need no values. -/
  ground : Makes (fun _ => none) (template.filter fun p => p.unknowns.isEmpty) ground
  length : rows.length = B.length
  row : ∀ (i : Nat) (b : Binding) (xs : List Triple), B[i]? = some b → rows[i]? = some xs →
    Makes (b.shown (name i)) (template.filter fun p => !p.unknowns.isEmpty) xs
  minted : ∀ i n, ∃ k, name i n = fresh k
  name_inj : ∀ i j n m, .blank n ∈ template.flatMap (·.unknowns) →
    .blank m ∈ template.flatMap (·.unknowns) → name i n = name j m → i = j ∧ n = m
  /-- No new blank node is in two rows. -/
  apart : ∀ (i j k : Nat) (xs ys : List Triple), rows[i]? = some xs → rows[j]? = some ys →
    fresh k ∈ xs.flatMap Triple.blankNodes → fresh k ∈ ys.flatMap Triple.blankNodes → i = j

/-! ## The usual supply -/

namespace BlankNode

lemma toList_fresh (n : Nat) : (fresh n).label.toList =
    'f' :: (List.replicate (31 - (toString n).length) '0' ++ Nat.toDigits 10 n) := by
  simp only [fresh, String.toList_append, String.toList_ofList, Nat.toString_eq_ofList_toDigits]
  rfl

/-- The number of a new blank node is read off its label, where leading zeros do not count. -/
lemma fresh_injective : Function.Injective fresh := by
  intro n m h
  have hread : ∀ k, Nat.ofDigitChars 10 (fresh k).label.toList.tail 0 = k := fun k => by
    rw [toList_fresh, List.tail_cons, Nat.ofDigitChars_append, Nat.ofDigitChars_replicate_zero,
      Nat.mul_zero, Nat.ofDigitChars_ten_toDigits]
  rw [← hread n, h, hread m]

end BlankNode

/-! ## Patterns and their triples -/

lemma TermPattern.exists_value? {y : TermPattern} {σ : Unknown → Option Term}
    (h : ∀ w, y.unknown? = some w → ∃ t, σ w = some t) : ∃ t, y.value? σ = some t := by
  cases y with
  | iri i => exact ⟨_, rfl⟩
  | literal l => exact ⟨_, rfl⟩
  | blank n => exact h _ rfl
  | var v => exact h _ rfl

lemma IriPattern.exists_value? {q : IriPattern} {σ : Unknown → Option Term}
    (h : ∀ w, q.unknown? = some w → ∃ t, σ w = some t) : ∃ t, q.value? σ = some t := by
  cases q with
  | iri i => exact ⟨_, rfl⟩
  | var v => exact h _ rfl

/-- Only an unknown has a blank node as its value. -/
lemma TermPattern.exists_of_value?_eq_blank {y : TermPattern} {σ : Unknown → Option Term}
    {n : BlankNode} (h : y.value? σ = some (.blank n)) :
    ∃ w, y.unknown? = some w ∧ σ w = some (.blank n) := by
  cases y with
  | iri i => cases h
  | literal l => cases h
  | blank m => exact ⟨_, rfl, h⟩
  | var v => exact ⟨_, rfl, h⟩

lemma Triple.mem_blankNodes {x : Triple} {n : BlankNode} :
    n ∈ x.blankNodes ↔ x.subject.toTerm = .blank n ∨ x.object = .blank n := by
  rw [Triple.blankNodes, List.mem_append]
  refine or_congr ?_ ?_
  · cases x.subject.toTerm <;> simp [eq_comm]
  · cases x.object <;> simp [eq_comm]

namespace TriplePattern

variable {p : TriplePattern} {σ : Unknown → Option Term} {x : Triple}

lemma mem_unknowns {w : Unknown} : w ∈ p.unknowns ↔
    p.subject.unknown? = some w ∨ p.predicate.unknown? = some w ∨ p.object.unknown? = some w := by
  simp only [unknowns, List.mem_append, Option.mem_toList, or_assoc]

lemma isGround_eq (p : TriplePattern) : p.isGround = p.unknowns.isEmpty := by
  obtain ⟨s, q, o⟩ := p
  cases s <;> cases q <;> cases o <;> rfl

lemma mem_blankNodes {n : BlankNode} : n ∈ Template.blankNodes p ↔ .blank n ∈ p.unknowns := by
  obtain ⟨s, q, o⟩ := p
  rw [mem_unknowns]
  cases s <;> cases q <;> cases o <;>
    simp [Template.blankNodes, TermPattern.unknown?, IriPattern.unknown?, eq_comm]

/-- A pattern that becomes a triple is not left out. -/
lemma not_isLeftOut_of_becomes (h : p.becomes σ x = true) : ¬p.IsLeftOut σ := by
  have hvalues := h
  rw [becomes, decide_eq_true_iff] at hvalues
  obtain ⟨hs, hq, -⟩ := hvalues
  rintro (⟨hv, hnone⟩ | ⟨ht, hiri⟩ | hl)
  · obtain ⟨t, ht⟩ := exists_of_becomes h hv
    rw [hnone] at ht
    cases ht
  · exact hiri _ (Option.some.inj (ht.symm.trans hq))
  · have hliteral := Option.some.inj (hl.symm.trans hs)
    cases hsubject : x.subject <;> rw [hsubject] at hliteral <;> cases hliteral

/-- If its blank nodes have names, a pattern that is not left out becomes a triple. -/
lemma exists_becomes (hblank : ∀ n, .blank n ∈ p.unknowns → ∃ t, σ (.blank n) = some t)
    (h : ¬p.IsLeftOut σ) : ∃ x, p.becomes σ x = true := by
  have hσ : ∀ w ∈ p.unknowns, ∃ t, σ w = some t := by
    intro w hw
    cases w with
    | blank n => exact hblank n hw
    | var v => exact Option.ne_none_iff_exists'.1 fun hnone => h (.unbound hw hnone)
  obtain ⟨s, hs⟩ := TermPattern.exists_value? fun w hw => hσ w (mem_unknowns.2 (.inl hw))
  obtain ⟨q, hq⟩ := IriPattern.exists_value? fun w hw => hσ w (mem_unknowns.2 (.inr (.inl hw)))
  obtain ⟨o, ho⟩ := TermPattern.exists_value? fun w hw => hσ w (mem_unknowns.2 (.inr (.inr hw)))
  have hsubject : ∃ subject : Subject, s = subject.toTerm := by
    cases s with
    | iri i => exact ⟨.iri i, rfl⟩
    | blank n => exact ⟨.blank n, rfl⟩
    | literal l => exact absurd (.subject hs) h
  have hiri : ∃ i, q = .iri i := by
    by_contra hnot
    exact h (.predicate hq fun i heq => hnot ⟨i, heq⟩)
  obtain ⟨subject, rfl⟩ := hsubject
  obtain ⟨i, rfl⟩ := hiri
  exact ⟨⟨subject, i, o⟩, decide_eq_true ⟨hs, hq, ho⟩⟩

/-- Whatever blank node is in a triple that a pattern becomes stands for an unknown. -/
lemma exists_of_mem_blankNodes {n : BlankNode} (h : p.becomes σ x = true)
    (hn : n ∈ x.blankNodes) : ∃ w ∈ p.unknowns, σ w = some (.blank n) := by
  rw [becomes, decide_eq_true_iff] at h
  obtain ⟨hs, -, ho⟩ := h
  rcases Triple.mem_blankNodes.1 hn with hn | hn
  · rw [hn] at hs
    obtain ⟨w, hw, hvalue⟩ := TermPattern.exists_of_value?_eq_blank hs
    exact ⟨w, mem_unknowns.2 (.inl hw), hvalue⟩
  · rw [hn] at ho
    obtain ⟨w, hw, hvalue⟩ := TermPattern.exists_of_value?_eq_blank ho
    exact ⟨w, mem_unknowns.2 (.inr (.inr hw)), hvalue⟩

end TriplePattern

namespace Template

variable {b : Binding} {name : BlankNode → BlankNode} {p : TriplePattern} {x : Triple}
  {ps : List TriplePattern} {xs : List Triple} {σ : Unknown → Option Term}

lemma value?_eq (y : TermPattern) : value? b name y = y.value? (b.shown name) := by
  cases y <;> rfl

lemma predicate?_eq_some {q : IriPattern} {i : Iri} :
    predicate? b q = some i ↔ q.value? (b.shown name) = some (.iri i) := by
  cases q with
  | iri j => simp [predicate?, IriPattern.value?]
  | var v =>
    rw [predicate?, Option.bind_eq_some_iff, IriPattern.value?, Binding.shown]
    constructor
    · rintro ⟨t, ht, hi⟩
      cases t <;> cases hi
      exact ht
    · exact fun h => ⟨_, h, rfl⟩

/-- The triple made of a pattern is the one that the pattern becomes. -/
lemma triple?_eq_some_iff :
    triple? b name p = some x ↔ p.becomes (b.shown name) x = true := by
  rw [triple?_eq_some, predicate?_eq_some, value?_eq, value?_eq, TriplePattern.becomes,
    decide_eq_true_iff]

/-- What is made of some patterns is what they make of the values of their unknowns. -/
lemma makes_filterMap (hblank : ∀ n, .blank n ∈ ps.flatMap (·.unknowns) →
      ∃ t, σ (.blank n) = some t)
    (hσ : ∀ w ∈ ps.flatMap (·.unknowns), b.shown name w = σ w) :
    Makes σ ps (ps.filterMap (triple? b name)) := by
  induction ps with
  | nil => exact .nil
  | cons p ps ih =>
    rw [List.flatMap_cons] at hblank hσ
    have hps := ih (fun n hn => hblank n (List.mem_append_right _ hn))
      fun w hw => hσ w (List.mem_append_right _ hw)
    have hmade : ∀ x, triple? b name p = some x ↔ p.becomes σ x = true := fun x => by
      rw [triple?_eq_some_iff,
        TriplePattern.becomes_congr (fun w hw => hσ w (List.mem_append_left _ hw)) x]
    by_cases hout : p.IsLeftOut σ
    · have hnone : triple? b name p = none := Option.eq_none_iff_forall_ne_some.2 fun x hx =>
        TriplePattern.not_isLeftOut_of_becomes ((hmade x).1 hx) hout
      rw [List.filterMap_cons_none hnone]
      exact .leftOut hout hps
    · obtain ⟨x, hx⟩ :=
        TriplePattern.exists_becomes (fun n hn => hblank n (List.mem_append_left _ hn)) hout
      rw [List.filterMap_cons_some ((hmade x).2 hx)]
      exact .made hout hx hps

/-! ## Names -/

/-- What a blank node is called in the row of a binding. -/
def rowName (t : Template) (i : Nat) (n : BlankNode) : BlankNode :=
  t.supply (i * t.nodes.length + t.nodes.idxOf n)

/-- The triples that are made of bindings, binding by binding. -/
def rows (t : Template) (B : List Binding) : List (List Triple) :=
  B.mapIdx fun i b => t.patterns.filterMap (triple? b (t.rowName i))

lemma instances_zero (t : Template) (B : List Binding) : t.instances 0 B = (t.rows B).flatten := by
  simp only [instances, rows, Nat.zero_add]
  rfl

section Names

variable {template : List TriplePattern} {fresh : Nat → BlankNode} {B : List Binding}

lemma patterns_start (template : List TriplePattern) (fresh : Nat → BlankNode) :
    (start template fresh).patterns = template.filter fun p => !p.unknowns.isEmpty :=
  List.filter_congr fun p _ => by rw [p.isGround_eq]

lemma mem_nodes_start {n : BlankNode} :
    n ∈ (start template fresh).nodes ↔ .blank n ∈ template.flatMap (·.unknowns) := by
  rw [nodes, List.mem_eraseDups, List.mem_flatMap, List.mem_flatMap]
  constructor
  · rintro ⟨p, hp, hn⟩
    exact ⟨p, List.mem_of_mem_filter hp, TriplePattern.mem_blankNodes.1 hn⟩
  · rintro ⟨p, hp, hn⟩
    refine ⟨p, List.mem_filter.2 ⟨hp, ?_⟩, TriplePattern.mem_blankNodes.2 hn⟩
    rw [p.isGround_eq, List.isEmpty_eq_false_iff.2 (List.ne_nil_of_mem hn)]
    rfl

/-- The names of a row are numbered within a block that no other row uses. -/
lemma rowName_inj {t : Template} (hsupply : Function.Injective t.supply) {i j : Nat}
    {n m : BlankNode} (hn : n ∈ t.nodes) (hm : m ∈ t.nodes)
    (h : t.rowName i n = t.rowName j m) : i = j ∧ n = m := by
  have hnlt := List.idxOf_lt_length_of_mem hn
  have hmlt := List.idxOf_lt_length_of_mem hm
  have hpos : 0 < t.nodes.length := Nat.zero_lt_of_lt hnlt
  have hblock : ∀ {i a : Nat}, a < t.nodes.length →
      (i * t.nodes.length + a) / t.nodes.length = i ∧
        (i * t.nodes.length + a) % t.nodes.length = a :=
    fun {i a} ha => (Nat.div_mod_unique hpos).2 ⟨by ring, ha⟩
  have hnumber := hsupply h
  obtain ⟨hi, ha⟩ := hblock (i := i) hnlt
  obtain ⟨hj, hb⟩ := hblock (i := j) hmlt
  rw [hnumber] at hi ha
  exact ⟨hi.symm.trans hj, List.idxOf_inj hn |>.1 (ha.symm.trans hb)⟩

/-- A new blank node is in a row only as the name of a blank node of the template. -/
lemma exists_name_of_mem_row {i k : Nat} {xs : List Triple}
    (hapart : ∀ b ∈ B, ∀ v x, b.get? v = some x → ∀ k, x.deskolemize ≠ .blank (fresh k))
    (hxs : ((start template fresh).rows B)[i]? = some xs)
    (hk : fresh k ∈ xs.flatMap Triple.blankNodes) :
    ∃ n ∈ (start template fresh).nodes, (start template fresh).rowName i n = fresh k := by
  rw [rows, List.getElem?_mapIdx, Option.map_eq_some_iff] at hxs
  obtain ⟨b, hb, rfl⟩ := hxs
  obtain ⟨x, hx, hk⟩ := List.mem_flatMap.1 hk
  obtain ⟨p, hp, hmade⟩ := List.mem_filterMap.1 hx
  obtain ⟨w, hw, hvalue⟩ :=
    TriplePattern.exists_of_mem_blankNodes (triple?_eq_some_iff.1 hmade) hk
  cases w with
  | blank n =>
    refine ⟨n, mem_nodes_start.2 (List.mem_flatMap.2 ⟨p, List.mem_of_mem_filter hp, hw⟩), ?_⟩
    exact Term.blank.inj (Option.some.inj hvalue)
  | var v =>
    obtain ⟨t, ht, hblank⟩ := Option.map_eq_some_iff.1 hvalue
    exact absurd hblank (hapart b (List.mem_of_getElem? hb) v t ht k)

/-- What is ready at the start and what is made of each binding is a construction. -/
lemma construction_start (hfresh : Function.Injective fresh)
    (hapart : ∀ b ∈ B, ∀ v x, b.get? v = some x → ∀ k, x.deskolemize ≠ .blank (fresh k)) :
    Construction fresh template B (start template fresh).ready ((start template fresh).rows B)
      (start template fresh).rowName where
  ground := by
    have hpatterns : template.filter (·.isGround) = template.filter fun p => p.unknowns.isEmpty :=
      List.filter_congr fun p _ => p.isGround_eq
    have hnone : (template.filter fun p => p.unknowns.isEmpty).flatMap (·.unknowns) = [] := by
      refine List.flatMap_eq_nil_iff.2 fun p hp => ?_
      exact List.isEmpty_iff.1 (List.mem_filter.1 hp).2
    rw [start, hpatterns]
    refine makes_filterMap ?_ ?_ <;> rw [hnone]
    · exact fun n hn => absurd hn List.not_mem_nil
    · exact fun w hw => absurd hw List.not_mem_nil
  length := List.length_mapIdx
  row := by
    intro i b xs hb hxs
    rw [rows, List.getElem?_mapIdx, hb] at hxs
    cases hxs
    rw [patterns_start]
    exact makes_filterMap (fun n _ => ⟨_, rfl⟩) fun w _ => rfl
  minted := fun i n => ⟨_, rfl⟩
  name_inj := fun i j n m hn hm h =>
    rowName_inj hfresh (mem_nodes_start.2 hn) (mem_nodes_start.2 hm) h
  apart := by
    intro i j k xs ys hxs hys hkx hky
    obtain ⟨n, hn, hnk⟩ := exists_name_of_mem_row hapart hxs hkx
    obtain ⟨m, hm, hmk⟩ := exists_name_of_mem_row hapart hys hky
    exact (rowName_inj hfresh hn hm (hnk.trans hmk.symm)).1

end Names

/-! ## Templates on streams -/

section Streams

variable {τ ε : Type} [Flow τ Binding ε]

/-- A template shows what is ready without asking for a binding. -/
lemma records_ready (t : Template) (ready : List Triple) (s : τ) :
    Flow.Records (·.input) (Through.mk { t with ready := ready } s true)
      (ready.map fun x => (.item x, s)) (Through.mk { t with ready := [] } s true) := by
  induction ready with
  | nil => exact .refl _
  | cons x ready ih => exact .shows (Through.step_own rfl) (by simp) ih

/-- **Constructing a graph.**  A template on a stream of bindings first shows its triples without
variables and blank nodes, and meanwhile the stream of bindings stays as it is.  Then it shows the
triples that it makes of one binding after another, and ends.  If the supply has each blank node
only once, and none that is a value of the bindings, the blank nodes of the template have other
names in each row, and different names there. -/
theorem constructs (template : List TriplePattern) {fresh : Nat → BlankNode} {mayWait : Bool}
    {s t : τ} {B : List Binding} (hfresh : Function.Injective fresh)
    (hB : Flow.Delivers mayWait s B t)
    (hapart : ∀ b ∈ B, ∀ v x, b.get? v = some x → ∀ k, x.deskolemize ≠ .blank (fresh k)) :
    ∃ (ground : List Triple) (rows : List (List Triple)) (name : Nat → BlankNode → BlankNode),
      Construction fresh template B ground rows name ∧
      ∃ (rest : Template) (t' : Through Template τ),
        Flow.Records (·.input) (Through.start (start template fresh) s true)
          (ground.map fun x => (.item x, s)) (Through.mk rest s true) ∧
        Flow.Delivers mayWait (Through.mk rest s true) rows.flatten t' := by
  have hyields := yields_instances (ε := ε) { start template fresh with ready := [] } 0
    (Nat.zero_mul _).symm B
  obtain ⟨t', ht'⟩ := Through.delivers isPatient hB hyields
  refine ⟨_, _, _, construction_start hfresh hapart, _, t',
    records_ready (start template fresh) _ s, ?_⟩
  rw [← instances_zero]
  exact ht'

end Streams

/-- Two triples without variables, of which one has a literal as its subject, and three with blank
nodes. -/
def notesSample : List TriplePattern :=
  [⟨.iri ⟨"book"⟩, .iri ⟨"has"⟩, .literal (.simple "notes")⟩,
    ⟨.literal (.simple "notes"), .iri ⟨"in"⟩, .iri ⟨"book"⟩⟩,
    ⟨.blank ⟨"note"⟩, .iri ⟨"about"⟩, .var ⟨"x"⟩⟩,
    ⟨.var ⟨"x"⟩, .iri ⟨"has"⟩, .blank ⟨"note"⟩⟩,
    ⟨.blank ⟨"author"⟩, .var ⟨"does"⟩, .blank ⟨"note"⟩⟩]

/-- A literal with a predicate, and a Skolem IRI without one. -/
def notedSample : List Binding :=
  [⟨[(⟨"x"⟩, .literal (.simple "text")), (⟨"does"⟩, .iri ⟨"write"⟩)]⟩,
    ⟨[(⟨"x"⟩, .iri ⟨"http://a/.well-known/genid/c"⟩)]⟩]

theorem constructs_sample :
    Function.Injective BlankNode.fresh ∧
      (∀ b ∈ notedSample, ∀ v x, b.get? v = some x → ∀ k,
        x.deskolemize ≠ .blank (BlankNode.fresh k)) ∧
      ∃ cells : List (Cell Binding Empty),
        Flow.Delivers true (Prepared.mk cells) notedSample (Prepared.mk []) ∧
        ∃ (ground : List Triple) (rows : List (List Triple)) (name : Nat → BlankNode → BlankNode),
          Construction BlankNode.fresh notesSample notedSample ground rows name ∧
          ∃ (rest : Template) (t' : Through Template (Prepared Binding Empty)),
            Flow.Records (·.input)
              (Through.start (start notesSample BlankNode.fresh) (Prepared.mk cells) true)
              (ground.map fun x => (.item x, Prepared.mk cells))
              (Through.mk rest (Prepared.mk cells) true) ∧
            Flow.Delivers true (Through.mk rest (Prepared.mk cells) true) rows.flatten t' := by
  have hlabels : ∀ b ∈ notedSample, ∀ e ∈ b.entries,
      e.2.deskolemize.lexicalForm.toList.head? ≠ some 'f' := by decide +kernel
  have hapart : ∀ b ∈ notedSample, ∀ v x, b.get? v = some x → ∀ k,
      x.deskolemize ≠ .blank (BlankNode.fresh k) := by
    intro b hb v x hx k heq
    have hlabel := hlabels b hb _ (Binding.mem_entries_of_get? hx)
    rw [heq, Term.lexicalForm, BlankNode.toList_fresh] at hlabel
    exact hlabel rfl
  have hdelivers : Flow.Delivers true
      (Prepared.mk (notedSample.flatMap fun b => [.item b, .pause]) : Prepared Binding Empty)
      notedSample (Prepared.mk []) :=
    .item rfl (.pending rfl rfl (.item rfl (.pending rfl rfl (.finish rfl))))
  exact ⟨BlankNode.fresh_injective, hapart, _, hdelivers,
    constructs notesSample BlankNode.fresh_injective hdelivers hapart⟩

/-- The literal is no subject, and a note has one author only if somebody does something. -/
example : let node (n : Nat) : BlankNode := BlankNode.fresh n
    (start notesSample BlankNode.fresh).rows notedSample =
      [[⟨.blank (node 0), ⟨"about"⟩, .literal (.simple "text")⟩,
          ⟨.blank (node 1), ⟨"write"⟩, .blank (node 0)⟩],
        [⟨.blank (node 2), ⟨"about"⟩, .blank ⟨"c"⟩⟩,
          ⟨.blank ⟨"c"⟩, ⟨"has"⟩, .blank (node 2)⟩]] := by
  decide +kernel

end Template

end SparqlStream
