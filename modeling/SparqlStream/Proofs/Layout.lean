import Mathlib.Tactic
import SparqlStream.Proofs.Progress
import SparqlStream.Proofs.Solving
import SparqlStream.Query.Run

/-!
# Pipelines show the solutions of their groups

Laying out a group behind a stage keeps the plant sound, and what is due from the new stage are
the solutions of the group for what was due from the old one, with patterns answered by searches.
While the branches of a union are laid out one after another, the stages and branches that wait for
their turn are kept apart: they are the `others` of `Wiring.Ready`.

With a step of a pipeline that shows what is due, this gives `Pipeline.delivers_found`: a pipeline
that searches an index ends and has shown what its groups make of the bindings.  If the index lists
a graph these are the solutions of the groups: `Pipeline.delivers_solutions`.
-/

namespace SparqlStream

/-! ## Laying out -/

/-- What is due from a search and from the operators around it. -/
abbrev searching : Expansion (Op Binding Search) Binding := Search.expansion.op

namespace Wiring

/-- The supply of a layout behind one source. -/
def supply (src : Source Binding ResultsError) (w : Wiring Search) :
    Supply Binding ResultsError Search :=
  ⟨[src], w.hubs⟩

/-- A layout in progress: the plant is sound, and the stages at hand and some other leaves are
each read once. -/
structure Ready (src : Source Binding ResultsError) (w : Wiring Search) (Φ : Leaf → Due Binding)
    (stages : List (Stage Binding Search)) (others : List Leaf) : Prop where
  sound : (w.supply src).Sound searching Φ w.hubs.length
  owns : (w.supply src).Owns w.hubs.length (Stage.leavesOf stages ++ others)
  valid : Stage.AreValid searching stages

variable {src : Source Binding ResultsError} {w w' : Wiring Search} {Φ Φ' : Leaf → Due Binding}
  {stage : Stage Binding Search} {stages : List (Stage Binding Search)} {others : List Leaf}

/-- What is due from some stages, apart from the work. -/
abbrev itemsOf (Φ : Leaf → Due Binding) (stages : List (Stage Binding Search)) : Multiset Binding :=
  (Stage.dueOf searching Φ stages).items

lemma itemsOf_singleton : itemsOf Φ [stage] = (stage.due searching Φ).items := by
  rw [itemsOf, Stage.dueOf, Stage.dueOf]
  simp

lemma itemsOf_cons : itemsOf Φ (stage :: stages) = itemsOf Φ [stage] + itemsOf Φ stages := by
  rw [itemsOf_singleton, itemsOf, Stage.dueOf, Due.add_items, Due.add_items, Due.tick_items,
    add_zero]

/-- An operator on top of a stage. -/
lemma Ready.operator (h : Ready src w Φ [stage] others) (hhubs : w'.hubs = w.hubs)
    {op : Op Binding Search} (hop : searching.IsValid op) :
    Ready src w' Φ [.operator op stage] others := by
  have hsupply : w'.supply src = w.supply src := by rw [supply, hhubs, supply]
  refine ⟨?_, ?_, ⟨⟨hop, h.valid.1⟩, trivial⟩⟩
  · rw [hsupply, hhubs]
    exact h.sound
  · rw [hsupply, hhubs]
    exact h.owns

/-- The stages that make up a union, behind the branches of a hub. -/
lemma Ready.union (h : Ready src w Φ stages others) :
    Ready src w Φ [.union stages .start] others where
  sound := h.sound
  owns := by
    rw [Stage.leavesOf, Stage.leavesOf, Stage.leaves, List.append_nil]
    exact h.owns
  valid := ⟨⟨le_rfl, h.valid⟩, trivial⟩

/-- The stage at hand becomes the input of a new hub with some branches. -/
lemma Ready.addHub (h : Ready src w Φ [stage] others) {count : Nat} (hcount : count ≠ 0) :
    let w' : Wiring Search := { w with hubs := w.hubs ++ [.start stage count] }
    let Φ' := Supply.withHub Φ w.hubs.length (stage.due searching Φ)
    Ready src w' Φ' [] (Supply.branchesFrom w.hubs.length 0 count ++ others) ∧
      ∀ l ∈ others, Φ' l = Φ l := by
  have hleaves : Stage.leavesOf [stage] = stage.leaves := by
    rw [Stage.leavesOf, Stage.leavesOf, List.append_nil]
  have howns := h.owns
  rw [hleaves] at howns
  refine ⟨⟨?_, ?_, trivial⟩, fun l hl => ?_⟩
  · have hsound := h.sound.addHub hcount (howns.sublist (List.sublist_append_left _ _)) h.valid.1
    rw [List.length_append]
    exact hsound
  · have hadd := howns.addHub h.sound hcount
    rw [List.length_append]
    exact hadd
  · exact Supply.withHub_of_below (howns.below l (List.mem_append_right _ hl))

/-- The first of some branches becomes the stage at hand. -/
lemma Ready.nextBranch {k slot count : Nat}
    (h : Ready src w Φ [] (Supply.branchesFrom k slot (count + 1) ++ others)) :
    Ready src w Φ [.branch k slot] (Supply.branchesFrom k (slot + 1) count ++ others) where
  sound := h.sound
  owns := by
    have howns := h.owns
    rw [Supply.branchesFrom, List.range'_succ, List.map_cons] at howns
    exact howns
  valid := ⟨trivial, trivial⟩

/-- A stage that is laid out is set aside while other branches are laid out. -/
lemma Ready.setAside {branches : List Leaf} (h : Ready src w Φ [stage] (branches ++ others)) :
    Ready src w Φ [] (branches ++ (Stage.leavesOf [stage] ++ others)) where
  sound := h.sound
  owns := h.owns.perm (List.perm_append_comm_assoc _ _ _)
  valid := trivial

/-- A stage that has been set aside joins the others that have been laid out. -/
lemma Ready.takeBack (h : Ready src w Φ stages (Stage.leavesOf [stage] ++ others))
    (hvalid : stage.IsValid searching) : Ready src w Φ (stage :: stages) others where
  sound := h.sound
  owns := by
    refine h.owns.perm ((List.perm_append_comm_assoc _ _ _).trans ?_)
    rw [← List.append_assoc, ← Stage.leavesOf_append]
    rfl
  valid := ⟨hvalid, h.valid⟩

/-! ### Items -/

lemma coe_filter (l : List Binding) (keeps : Binding → Bool) :
    ((l.filter keeps : List Binding) : Multiset Binding) =
      (l : Multiset Binding).bind fun b => if keeps b then {b} else 0 := by
  induction l with
  | nil => rfl
  | cons b l ih =>
    rw [← Multiset.cons_coe, Multiset.cons_bind, ← ih, List.filter_cons]
    split
    · rw [Multiset.singleton_add, Multiset.cons_coe]
    · rw [zero_add]

/-- The items of a stage are the solutions for the items of its input. -/
def Solves (f : Binding → List Binding) (M M' : Multiset Binding) : Prop :=
  M' = M.bind fun b => f b

variable {index : TripleIndex} {eval : Evaluator} {M M₁ M₂ : Multiset Binding}

lemma solves_self : Solves (fun b => [b]) M M := by
  exact ((Multiset.bind_singleton M id).trans (Multiset.map_id M)).symm

lemma Solves.trans {f f' : Binding → List Binding} (h : Solves f M M₁) (h' : Solves f' M₁ M₂) :
    Solves (fun b => (f b).flatMap f') M M₂ := by
  rw [Solves, h', h, Multiset.bind_assoc]
  exact Multiset.bind_congr fun b _ => Multiset.coe_bind (f b) f'

lemma Solves.add {f f' : Binding → List Binding} (h : Solves f M M₁) (h' : Solves f' M M₂) :
    Solves (fun b => f b ++ f' b) M (M₁ + M₂) := by
  rw [Solves, h, h', ← Multiset.bind_add]
  exact Multiset.bind_congr fun b _ => Multiset.coe_add _ _

/-! ### Groups -/

/-- Some stages have been laid out that show the solutions for some items. -/
def LaysOut (src : Source Binding ResultsError) (w' : Wiring Search) (Φ : Leaf → Due Binding)
    (stages : List (Stage Binding Search)) (others : List Leaf) (f : Binding → List Binding)
    (M : Multiset Binding) : Prop :=
  ∃ Φ', Ready src w' Φ' stages others ∧ (∀ l ∈ others, Φ' l = Φ l) ∧ Solves f M (itemsOf Φ' stages)

lemma laysOut_pattern (index : TripleIndex) (ps : List TriplePattern) (optional : Bool)
    (h : Ready src w Φ [stage] others) :
    LaysOut src (addMatcher index.matchers ⟨ps, optional⟩ stage w).2 Φ
      [(addMatcher index.matchers ⟨ps, optional⟩ stage w).1] others
      (index.answers ps optional) (itemsOf Φ [stage]) := by
  have hop : searching.IsValid (.matcher w.calls.length (Search.start index ps optional)) := trivial
  have hheld : (searching.held (.matcher w.calls.length (Search.start index ps optional))).items
      = 0 := rfl
  show LaysOut src _ Φ [.operator (.matcher w.calls.length (Search.start index ps optional)) stage]
    others _ _
  refine ⟨Φ, h.operator ?_ hop, fun _ _ => rfl, ?_⟩
  · rfl
  rw [Solves, itemsOf_singleton, itemsOf_singleton, Stage.due, Due.add_items, hheld, zero_add,
    Due.through]
  rfl

lemma laysOut_filter {condition : Expression} {f : Binding → List Binding}
    (h : LaysOut src w Φ [stage] others f M) :
    LaysOut src w Φ [.operator (.filter ⟨condition.holds eval⟩) stage] others
      (fun b => (f b).filter (condition.holds eval)) M := by
  obtain ⟨Φ', hready, hsame, hsolves⟩ := h
  have hop : searching.IsValid (.filter ⟨condition.holds eval⟩) := trivial
  refine ⟨Φ', hready.operator rfl hop, hsame, ?_⟩
  have hheld : (searching.held (.filter ⟨condition.holds eval⟩)).items = 0 := rfl
  rw [Solves, itemsOf_singleton, Stage.due, Due.add_items, hheld, zero_add]
  rw [itemsOf_singleton] at hsolves
  rw [Due.through, hsolves, Multiset.bind_assoc]
  exact Multiset.bind_congr fun b _ => (coe_filter (f b) _).symm

mutual

/-- A group is laid out as a stage that shows what it makes of bindings. -/
theorem laysOut_addGroup (index : TripleIndex) (eval : Evaluator) (optional : Bool)
    {w : Wiring Search} {Φ : Leaf → Due Binding} {stage : Stage Binding Search} {others : List Leaf}
    (h : Ready src w Φ [stage] others) : (group : Group) →
      LaysOut src (addGroup index.matchers eval optional stage w group).2 Φ
        [(addGroup index.matchers eval optional stage w group).1] others
        (fun b => group.solutionsBy index.answers eval optional b) (itemsOf Φ [stage])
  | .pattern ps => by
    rw [addGroup]
    simp only [Group.solutionsBy]
    exact laysOut_pattern index ps optional h
  | .sequence children => by
    rw [addGroup]
    simp only [Group.solutionsBy]
    exact laysOut_addGroups index eval false h children
  | .optional children => by
    rw [addGroup]
    simp only [Group.solutionsBy]
    exact laysOut_addGroups index eval true h children
  | .union [] => by
    rw [addGroup]
    simp only [Group.solutionsBy]
    exact ⟨Φ, h, fun _ _ => rfl, solves_self⟩
  | .union (first :: rest) => by
    rw [addGroup]
    simp only [Group.solutionsBy]
    obtain ⟨hready, hsame⟩ := h.addHub (Nat.succ_ne_zero rest.length)
    obtain ⟨Φ', hready', hsame', hsolves⟩ := laysOut_addBranches index eval hready
      (fun i _ _ => Supply.withHub_branch) (first :: rest) rfl
    refine ⟨Φ', hready'.union, fun l hl => (hsame' l hl).trans (hsame l hl), ?_⟩
    rw [itemsOf_singleton, itemsOf_singleton]
    simp only [Group.solutionsAsideBy] at hsolves
    exact hsolves
  | .filter condition inner => by
    rw [addGroup]
    simp only [Group.solutionsBy]
    exact laysOut_filter (laysOut_addGroup index eval optional h inner)

/-- Groups are laid out one after another. -/
theorem laysOut_addGroups (index : TripleIndex) (eval : Evaluator) (optional : Bool)
    {w : Wiring Search} {Φ : Leaf → Due Binding} {stage : Stage Binding Search} {others : List Leaf}
    (h : Ready src w Φ [stage] others) : (groups : List Group) →
      LaysOut src (addGroups index.matchers eval optional stage w groups).2 Φ
        [(addGroups index.matchers eval optional stage w groups).1] others
        (fun b => Group.solutionsInTurnBy index.answers eval optional b groups) (itemsOf Φ [stage])
  | [] => by
    rw [addGroups]
    simp only [Group.solutionsInTurnBy]
    exact ⟨Φ, h, fun _ _ => rfl, solves_self⟩
  | first :: rest => by
    rw [addGroups]
    simp only [Group.solutionsInTurnBy]
    obtain ⟨Φ₁, hready, hsame, hsolves⟩ := laysOut_addGroup index eval optional h first
    obtain ⟨Φ₂, hready', hsame', hsolves'⟩ := laysOut_addGroups index eval optional hready rest
    exact ⟨Φ₂, hready', fun l hl => (hsame' l hl).trans (hsame l hl), hsolves.trans hsolves'⟩

/-- Groups are laid out behind the branches of a hub. -/
theorem laysOut_addBranches (index : TripleIndex) (eval : Evaluator) {w : Wiring Search}
    {Φ : Leaf → Due Binding} {others : List Leaf} {k slot count : Nat} {d : Due Binding}
    (h : Ready src w Φ [] (Supply.branchesFrom k slot count ++ others))
    (hd : ∀ i, slot ≤ i → i < slot + count → Φ (.branch k i) = d) :
    (groups : List Group) → count = groups.length →
      LaysOut src (addBranches index.matchers eval k slot w groups).2 Φ
        (addBranches index.matchers eval k slot w groups).1 others
        (fun b => Group.solutionsAsideBy index.answers eval b groups) d.items
  | [], hcount => by
    subst hcount
    simp only [Group.solutionsAsideBy]
    exact ⟨Φ, h, fun _ _ => rfl, (Multiset.bind_zero d.items).symm⟩
  | first :: rest, hcount => by
    subst hcount
    simp only [Group.solutionsAsideBy]
    have hdue : itemsOf Φ [.branch k slot] = d.items := by
      rw [itemsOf_singleton, Stage.due, hd slot le_rfl (by rw [List.length_cons]; omega)]
    obtain ⟨Φ₁, hready, hsame, hsolves⟩ := laysOut_addGroup index eval false h.nextBranch first
    rw [hdue] at hsolves
    have hd₁ : ∀ i, slot + 1 ≤ i → i < slot + 1 + rest.length → Φ₁ (.branch k i) = d := by
      intro i hle hlt
      rw [hsame _ (List.mem_append_left _ ?_), hd i (by omega) (by rw [List.length_cons]; omega)]
      exact List.mem_map_of_mem (List.mem_range'_1.2 ⟨hle, hlt⟩)
    obtain ⟨Φ₂, hready', hsame', hsolves'⟩ :=
      laysOut_addBranches index eval hready.setAside hd₁ rest rfl
    have hfirst : itemsOf Φ₂ [(addGroup index.matchers eval false (.branch k slot) w first).1] =
        itemsOf Φ₁ [(addGroup index.matchers eval false (.branch k slot) w first).1] := by
      rw [itemsOf, Stage.dueOf_congr fun l hl => hsame' l (List.mem_append_left _ hl)]
    refine ⟨Φ₂, hready'.takeBack hready.valid.1, fun l hl => ?_, ?_⟩
    · rw [hsame' l (List.mem_append_right _ hl), hsame l (List.mem_append_right _ hl)]
    · have hadd := hsolves.add hsolves'
      rw [← hfirst, ← itemsOf_cons] at hadd
      exact hadd

end

end Wiring

/-! ## Pipelines -/

namespace Pipeline

/-- A pipeline owes what is due from its end. -/
def Owes {μ : Type} (X : Expansion (Op Binding μ) Binding) (p : Pipeline μ) (d : Due Binding) :
    Prop :=
  ∃ Φ, p.plant.supply.Sound X Φ p.plant.hubs.length ∧
    p.plant.supply.Owns p.plant.hubs.length p.stage.leaves ∧ p.stage.IsValid X ∧
      d = p.stage.due X Φ

/-- A step of a pipeline shows a part of what it owes. -/
theorem owes_step {μ : Type} [Operator μ Binding Binding ResultsError]
    {X : Expansion (Op Binding μ) Binding} (hX : X.Lawful ResultsError) (p : Pipeline μ)
    (d : Due Binding) (h : p.Owes X d) :
    ∃ d', d.Shows (Flow.step p).1 d' ∧
      ((Flow.step p).1 ≠ .finish → (Flow.step p).2.Owes X d') := by
  obtain ⟨Φ, hsound, howns, hvalid, rfl⟩ := h
  obtain ⟨Φ', hmoves⟩ := Stage.stepsWell (w := "") hX (Plant.readsWell hX le_rfl)
    (Plant.leavesWell le_rfl) p.stage p.plant Φ hsound howns hvalid
  have hlength : (Flow.step p).2.plant.hubs.length = p.plant.hubs.length := hmoves.leads.length
  refine ⟨_, hmoves.shows, fun _ => ⟨Φ', ?_, ?_, hmoves.valid, rfl⟩⟩
  · rw [hlength]
    exact hmoves.leads.sound
  · rw [hlength]
    exact hmoves.owns howns

/-- A pipeline of groups owes what they make of the bindings that its source holds. -/
lemma owes_behind (index : TripleIndex) (eval : Evaluator) (groups : List Group)
    (inputs : List Binding) :
    ∃ d, (behind (.start (inputs.map .item) true) index.matchers eval groups).1.Owes searching d ∧
      d.items = (inputs : Multiset Binding).bind fun b =>
        Group.solutionsInTurnBy index.answers eval false b groups := by
  let src : Source Binding ResultsError := .start (inputs.map .item) true
  let Φ : Leaf → Due Binding := fun _ => ⟨inputs, inputs.length⟩
  have hready : Wiring.Ready src .empty Φ [.source 0] [] := by
    refine ⟨⟨?_, fun k h hk _ => absurd hk (Nat.not_lt_zero k)⟩, ⟨?_, ?_, ?_⟩, trivial, trivial⟩
    · intro id s hs _
      cases id with
      | zero =>
        obtain rfl := Option.some.inj hs
        exact ⟨inputs, rfl, rfl, rfl⟩
      | succ id => cases hs
    · exact List.forall_mem_singleton.2 trivial
    · exact List.forall_mem_singleton.2 ⟨src, rfl, rfl⟩
    · exact List.nodup_singleton _
  have hitems : Wiring.itemsOf Φ [.source 0] = inputs := Wiring.itemsOf_singleton
  obtain ⟨Φ', hready', -, hsolves⟩ := Wiring.laysOut_addGroups index eval false hready groups
  have howns := hready'.owns
  rw [Stage.leavesOf, Stage.leavesOf, List.append_nil, List.append_nil] at howns
  rw [hitems] at hsolves
  refine ⟨_, ⟨Φ', hready'.sound, howns, hready'.valid.1, rfl⟩, ?_⟩
  rw [Wiring.itemsOf_singleton] at hsolves
  exact hsolves

/-- A pipeline that searches an index ends.  It has shown what its groups make of the bindings that
it was given. -/
theorem delivers_found (index : TripleIndex) (eval : Evaluator) (groups : List Group)
    (inputs : List Binding) :
    ∃ outs last, Flow.Delivers false
        (behind (.start (inputs.map .item) true) index.matchers eval groups).1 outs last ∧
      outs.Perm (inputs.flatMap fun b =>
        Group.solutionsInTurnBy index.answers eval false b groups) := by
  obtain ⟨d, howes, hd⟩ := owes_behind index eval groups inputs
  obtain ⟨outs, last, hdelivers, houts⟩ :=
    Flow.delivers_of_shows (owes_step (Expansion.Lawful.op Search.lawful)) howes
  refine ⟨outs, last, hdelivers, Multiset.coe_eq_coe.1 ?_⟩
  rw [houts, hd]
  exact Multiset.coe_bind _ _

/-- A pipeline of groups shows their solutions. -/
lemma delivers_behind {g : Graph} {index : TripleIndex} (hindex : index.Lists g) (eval : Evaluator)
    {groups : List Group} (hgroups : PlainPatterns (Group.allTriplePatterns groups))
    {inputs : List Binding} (hinputs : ∀ b ∈ inputs, b.IsPlain) :
    ∃ outs last, Flow.Delivers false
        (behind (.start (inputs.map .item) true) index.matchers eval groups).1 outs last ∧
      (outs : Multiset Binding) = (inputs : Multiset Binding).bind fun b =>
        Group.solutionsInTurn g eval false b groups := by
  obtain ⟨outs, last, hdelivers, houts⟩ := delivers_found index eval groups inputs
  refine ⟨outs, last, hdelivers, (Multiset.coe_eq_coe.2 houts).trans ?_⟩
  rw [← Multiset.coe_bind]
  refine Multiset.bind_congr fun b hb => ?_
  rw [← Group.solutionsInTurnBy_solutions]
  exact Multiset.coe_eq_coe.2 (Group.solutionsInTurnBy_perm g.keeps_solutions
    (TripleIndex.agrees_solutions hindex) eval false (hinputs b hb) groups
    (plainPatterns_iff.1 hgroups)).symm

/-- A pipeline that searches a graph ends.  It has shown the solutions of its groups for the
bindings that it was given, and nothing else. -/
theorem delivers_solutions {g : Graph} {index : TripleIndex} (hindex : index.Lists g)
    (eval : Evaluator) {groups : List Group}
    (hgroups : PlainPatterns (Group.allTriplePatterns groups)) {inputs : List Binding}
    (hinputs : ∀ b ∈ inputs, b.IsPlain) :
    ∃ outs last, Flow.Delivers false
        (behind (.start (inputs.map .item) true) index.matchers eval groups).1 outs last ∧
      outs.Perm (inputs.flatMap fun b => Group.solutionsInTurn g eval false b groups) := by
  obtain ⟨outs, last, hdelivers, houts⟩ := delivers_behind hindex eval hgroups hinputs
  refine ⟨outs, last, hdelivers, Multiset.coe_eq_coe.1 ?_⟩
  rw [houts]
  exact Multiset.coe_bind _ _

/-- Whoever knows somebody, once with an age if there is one, and once if the age is known. -/
def sampleGroups : List Group :=
  [.pattern [⟨.var ⟨"x"⟩, .iri ⟨"knows"⟩, .blank ⟨"n"⟩⟩],
    .union [.optional [.pattern [⟨.var ⟨"x"⟩, .iri ⟨"age"⟩, .var ⟨"v"⟩⟩]],
      .filter (.bound ⟨"v"⟩) (.sequence [])]]

theorem delivers_solutions_sample :
    PlainPatterns (Group.allTriplePatterns sampleGroups) ∧ (∀ b ∈ [Binding.empty], b.IsPlain) ∧
      ∃ outs last, Flow.Delivers false
        (behind (.start ([Binding.empty].map .item) true) Graph.sample.index.matchers
          Expression.evaluate sampleGroups).1 outs last ∧
        outs.Perm [⟨[(⟨"x"⟩, .iri ⟨"b"⟩)]⟩,
          ⟨[(⟨"x"⟩, .iri ⟨"a"⟩), (⟨"v"⟩, .literal (.simple "7"))]⟩] := by
  have hsolutions : ([Binding.empty].flatMap fun b =>
      Group.solutionsInTurn Graph.sample Expression.evaluate false b sampleGroups) =
        [⟨[(⟨"x"⟩, .iri ⟨"b"⟩)]⟩,
          ⟨[(⟨"x"⟩, .iri ⟨"a"⟩), (⟨"v"⟩, .literal (.simple "7"))]⟩] := by decide
  rw [← hsolutions]
  exact ⟨by decide, by decide,
    delivers_solutions Graph.sample.lists_index Expression.evaluate (by decide) (by decide)⟩

end Pipeline

end SparqlStream
