import Mathlib.Tactic
import SparqlStream.Proofs.Modifiers

/-!
# Operators on top of stages

A stage that is asked on behalf of a waker, together with its plant, is a stream: an outlet of the
plant.  An operator that is attached to an outlet becomes a stage, and does there what it would do
on top of the outlet as a stream.  So an outlet with an operator delivers what the operator yields
for the items that the outlet delivers.

So an outlet with sorters is sorted by one comparison after another, and one with a slice delivers a
part.  The end of a pipeline is an outlet, and the same holds of pipelines.
-/

namespace SparqlStream

open Operator

/-! ## Outlets -/

/-- A stage that is asked on behalf of a waker, and its plant. -/
structure Outlet (α ε μ : Type) where
  plant : Plant α ε μ
  stage : Stage α μ
  waker : Waker

namespace Outlet

variable {α ε μ : Type} [Operator μ α α ε]

/-- Asks the stage once. -/
def step (o : Outlet α ε μ) : Signal α ε × Outlet α ε μ :=
  let (signal, stage, plant) := o.plant.step o.waker o.stage
  (signal, ⟨plant, stage, o.waker⟩)

/-- Lets go of the stage. -/
def release (o : Outlet α ε μ) : Outlet α ε μ := { o with plant := o.plant.release o.stage }

instance : Flow (Outlet α ε μ) α ε where
  step := step
  release := release

/-- The outlet with an operator on top of its stage. -/
def attach (o : Outlet α ε μ) (op : Op α μ) : Outlet α ε μ :=
  let o' := if op.needsInput then o else o.release
  { o' with stage := .ofOperator op o.stage }

variable {o t : Outlet α ε μ} {mayWait : Bool} {as bs : List α}

section Attached

variable {σ : Type} {f : σ → Op α μ}

/-- The stage of an outlet is that of an operator, where the operator is on top of another one. -/
inductive Attached (f : σ → Op α μ) : Through σ (Outlet α ε μ) → Outlet α ε μ → Prop
  | operator (s : σ) (o : Outlet α ε μ) :
    Attached f ⟨s, o, true⟩ { o with stage := .operator (f s) o.stage }
  | drained (s : σ) (o : Outlet α ε μ) (plant : Plant α ε μ) :
    Attached f ⟨s, o, false⟩ ⟨plant, .drained (f s), o.waker⟩

/-- After the operator has done something, stage and operator keep their input or let go of it. -/
lemma Attached.settle (leave : Plant α ε μ → Nat → Nat → Plant α ε μ) (r : Reaction σ α ε)
    (o : Outlet α ε μ) :
    let after := Stage.settleWith leave o.plant (r.map f) o.stage
    after.1 = (Through.settle r o true).1 ∧
      Attached f (Through.settle r o true).2 ⟨after.2.2, after.2.1, o.waker⟩ := by
  obtain ⟨s, shown, keepsInput⟩ := r
  cases keepsInput with
  | true => exact ⟨rfl, .operator s o⟩
  | false => exact ⟨rfl, .drained s o.release _⟩

variable [Operator σ α α ε]

/-- The stage shows what the operator shows, unless it is a matcher, which keeps a log. -/
lemma Attached.step (hf : Embeds α ε f)
    (hlog : ∀ s (plant : Plant α ε μ) g, plant.noteCall (f s) g = plant)
    {s : Through σ (Outlet α ε μ)} (h : Attached f s o) :
    (Flow.step o).1 = (Flow.step s).1 ∧ Attached f (Flow.step s).2 (Flow.step o).2 := by
  cases h with
  | operator s o =>
    have hidle : (f s).idle true =
      (Operator.idle α s true : Option (Reaction σ α ε)).map (·.map f) := hf.idle s true
    have hreact : ∀ signal : Signal α ε,
      (f s).react signal = (Operator.react s signal : Reaction σ α ε).map f := hf.react s
    show (Outlet.step _).1 = (Through.step _).1 ∧
      Attached f (Through.step _).2 (Outlet.step _).2
    rw [Outlet.step, Through.step]
    dsimp only
    rw [Plant.step, Stage.stepWith, hidle]
    cases hown : (Operator.idle α s true : Option (Reaction σ α ε)) with
    | some r =>
      simp only [Option.map_some, hlog]
      exact Attached.settle _ r o
    | none =>
      simp only [Option.map_none, hlog, hreact]
      exact Attached.settle _ (Operator.react s (Flow.step o).1) (Flow.step o).2
  | drained s o plant =>
    have hidle : (f s).idle false =
      (Operator.idle α s false : Option (Reaction σ α ε)).map (·.map f) := hf.idle s false
    show (Outlet.step _).1 = (Through.step _).1 ∧
      Attached f (Through.step _).2 (Outlet.step _).2
    rw [Outlet.step, Through.step]
    dsimp only
    rw [Plant.step, Stage.stepWith, hidle]
    cases hown : (Operator.idle α s false : Option (Reaction σ α ε)) with
    | some r =>
      simp only [Option.map_some, hlog]
      exact ⟨rfl, .drained _ _ _⟩
    | none => exact ⟨rfl, .drained _ _ _⟩

/-- On top of an outlet an operator delivers what it yields. -/
theorem delivers_operator (hf : Embeds α ε f)
    (hlog : ∀ s (plant : Plant α ε μ) g, plant.noteCall (f s) g = plant)
    (hpatient : IsPatient σ α α ε) {s : σ} (ho : Flow.Delivers mayWait o as t)
    (hs : Yields ε s as bs) :
    ∃ t', Flow.Delivers mayWait { o with stage := .operator (f s) o.stage } bs t' := by
  obtain ⟨t', ht'⟩ := Through.delivers hpatient ho hs
  exact ht'.simulate (fun _ _ h => h.step hf hlog) (Attached.operator s o)

end Attached

lemma embeds_sort : Embeds α ε (Op.sort : Sorter α → Op α μ) :=
  ⟨fun _ _ => rfl, fun _ _ => rfl⟩

lemma embeds_slice : Embeds α ε (Op.slice : Slice → Op α μ) := ⟨fun _ _ => rfl, fun _ _ => rfl⟩

/-- An outlet with a sorter on top. -/
def sortBy (o : Outlet α ε μ) (cmp : α → α → Ordering) (window : Window) : Outlet α ε μ :=
  o.attach (.sort (.start cmp window))

/-- An outlet with a sorter for each of some comparisons, that of the first one on top.  None of
them has a window. -/
def sortByAll (o : Outlet α ε μ) (cmps : List (α → α → Ordering)) : Outlet α ε μ :=
  cmps.foldr (fun cmp o => o.sortBy cmp none) o

/-- A sorted outlet delivers what the sorter shows. -/
lemma delivers_sortBy (cmp : α → α → Ordering) (window : Window)
    (ho : Flow.Delivers mayWait o as t) :
    ∃ t', Flow.Delivers mayWait (o.sortBy cmp window) (Sorter.shown cmp window [] as) t' :=
  delivers_operator embeds_sort (fun _ _ _ => rfl) Sorter.isPatient ho
    (Sorter.yields_shown cmp window [] as)

/-- An outlet with several sorters is sorted by one comparison after another. -/
lemma delivers_sortByAll {cmps : List (α → α → Ordering)}
    (h : ∀ cmp ∈ cmps, TotalPreorderOn cmp as) (ho : Flow.Delivers mayWait o as t) :
    ∃ t', Flow.Delivers mayWait (o.sortByAll cmps) (cmps.foldr stableSort as) t' := by
  induction cmps with
  | nil => exact ⟨t, ho⟩
  | cons cmp cmps ih =>
    obtain ⟨hfirst, hrest⟩ := List.forall_mem_cons.1 h
    obtain ⟨t', ht'⟩ := ih hrest
    have hperm : (cmps.foldr stableSort as).Perm as := by
      rw [← stableSort_compareAll hrest]
      exact (stablySorted_stableSort (totalPreorderOn_compareAll hrest)).perm
    have hfirst' := hfirst.subset fun a ha => hperm.mem_iff.1 ha
    rw [List.foldr_cons, ← (Sorter.stablySorted_shown hfirst').eq_stableSort hfirst']
    exact delivers_sortBy cmp none ht'

/-- A slice on top of an outlet delivers its part. -/
lemma delivers_slice (s : Slice) (ho : Flow.Delivers mayWait o as t) :
    ∃ t', Flow.Delivers mayWait (o.attach (.slice s)) (s.part as) t' := by
  by_cases hs : s.left = some 0
  · have hneeds : (Op.slice s : Op α μ).needsInput = false := by
      rw [Op.needsInput, Slice.needsInput, hs]
      rfl
    rw [Slice.part_eq_nil hs, attach, Stage.ofOperator, hneeds]
    exact ⟨_, .finish rfl⟩
  · have hneeds : (Op.slice s : Op α μ).needsInput = true := by
      rw [Op.needsInput, Slice.needsInput, bne_iff_ne]
      exact hs
    rw [attach, Stage.ofOperator, hneeds]
    exact delivers_operator embeds_slice (fun _ _ _ => rfl) Slice.isPatient ho (s.yields hs as)

end Outlet

/-! ## Pipelines -/

namespace Pipeline

variable {μ : Type}

/-- The end of a pipeline as an outlet. -/
def outlet (p : Pipeline μ) : Outlet Binding ResultsError μ := ⟨p.plant, p.stage, ""⟩

lemma outlet_attach (p : Pipeline μ) (op : Op Binding μ) :
    (p.attach op).outlet = p.outlet.attach op := by
  rw [attach, Outlet.attach]
  cases op.needsInput <;> rfl

variable [Operator μ Binding Binding ResultsError] {p t : Pipeline μ} {mayWait : Bool}
  {as bs : List Binding}

/-- A pipeline delivers what its outlet delivers. -/
lemma delivers_of_outlet {o : Outlet Binding ResultsError μ}
    (h : Flow.Delivers mayWait p.outlet as o) : ∃ t, Flow.Delivers mayWait p as t := by
  refine h.simulate (R := fun o p => p.outlet = o) ?_ rfl
  rintro _ p rfl
  exact ⟨rfl, rfl⟩

lemma delivers_outlet (h : Flow.Delivers mayWait p as t) :
    ∃ o, Flow.Delivers mayWait p.outlet as o := by
  refine h.simulate (R := fun p o => p.outlet = o) ?_ rfl
  rintro p _ rfl
  exact ⟨rfl, rfl⟩

/-- A pipeline with an operator delivers what its outlet delivers with this operator. -/
lemma delivers_attach {op : Op Binding μ} (hp : Flow.Delivers mayWait p as t)
    (h : ∀ o, Flow.Delivers mayWait p.outlet as o →
      ∃ o', Flow.Delivers mayWait (p.outlet.attach op) bs o') :
    ∃ t', Flow.Delivers mayWait (p.attach op) bs t' := by
  obtain ⟨o, ho⟩ := delivers_outlet hp
  obtain ⟨o', ho'⟩ := h o ho
  rw [← outlet_attach] at ho'
  exact delivers_of_outlet ho'

/-- A pipeline that is ordered delivers what the sorter shows. -/
lemma delivers_orderBy (eval : Evaluator) (window : Window) (key : OrderKey)
    (hp : Flow.Delivers mayWait p as t) :
    ∃ t', Flow.Delivers mayWait (p.orderBy eval window key)
      (Sorter.shown (key.compare eval) window [] as) t' :=
  delivers_attach hp fun _ ho => Outlet.delivers_sortBy (key.compare eval) window ho

/-- A pipeline that is ordered by any comparison and with any window delivers the same bindings. -/
lemma exists_delivers_orderBy (eval : Evaluator) (window : Window) (key : OrderKey)
    (hp : Flow.Delivers mayWait p as t) :
    ∃ bs t', Flow.Delivers mayWait (p.orderBy eval window key) bs t' ∧ bs.Perm as := by
  obtain ⟨t', ht'⟩ := delivers_orderBy eval window key hp
  exact ⟨_, t', ht', Sorter.shown_perm _ window [] as⟩

/-- A pipeline that is ordered by a key and without a window delivers bindings in order, as far as
the comparison of keys allows it. -/
lemma exists_delivers_sorted {eval : Evaluator} {key : OrderKey}
    (hswap : ∀ a b, key.compare eval b a = (key.compare eval a b).swap)
    (hp : Flow.Delivers mayWait p as t) :
    ∃ bs t', Flow.Delivers mayWait (p.orderBy eval none key) bs t' ∧ bs.Perm as ∧
      (bs.IsChain fun a b => key.compare eval a b ≠ .gt) ∧
      (TotalPreorderOn (key.compare eval) as →
        bs.Pairwise fun a b => key.compare eval a b ≠ .gt) := by
  obtain ⟨t', ht'⟩ := delivers_orderBy eval none key hp
  refine ⟨_, t', ht', Sorter.shown_perm _ none [] as, Sorter.isChain_shown hswap as, fun h => ?_⟩
  refine (Sorter.stablySorted_shown h).sorted.imp ?_
  intro a b hle hgt
  rw [hgt] at hle
  cases hle

/-- A pipeline with a slice delivers the part of the slice. -/
lemma delivers_slice (s : Slice) (hp : Flow.Delivers mayWait p as t) :
    ∃ t', Flow.Delivers mayWait (p.attach (.slice s)) (s.part as) t' :=
  delivers_attach hp fun _ ho => Outlet.delivers_slice s ho

end Pipeline

end SparqlStream
