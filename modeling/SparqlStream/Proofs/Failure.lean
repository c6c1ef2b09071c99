import Mathlib.Tactic
import SparqlStream.Proofs.Conduct

/-!
# Errors of matchers reach the results

The results of a running query lie a few operators above a pipeline.  `Flow.Obeys` is what is kept
on the way: a stream that has ended shows its end only, and whenever a matcher below it shows its
first error, so does the stream.  A pipeline obeys because its stages do; an operator obeys on top
of a stream that obeys, by its contract.

The groups of a query are laid out as stages that have not ended and keep the rules, so
`Query.shows_failures` holds for every query whose matchers keep the contract of operators: an
error of a matcher is shown in the poll in which it occurs, and nothing is shown after it.  The
matchers of a graph in memory keep this contract, `TripleIndex.keepsContract_matchers`.
-/

namespace SparqlStream

/-! ## Streams that keep the rules -/

namespace Flow

variable {τ α ε : Type} [Flow τ α ε]

/-- Some states of a stream keep the rules.  `Inv ended s` says that the stream may be in the state
`s` when it has ended or not, and `failure s k` is the first error that the matcher `k` below the
stream has shown. -/
structure Obeys (failure : τ → Nat → Option ε) (Inv : Bool → τ → Prop) : Prop where
  /-- A stream that has ended shows its end. -/
  finish : ∀ {s : τ}, Inv true s → (Flow.step s).1 = .finish
  next : ∀ {ended : Bool} {s : τ}, Inv ended s →
    Inv (ended || (Flow.step s).1.isLast) (Flow.step s).2
  /-- When a matcher shows its first error, the stream shows this error. -/
  fail : ∀ {ended : Bool} {s : τ} {k : Nat} {e : ε}, Inv ended s → failure s k = none →
    failure (Flow.step s).2 k = some e → (Flow.step s).1 = .fail e
  /-- Nobody fails when the stream is let go of. -/
  release : ∀ {ended : Bool} {s : τ}, Inv ended s → failure (Flow.release s) = failure s

/-- Asks a stream several times, each time up to a limit, and lists what it shows. -/
def pollAll : List Nat → τ → List (Signal α ε) × τ
  | [], s => ([], s)
  | limit :: rest, s =>
    let (signal, s) := poll limit s
    let (signals, s) := pollAll rest s
    (signal :: signals, s)

section Obeys

variable {failure : τ → Nat → Option ε} {Inv : Bool → τ → Prop} (hobeys : Obeys failure Inv)

include hobeys

lemma Obeys.next_poll (limit : Nat) {ended : Bool} {s : τ} (hs : Inv ended s) :
    Inv (ended || (poll limit s).1.isLast) (poll limit s).2 := by
  induction limit generalizing s with
  | zero =>
    rw [poll]
    simpa [Signal.isLast] using hs
  | succ limit ih =>
    have hnext := hobeys.next hs
    rw [poll]
    rcases hstep : Flow.step s with ⟨signal, s'⟩
    rw [hstep] at hnext
    cases signal with
    | again =>
      have hgoes : Inv ended s' := by simpa [Signal.isLast] using hnext
      exact ih hgoes
    | item a => exact hnext
    | fail e => exact hnext
    | finish => exact hnext
    | pending => exact hnext

/-- A poll of a stream that has ended shows the end. -/
lemma Obeys.finish_poll {limit : Nat} (hlimit : 0 < limit) {s : τ} (hs : Inv true s) :
    (poll limit s).1 = .finish := by
  obtain ⟨limit, rfl⟩ := Nat.exists_eq_succ_of_ne_zero hlimit.ne'
  have hfinish := hobeys.finish hs
  rw [poll]
  rcases hstep : Flow.step s with ⟨signal, s'⟩
  rw [hstep] at hfinish
  subst hfinish
  rfl

/-- A poll in which a matcher shows its first error shows this error. -/
lemma Obeys.fail_poll (limit : Nat) {ended : Bool} {s : τ} {k : Nat} {e : ε} (hs : Inv ended s)
    (hbefore : failure s k = none) (hafter : failure (poll limit s).2 k = some e) :
    (poll limit s).1 = .fail e := by
  induction limit generalizing s with
  | zero => cases hbefore.symm.trans hafter
  | succ limit ih =>
    have hnext := hobeys.next hs
    have hfail := fun e => hobeys.fail (k := k) (e := e) hs hbefore
    rw [poll] at hafter ⊢
    rcases hstep : Flow.step s with ⟨signal, s'⟩
    rw [hstep] at hnext hfail hafter
    cases signal with
    | again =>
      have hgoes : Inv ended s' := by simpa [Signal.isLast] using hnext
      refine ih hgoes ?_ hafter
      cases hlog : failure s' k with
      | none => rfl
      | some e' => cases hfail e' hlog
    | item a => exact hfail e hafter
    | fail e' => exact hfail e hafter
    | finish => exact hfail e hafter
    | pending => exact hfail e hafter

lemma Obeys.next_pollAll (limits : List Nat) {ended : Bool} {s : τ} (hs : Inv ended s) :
    Inv (ended || (pollAll limits s).1.any (·.isLast)) (pollAll limits s).2 := by
  induction limits generalizing ended s with
  | nil => simpa [pollAll] using hs
  | cons limit rest ih =>
    have hrest := ih (hobeys.next_poll limit hs)
    rw [Bool.or_assoc] at hrest
    exact hrest

end Obeys

end Flow

/-! ## Operators on top of streams -/

namespace Through

variable {σ τ α β ε : Type} [Flow τ α ε] [Operator σ α β ε]

/-- An operator that keeps its contract over a stream that keeps the rules. -/
inductive Keeps (α ε : Type) {σ τ β : Type} [Operator σ α β ε] (Inv : Bool → τ → Prop) :
    Bool → Through σ τ → Prop
  | held {op : σ} {input : τ} {inputEnded ended : Bool} :
    Operator.Keeps α ε (some inputEnded) ended op → Inv inputEnded input →
      Keeps α ε Inv ended ⟨op, input, true⟩
  | gone {op : σ} {input : τ} {ended : Bool} : Operator.Keeps α ε none ended op →
    Keeps α ε Inv ended ⟨op, input, false⟩
  | done {op : σ} {input : τ} {ended : Bool} :
    (Operator.idle α op false : Option (Reaction σ β ε)) = none →
      Keeps α ε Inv ended ⟨op, input, false⟩

variable {failure : τ → Nat → Option ε} {Inv : Bool → τ → Prop} {op : σ} {input : τ}

/-- An operator that has just been put on top of a stream. -/
lemma keeps_start {needsInput : Bool}
    (hop : Operator.Keeps α ε (Operator.held needsInput false) false op)
    (hinput : Inv false input) : Keeps α ε Inv false (start op input needsInput) := by
  cases needsInput with
  | true => exact .held hop hinput
  | false => exact .gone hop

/-- The operator after it has done something. -/
lemma keeps_settle {r : Reaction σ β ε} {inputEnded ended : Bool}
    (hop : Operator.Keeps α ε (Operator.held r.keepsInput inputEnded) ended r.state)
    (hinput : Inv inputEnded input) : Keeps α ε Inv ended (settle r input true).2 := by
  cases hkeeps : r.keepsInput with
  | true =>
    rw [hkeeps] at hop
    simp only [settle, hkeeps]
    exact .held hop hinput
  | false =>
    rw [hkeeps] at hop
    simp only [settle, hkeeps]
    exact .gone hop

omit [Operator σ α β ε] in
lemma failure_settle (hobeys : Flow.Obeys failure Inv) {r : Reaction σ β ε} {inputEnded : Bool}
    (hinput : Inv inputEnded input) : failure (settle r input true).2.input = failure input := by
  cases hkeeps : r.keepsInput with
  | true =>
    simp only [settle, hkeeps]
    rfl
  | false =>
    simp only [settle, hkeeps]
    exact hobeys.release hinput

/-- An operator that keeps its contract makes a stream that keeps the rules of one that does. -/
theorem obeys (hobeys : Flow.Obeys failure Inv) :
    Flow.Obeys (fun s : Through σ τ => failure s.input) (Keeps α ε Inv) := by
  have hstep : ∀ (ended : Bool) (s : Through σ τ), Keeps α ε Inv ended s →
      (ended = true → (step s).1 = .finish) ∧
        Keeps α ε Inv (ended || (step s).1.isLast) (step s).2 ∧
        ∀ k e, failure s.input k = none → failure (step s).2.input k = some e →
          (step s).1 = .fail e := by
    intro ended s hs
    cases hs with
    | @held op input inputEnded ended hop hinput =>
      cases hidle : (Operator.idle α op true : Option (Reaction σ β ε)) with
      | some r =>
        obtain ⟨hfinish, hnext⟩ := Operator.contract_keeps.own hop hidle
        simp only [step, hidle]
        refine ⟨hfinish, keeps_settle hnext hinput, fun k e hbefore hafter => ?_⟩
        rw [failure_settle hobeys hinput] at hafter
        cases hbefore.symm.trans hafter
      | none =>
        have hgoes := hobeys.next hinput
        have hends := fun hended : inputEnded = true =>
          hobeys.finish (show Inv true input by rwa [hended] at hinput)
        have hfails := fun k e => hobeys.fail (k := k) (e := e) hinput
        obtain ⟨hfinish, hfail, hnext⟩ :=
          Operator.contract_keeps.react (Flow.step input).1 hop hidle hends
        simp only [step, hidle, if_true]
        refine ⟨hfinish, keeps_settle hnext hgoes, fun k e hbefore hafter => ?_⟩
        rw [failure_settle hobeys hgoes] at hafter
        exact hfail e (hfails k e hbefore hafter)
    | @gone op input ended hop =>
      cases hidle : (Operator.idle α op false : Option (Reaction σ β ε)) with
      | some r =>
        obtain ⟨hfinish, hnext⟩ := Operator.contract_keeps.drain hop hidle
        simp only [step, hidle, settle, Bool.false_and, Bool.false_eq_true, if_false]
        exact ⟨hfinish, .gone hnext, fun k e hbefore hafter => by cases hbefore.symm.trans hafter⟩
      | none =>
        simp only [step, hidle, Bool.false_eq_true, if_false]
        exact ⟨fun _ => trivial, .done hidle, fun k e hbefore hafter => by
          cases hbefore.symm.trans hafter⟩
    | @done op input ended hidle =>
      simp only [step, hidle, Bool.false_eq_true, if_false]
      exact ⟨fun _ => trivial, .done hidle, fun k e hbefore hafter => by
        cases hbefore.symm.trans hafter⟩
  refine ⟨fun hs => (hstep true _ hs).1 rfl, fun hs => (hstep _ _ hs).2.1,
    fun hs => (hstep _ _ hs).2.2 _ _, fun hs => ?_⟩
  cases hs with
  | held _ hinput => exact hobeys.release hinput
  | gone _ => rfl
  | done _ => rfl

end Through

/-! ## Pipelines -/

namespace Pipeline

variable {μ : Type} [Operator μ Binding Binding ResultsError]

/-- A pipeline whose stages keep the rules. -/
structure Keeps (ended : Bool) (p : Pipeline μ) : Prop where
  layered : p.plant.supply.Layered
  below : ∀ l ∈ p.stage.leaves, l.Below p.plant.hubs.length
  plant : p.plant.Obedient
  stage : p.stage.Obeys p.plant.supply ended

variable {p : Pipeline μ}

theorem obeys : Flow.Obeys (fun p : Pipeline μ => p.plant.failure) Keeps := by
  have hstep : ∀ (ended : Bool) (p : Pipeline μ), Keeps ended p →
      p.plant.Conduct p.step.2.plant p.step.2.stage ended p.step.1 ∧
        Supply.Frame p.plant.hubs.length p.plant.supply p.step.2.plant.supply p.stage.leaves
          p.step.2.stage.leaves := by
    intro ended p hp
    have hask := Plant.step_asks (w := "") hp.layered hp.below
    exact ⟨hask.conduct hp.layered hp.below hp.plant hp.stage, hask.frame hp.layered hp.below⟩
  refine ⟨fun hp => (hstep true _ hp).1.finish rfl, fun {ended p} hp => ?_,
    fun hp => (hstep _ _ hp).1.fail _ _, fun {ended p} hp => ?_⟩
  · obtain ⟨hconduct, hframe⟩ := hstep ended p hp
    have hlength : p.step.2.plant.hubs.length = p.plant.hubs.length := hframe.length
    refine ⟨hframe.layered, fun l hl => ?_, hconduct.plant, hconduct.stage⟩
    have hbelow := hp.below l (hframe.subset hl)
    exact hlength.symm ▸ hbelow
  · exact funext (Plant.release_releases hp.layered hp.below).failure

/-- An operator on top of a pipeline keeps the rules if it keeps its contract. -/
lemma Keeps.attach (hp : Keeps false p) {op : Op Binding μ}
    (hop : Operator.Keeps Binding ResultsError (some false) false op) :
    Keeps false (p.attach op) := by
  cases hneeds : op.needsInput with
  | true =>
    simp only [Pipeline.attach, hneeds, if_true, Stage.ofOperator]
    exact ⟨hp.layered, hp.below, hp.plant, false, hop, hp.stage⟩
  | false =>
    have hreleases := Plant.release_releases hp.layered hp.below
    have hframe := hreleases.frame hp.layered hp.below
    have hidle :
        op.idle false = (none : Option (Reaction (Op Binding μ) Binding ResultsError)) := by
      cases op with
      | slice s => rfl
      | filter f => cases hneeds
      | distinct d => cases hneeds
      | sort s => cases hneeds
      | matcher k m => cases hneeds
    simp only [Pipeline.attach, hneeds, Bool.false_eq_true, if_false, Stage.ofOperator]
    exact ⟨hframe.layered, List.forall_mem_nil _,
      hreleases.obedient hp.layered hp.below hp.plant, .inl hidle⟩

lemma Keeps.orderByAll (hp : Keeps false p) (eval : Evaluator) (window : Window)
    (keys : List OrderKey) : Keeps false (p.orderByAll eval window keys) := by
  unfold Pipeline.orderByAll
  induction keys.reverse generalizing p with
  | nil => exact hp
  | cons key rest ih => exact ih (hp.attach (Operator.keeps_op _ fun _ _ hop => by cases hop))

end Pipeline

/-! ## Layouts -/

/-- Every matcher of a supply keeps the contract of operators. -/
def MatcherSupply.KeepsContract {μ : Type} [Operator μ Binding Binding ResultsError]
    (matchers : MatcherSupply μ) : Prop :=
  ∀ k call, Operator.Keeps Binding ResultsError (some false) false (matchers k call)

/-- The matchers of a graph in memory keep the contract. -/
lemma TripleIndex.keepsContract_matchers (index : TripleIndex) : index.matchers.KeepsContract :=
  fun _ _ => Operator.keeps_of_closes Operator.closes_search _

namespace Wiring

variable {μ : Type} [Operator μ Binding Binding ResultsError]

/-- What has been laid out behind the seed of a pipeline keeps the rules. -/
structure Tidy (w : Wiring μ) : Prop where
  layered : (⟨[Pipeline.seed], w.hubs⟩ : Supply Binding ResultsError μ).Layered
  inputs : ∀ (k : Nat) (h : Hub Binding (Stage Binding μ)) (below : Stage Binding μ),
    w.hubs[k]? = some h → h.input = some below →
      ∀ S : Supply Binding ResultsError μ, below.Obeys S false

/-- A stage that has been laid out keeps the rules, whatever it reads from. -/
structure Fits (w : Wiring μ) (s : Stage Binding μ) : Prop where
  below : ∀ l ∈ s.leaves, l.Below w.hubs.length
  obeys : ∀ S : Supply Binding ResultsError μ, s.Obeys S false

variable {w w' : Wiring μ} {s input : Stage Binding μ}

lemma Fits.mono (h : w.Fits s) (hle : w.hubs.length ≤ w'.hubs.length) : w'.Fits s :=
  ⟨fun l hl => (h.below l hl).mono hle, h.obeys⟩

lemma Fits.operator (h : w.Fits input) {op : Op Binding μ}
    (hop : Operator.Keeps Binding ResultsError (some false) false op) :
    w.Fits (.operator op input) :=
  ⟨h.below, fun S => ⟨false, hop, h.obeys S⟩⟩

lemma fits_branch {k slot : Nat} (hk : k < w.hubs.length) : w.Fits (.branch k slot) :=
  ⟨List.forall_mem_singleton.2 hk, fun _ hended => (Bool.false_ne_true hended).elim⟩

lemma fits_union {stages : List (Stage Binding μ)} (h : ∀ s ∈ stages, w.Fits s) :
    w.Fits (.union stages .start) := by
  refine ⟨?_, fun S => ⟨Stage.obeyAll_iff.2 fun s hs => (h s hs).obeys S,
    fun hended => (Bool.false_ne_true hended).elim⟩⟩
  rw [Stage.leaves]
  induction stages with
  | nil => exact List.forall_mem_nil _
  | cons s rest ih =>
    obtain ⟨hs, hrest⟩ := List.forall_mem_cons.1 h
    exact List.forall_mem_append.2 ⟨hs.below, ih hrest⟩

/-- A new hub over a stage that fits. -/
lemma Tidy.addHub (hw : w.Tidy) (hinput : w.Fits input) (count : Nat) :
    ({ w with hubs := w.hubs ++ [.start input count] } : Wiring μ).Tidy where
  layered := hw.layered.addHub hinput.below count
  inputs k h below hh hin S := by
    rcases Nat.lt_or_ge k w.hubs.length with hlt | hge
    · rw [List.getElem?_append_left hlt] at hh
      exact hw.inputs k h below hh hin S
    · rw [List.getElem?_append_right hge, List.getElem?_singleton] at hh
      split at hh
      · obtain rfl := Option.some.inj hh
        rw [Hub.start] at hin
        split at hin
        · cases hin
        · obtain rfl := Option.some.inj hin
          exact hinput.obeys S
      · cases hh

/-- Laying out something keeps what has been laid out before. -/
structure Extends (w w' : Wiring μ) : Prop where
  tidy : w'.Tidy
  length : w.hubs.length ≤ w'.hubs.length

lemma Extends.trans {w₁ w₂ : Wiring μ} (h : w.Extends w₁) (h' : w₁.Extends w₂) : w.Extends w₂ :=
  ⟨h'.tidy, h.length.trans h'.length⟩

variable {matchers : MatcherSupply μ} (eval : Evaluator)

mutual

/-- A group behind a stage that fits is a stage that fits. -/
theorem fits_addGroup (hmatchers : matchers.KeepsContract) (optional : Bool)
    (input : Stage Binding μ) (w : Wiring μ) :
    (g : Group) → w.Tidy → w.Fits input →
      w.Extends (addGroup matchers eval optional input w g).2 ∧
        (addGroup matchers eval optional input w g).2.Fits
          (addGroup matchers eval optional input w g).1
  | .pattern patterns, hw, hinput => by
    have hmatcher := hmatchers w.calls.length ⟨patterns, optional⟩
    have hfits : (⟨w.hubs, w.calls ++ [⟨patterns, optional⟩]⟩ : Wiring μ).Fits input :=
      ⟨hinput.below, hinput.obeys⟩
    rw [addGroup, addMatcher]
    refine ⟨⟨⟨hw.layered, hw.inputs⟩, le_rfl⟩, hfits.operator (Operator.keeps_op _ ?_)⟩
    rintro k m hop
    obtain ⟨rfl, rfl⟩ := Op.matcher.inj hop
    exact hmatcher
  | .sequence children, hw, hinput => fits_addGroups hmatchers false input w children hw hinput
  | .optional children, hw, hinput => fits_addGroups hmatchers true input w children hw hinput
  | .union [], hw, hinput => ⟨⟨hw, le_rfl⟩, hinput⟩
  | .union (first :: rest), hw, hinput => by
    have hhub := hw.addHub hinput (rest.length + 1)
    have hlt : w.hubs.length <
        (w.hubs ++ [(.start input (rest.length + 1) : Hub Binding (Stage Binding μ))]).length := by
      rw [List.length_append, List.length_singleton]
      exact Nat.lt_succ_self _
    obtain ⟨hfirst, hstage⟩ := fits_addGroup hmatchers false (.branch w.hubs.length 0) _ first hhub
      (fits_branch hlt)
    obtain ⟨hrest, hstages⟩ := fits_addBranches hmatchers w.hubs.length 1 _ rest hfirst.tidy
      (hlt.trans_le hfirst.length)
    rw [addGroup]
    refine ⟨⟨hrest.tidy, hlt.le.trans (hfirst.trans hrest).length⟩, fits_union ?_⟩
    exact List.forall_mem_cons.2 ⟨hstage.mono hrest.length, hstages⟩
  | .filter condition inner, hw, hinput => by
    obtain ⟨hext, hstage⟩ := fits_addGroup hmatchers optional input w inner hw hinput
    rw [addGroup]
    exact ⟨hext, hstage.operator (Operator.keeps_op _ fun _ _ hop => by cases hop)⟩

theorem fits_addGroups (hmatchers : matchers.KeepsContract) (optional : Bool)
    (input : Stage Binding μ) (w : Wiring μ) :
    (groups : List Group) → w.Tidy → w.Fits input →
      w.Extends (addGroups matchers eval optional input w groups).2 ∧
        (addGroups matchers eval optional input w groups).2.Fits
          (addGroups matchers eval optional input w groups).1
  | [], hw, hinput => ⟨⟨hw, le_rfl⟩, hinput⟩
  | g :: rest, hw, hinput => by
    obtain ⟨hfirst, hstage⟩ := fits_addGroup hmatchers optional input w g hw hinput
    obtain ⟨hrest, hfits⟩ := fits_addGroups hmatchers optional _ _ rest hfirst.tidy hstage
    rw [addGroups]
    exact ⟨hfirst.trans hrest, hfits⟩

theorem fits_addBranches (hmatchers : matchers.KeepsContract) (hub slot : Nat) (w : Wiring μ) :
    (groups : List Group) → w.Tidy → hub < w.hubs.length →
      w.Extends (addBranches matchers eval hub slot w groups).2 ∧
        ∀ s ∈ (addBranches matchers eval hub slot w groups).1,
          (addBranches matchers eval hub slot w groups).2.Fits s
  | [], hw, _ => ⟨⟨hw, le_rfl⟩, List.forall_mem_nil _⟩
  | g :: rest, hw, hhub => by
    obtain ⟨hfirst, hstage⟩ :=
      fits_addGroup hmatchers false (.branch hub slot) w g hw (fits_branch hhub)
    obtain ⟨hrest, hstages⟩ := fits_addBranches hmatchers hub (slot + 1) _ rest hfirst.tidy
      (hhub.trans_le hfirst.length)
    rw [addBranches]
    exact ⟨hfirst.trans hrest, List.forall_mem_cons.2 ⟨hstage.mono hrest.length, hstages⟩⟩

end

end Wiring

/-! ## Running queries -/

namespace Query

variable {μ : Type} [Operator μ Binding Binding ResultsError] {matchers : MatcherSupply μ}

/-- The pipeline of the bindings of a query keeps the rules. -/
lemma keeps_bindings (q : Query) (hmatchers : matchers.KeepsContract) (options : RunOptions) :
    (q.bindings matchers options).1.Keeps false := by
  have hempty : (Wiring.empty : Wiring μ).Tidy :=
    ⟨fun k h hh => (nomatch hh), fun k h below hh => (nomatch hh)⟩
  have hseed : (Wiring.empty : Wiring μ).Fits (.source 0) :=
    ⟨List.forall_mem_singleton.2 trivial, fun _ hended => (Bool.false_ne_true hended).elim⟩
  obtain ⟨hext, hfits⟩ := Wiring.fits_addGroups options.evaluator hmatchers false
    (.source 0) .empty q.allGroups hempty hseed
  have hgroups : (Pipeline.ofGroups matchers options.evaluator q.allGroups).1.Keeps false := by
    refine ⟨hext.tidy.layered, hfits.below, ⟨fun k h below hh hin => ?_, ?_⟩, hfits.obeys _⟩
    · exact hext.tidy.inputs k h below hh hin _
    · intro id s hs e he
      rw [Pipeline.ofGroups, Pipeline.behind, List.getElem?_singleton] at hs
      split at hs
      · obtain rfl := Option.some.inj hs
        simp [Pipeline.seed, Source.start] at he
      · cases hs
  exact hgroups.orderByAll options.evaluator options.window q.order

/-- The modifiers of a query keep the contract. -/
lemma keeps_modify {α τ : Type} [Flow τ α ResultsError] {Inv : Bool → τ → Prop} (q : Query)
    (key : α → String) {rows : τ} (hrows : Inv false rows) :
    Through.Keeps α ResultsError (Through.Keeps α ResultsError Inv) false (q.modify key rows) := by
  refine Through.keeps_start (Operator.keeps_option (fun s _ =>
    Operator.keeps_of_closes Operator.closes_slice s) ?_)
    (Through.keeps_start (Operator.keeps_option (fun d _ =>
      Operator.keeps_of_closes Operator.closes_distinct d) fun _ => rfl)
      hrows)
  intro hnone
  rw [hnone]
  rfl

end Query

namespace RunningResults

variable {μ : Type} [Operator μ Binding Binding ResultsError]

/-- The first error that a matcher of a running query has shown. -/
def failure (r : RunningResults μ) : Nat → Option ResultsError := r.pipeline.plant.failure

/-- Results that keep the rules. -/
def Keeps (ended : Bool) : RunningResults μ → Prop
  | .solutions _ rows =>
    Through.Keeps Solution ResultsError (Through.Keeps Solution ResultsError
      (Through.Keeps Binding ResultsError Pipeline.Keeps)) ended rows
  | .triples rows =>
    Through.Keeps Triple ResultsError (Through.Keeps Triple ResultsError
      (Through.Keeps Binding ResultsError Pipeline.Keeps)) ended rows
  | .boolean rows => Through.Keeps Binding ResultsError Pipeline.Keeps ended rows

lemma fail_of_map {α β ε : Type} {f : α → β} {signal : Signal α ε} {e : ε}
    (h : signal = .fail e) : signal.map f = .fail e := by
  rw [h]
  rfl

lemma finish_of_map {α β ε : Type} {f : α → β} {signal : Signal α ε} (h : signal = .finish) :
    signal.map f = .finish := by
  rw [h]
  rfl

theorem obeys : Flow.Obeys (failure : RunningResults μ → Nat → Option ResultsError) Keeps := by
  have hrows := Through.obeys (σ := Option Slice) (Through.obeys (σ := Option (Distinct Solution))
    (Through.obeys (σ := Projection) (Pipeline.obeys (μ := μ))))
  have htriples := Through.obeys (σ := Option Slice) (Through.obeys (σ := Option (Distinct Triple))
    (Through.obeys (σ := Template) (Pipeline.obeys (μ := μ))))
  have hanswer := Through.obeys (σ := HasItem) (Pipeline.obeys (μ := μ))
  refine ⟨fun {r} hr => ?_, fun {ended r} hr => ?_, fun {ended r k e} hr hbefore hafter => ?_,
    fun {ended r} hr => ?_⟩
  all_goals cases r with
    | solutions columns rows => ?_
    | triples rows => ?_
    | boolean rows => ?_
  · exact finish_of_map (hrows.finish hr)
  · exact finish_of_map (htriples.finish hr)
  · exact finish_of_map (hanswer.finish hr)
  · have hnext := hrows.next hr
    rwa [← Signal.isLast_map ResultItem.solution] at hnext
  · have hnext := htriples.next hr
    rwa [← Signal.isLast_map ResultItem.triple] at hnext
  · have hnext := hanswer.next hr
    rwa [← Signal.isLast_map ResultItem.boolean] at hnext
  · exact fail_of_map (hrows.fail hr hbefore hafter)
  · exact fail_of_map (htriples.fail hr hbefore hafter)
  · exact fail_of_map (hanswer.fail hr hbefore hafter)
  · exact hrows.release hr
  · exact htriples.release hr
  · exact hanswer.release hr

end RunningResults

namespace Query

variable {μ : Type} [Operator μ Binding Binding ResultsError] {matchers : MatcherSupply μ}

/-- A query that has just been started keeps the rules. -/
lemma keeps_run (q : Query) (hmatchers : matchers.KeepsContract) (options : RunOptions) :
    (q.run matchers options).1.Keeps false := by
  have hp := q.keeps_bindings hmatchers options
  have htable : ∀ s : Selection, Through.Keeps Binding ResultsError Pipeline.Keeps false
      (Through.start (Projection.mk s) (q.bindings matchers options).1 true) := fun s =>
    Through.keeps_start (Operator.keeps_projection _) hp
  have hgraph : ∀ template : List TriplePattern,
      Through.Keeps Binding ResultsError Pipeline.Keeps false
        (Through.start (Template.start template options.fresh) (q.bindings matchers options).1
          true) := fun template =>
    Through.keeps_start (Operator.keeps_of_closes Operator.closes_template _) hp
  cases hform : q.form with
  | select columns =>
    cases columns with
    | all =>
      simp only [run, hform]
      exact q.keeps_modify _ (htable _)
    | columns vs =>
      simp only [run, hform]
      exact q.keeps_modify _ (htable _)
  | construct template =>
    simp only [run, hform]
    exact q.keeps_modify _ (hgraph _)
  | describe targets =>
    simp only [run, hform]
    exact q.keeps_modify _ (hgraph _)
  | ask =>
    simp only [run, hform]
    refine Through.keeps_start (Operator.keeps_of_closes Operator.closes_hasItem _) ?_
    cases q.slice? with
    | none => exact hp
    | some s =>
      exact Pipeline.Keeps.attach hp (Operator.keeps_op _ fun _ _ hop => by cases hop)

/-- However often the results of a query have been polled, a poll in which a matcher shows its
first error shows this error, and a poll after an error or the end shows the end. -/
theorem shows_failures (q : Query) (options : RunOptions) (hmatchers : matchers.KeepsContract)
    (limits : List Nat) (limit : Nat) :
    let polled := Flow.pollAll limits (q.run matchers options).1
    let next := Flow.poll limit polled.2
    (∀ k e, polled.2.failure k = none → next.2.failure k = some e → next.1 = .fail e) ∧
      ((∃ signal ∈ polled.1, signal.isLast = true) → 0 < limit → next.1 = .finish) := by
  intro polled next
  have hpolled := RunningResults.obeys.next_pollAll limits (q.keeps_run hmatchers options)
  refine ⟨fun k e => RunningResults.obeys.fail_poll limit hpolled, fun hlast hlimit => ?_⟩
  have hended : (false || polled.1.any (·.isLast)) = true := by
    rw [Bool.false_or, List.any_eq_true]
    exact hlast
  rw [hended] at hpolled
  exact RunningResults.obeys.finish_poll hlimit hpolled

/-- Two patterns side by side. -/
def forked : Query where
  form := .select .all
  groups := [.union [.pattern [], .pattern []]]
  order := []
  offset := 0
  limit := none
  distinct := false

/-- Of two matchers the second one fails. -/
def failingScripts : MatcherSupply Script := fun k _ =>
  if k = 0 then .start [.emit .empty, .emit .empty] false else .start [.fail .unreadable] false

theorem shows_failures_sample :
    failingScripts.KeepsContract ∧
      (Flow.poll 9 (Flow.pollAll [9] (forked.run failingScripts .standard).1).2).1 =
        .fail .unreadable ∧
      (Flow.poll 9 (Flow.pollAll [9, 9] (forked.run failingScripts .standard).1).2).1 =
        .finish := by
  have hscripts : failingScripts.KeepsContract := by
    intro k call
    unfold failingScripts
    split
    · exact Operator.keeps_of_closes Operator.closes_script _
    · exact Operator.keeps_of_closes Operator.closes_script _
  refine ⟨hscripts, ?_, ?_⟩
  · exact (forked.shows_failures .standard hscripts [9] 9).1 1 .unreadable (by decide +kernel)
      (by decide +kernel)
  · exact (forked.shows_failures .standard hscripts [9, 9] 9).2 (by decide +kernel) (by decide)

end Query

end SparqlStream
