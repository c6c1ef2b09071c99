import Mathlib.Tactic
import SparqlStream.Proofs.Contract
import SparqlStream.Proofs.Frame
import SparqlStream.Proofs.Progress

/-!
# Asking and letting go, as relations

`Plant.Asks` and `Plant.Releases` describe what asking a stage and letting go of it do, without the
depth that bounds how far a branch reaches below its hub.  There is one rule for each way in which
a leaf, an operator or a union can answer.  What is to be shown of every stage that is asked is
then shown by induction on the rules.

In a plant whose hubs are layered the depth does not matter: `Plant.step_asks` and
`Plant.release_releases` say that `Plant.step` and `Plant.release` follow the rules.  Both rely on
the frames of the rules, `Asks.frame` and `Releases.frame`, since a stage must not disturb the
layers while another one still has to be asked or let go of.
-/

namespace SparqlStream

variable {α ε μ : Type}

namespace Plant

@[simp] lemma supply_setSource (p : Plant α ε μ) (id : Nat) (s : Source α ε) :
    (p.setSource id s).supply = p.supply.setSource id s := rfl

lemma noteCall_hubs (p : Plant α ε μ) (op : Op α μ) (f : CallLog ε → CallLog ε) :
    (p.noteCall op f).hubs = p.hubs := by
  cases op <;> rfl

/-! ## Letting go -/

/-- Letting go of a stage. -/
inductive Releases : Plant α ε μ → Stage α μ → Plant α ε μ → Prop
  /-- A source is dropped. -/
  | source {p : Plant α ε μ} {id : Nat} {s : Source α ε} : p.sources[id]? = some s →
    Releases p (.source id) (p.setSource id { s with isLive := false })
  /-- There is no such source. -/
  | absent {p : Plant α ε μ} {id : Nat} : p.sources[id]? = none → Releases p (.source id) p
  /-- A branch leaves its hub, and others stay. -/
  | stays {p : Plant α ε μ} {k slot : Nat} {h : Hub α (Stage α μ)} : p.hubs[k]? = some h →
    (h.drop slot).input = h.input →
      Releases p (.branch k slot)
        ((p.setHub k ((h.drop slot).forgetOthers slot)).wake ((h.drop slot).otherWakers slot))
  /-- The last branch leaves its hub. -/
  | last {p p' : Plant α ε μ} {k slot : Nat} {h : Hub α (Stage α μ)} {below : Stage α μ} :
    p.hubs[k]? = some h → h.input = some below → (h.drop slot).input = none →
      Releases (p.setHub k ((h.drop slot).forgetOthers slot)) below p' →
        Releases p (.branch k slot) (p'.wake ((h.drop slot).otherWakers slot))
  | operator {p p' : Plant α ε μ} {op : Op α μ} {input : Stage α μ} :
    Releases (p.noteCall op fun l => { l with isLive := false }) input p' →
      Releases p (.operator op input) p'
  | drained {p : Plant α ε μ} {op : Op α μ} :
    Releases p (.drained op) (p.noteCall op fun l => { l with isLive := false })
  | nobody {p : Plant α ε μ} {round : Round} : Releases p (.union [] round) p
  | next {p p₁ p₂ : Plant α ε μ} {s : Stage α μ} {rest : List (Stage α μ)} {round : Round} :
    Releases p s p₁ → Releases p₁ (.union rest round) p₂ → Releases p (.union (s :: rest) round) p₂

/-! ## Asking -/

/-- A branch that has read the whole buffer of its hub asks the stage below. -/
structure Pulls (p : Plant α ε μ) (k slot : Nat) (h : Hub α (Stage α μ)) (position : Nat)
    (below : Stage α μ) : Prop where
  hub : p.hubs[k]? = some h
  live : h.position? slot = some position
  nothing : h.itemAt? position = none
  input : h.input = some below

/-- What a hub makes of a signal of the stage below that is not the last one: how the hub changes,
and who is told. -/
inductive Passes (w : Waker) (h : Hub α (Stage α μ)) (below : Stage α μ) (slot position : Nat) :
    Signal α ε → Hub α (Stage α μ) → List Waker → Prop
  | again : Passes w h below slot position .again { h with input := some below } []
  | pending :
    Passes w h below slot position .pending
      (Hub.leaveWaker { h with input := some below } slot w) []
  | item (a : α) :
    Passes w h below slot position (.item a)
      ((Hub.deliver { h with input := some below } slot position a).forgetOthers slot)
      ((Hub.deliver { h with input := some below } slot position a).otherWakers slot)

/-- An operator keeps its input or lets go of it. -/
inductive Settles (p : Plant α ε μ) (r : Reaction (Op α μ) α ε) (input : Stage α μ) :
    Stage α μ → Plant α ε μ → Prop
  | keeps : r.keepsInput = true → Settles p r input (.operator r.state input) p
  | closes {p' : Plant α ε μ} : r.keepsInput = false → Releases p input p' →
    Settles p r input (.drained r.state) p'

/-- A union keeps its inputs, or lets go of the one that it has asked, or of all. -/
inductive Sheds (p : Plant α ε μ) (before : List (Stage α μ)) (s : Stage α μ)
    (after : List (Stage α μ)) : Round.Effect → List (Stage α μ) → Plant α ε μ → Prop
  | nothing : Sheds p before s after .keepAll (before ++ s :: after) p
  | asked {p' : Plant α ε μ} : Releases p s p' →
    Sheds p before s after .dropAsked (before ++ after) p'
  | everything {p' : Plant α ε μ} {round : Round} :
    Releases p (.union (before ++ s :: after) round) p' → Sheds p before s after .dropAll [] p'

variable [Operator μ α α ε]

/-- Asking a stage once, on behalf of a waker. -/
inductive Asks (w : Waker) (p : Plant α ε μ) :
    Stage α μ → Signal α ε → Stage α μ → Plant α ε μ → Prop
  | source {id : Nat} {s : Source α ε} : p.sources[id]? = some s →
    Asks w p (.source id) (s.step w).1 (.source id) (p.setSource id (s.step w).2)
  /-- There is no such source. -/
  | absent {id : Nat} : p.sources[id]? = none →
    Asks w p (.source id) .finish (.source id) p
  /-- The branch has been dropped. -/
  | dropped {k slot : Nat} {h : Hub α (Stage α μ)} : p.hubs[k]? = some h →
    h.position? slot = none → Asks w p (.branch k slot) .finish (.branch k slot) p
  /-- The hub holds the next item. -/
  | buffered {k slot position : Nat} {h : Hub α (Stage α μ)} {a : α} :
    p.hubs[k]? = some h → h.position? slot = some position → h.itemAt? position = some a →
      Asks w p (.branch k slot) (.item a) (.branch k slot) (p.setHub k (h.advance slot position))
  /-- The hub has let go of its input. -/
  | gone {k slot position : Nat} {h : Hub α (Stage α μ)} :
    p.hubs[k]? = some h → h.position? slot = some position → h.itemAt? position = none →
      h.input = none → Asks w p (.branch k slot) .finish (.branch k slot) p
  /-- The stage below has been asked and goes on. -/
  | passes {p' : Plant α ε μ} {k slot position : Nat} {h h' : Hub α (Stage α μ)}
    {below below' : Stage α μ} {signal : Signal α ε} {ws : List Waker} :
    p.Pulls k slot h position below → Asks w p below signal below' p' →
      Passes w h below' slot position signal h' ws →
        Asks w p (.branch k slot) signal (.branch k slot) ((p'.setHub k h').wake ws)
  /-- The stage below has ended or failed, and the hub lets go of it. -/
  | ended {p₁ p₂ : Plant α ε μ} {k slot position : Nat} {h : Hub α (Stage α μ)}
    {below below' : Stage α μ} {signal : Signal α ε} : p.Pulls k slot h position below →
      signal.isLast = true → Asks w p below signal below' p₁ →
        Releases (p₁.setHub k (h.ended slot)) below' p₂ →
          Asks w p (.branch k slot) signal (.branch k slot) (p₂.wake (h.otherWakers slot))
  /-- An operator does something of its own. -/
  | own {p' : Plant α ε μ} {op : Op α μ} {input s' : Stage α μ} {r : Reaction (Op α μ) α ε} :
    op.idle true = some r → Settles (p.noteCall op (·.noteShown r.shows)) r input s' p' →
      Asks w p (.operator op input) r.shows s' p'
  /-- An operator reacts to its input. -/
  | reacts {p₁ p₂ : Plant α ε μ} {op : Op α μ} {input input' s' : Stage α μ}
    {signal : Signal α ε} : op.idle true = (none : Option (Reaction (Op α μ) α ε)) →
      Asks w p input signal input' p₁ →
        Settles (p₁.noteCall op fun l => (l.notePulled signal).noteShown (op.react signal).shows)
          (op.react signal) input' s' p₂ →
          Asks w p (.operator op input) (op.react signal).shows s' p₂
  /-- An operator without input does something. -/
  | drains {op : Op α μ} {r : Reaction (Op α μ) α ε} : op.idle false = some r →
    Asks w p (.drained op) r.shows (.drained r.state) (p.noteCall op (·.noteShown r.shows))
  /-- An operator without input has nothing to do. -/
  | done {op : Op α μ} :
    op.idle false = (none : Option (Reaction (Op α μ) α ε)) →
      Asks w p (.drained op) .finish (.drained op) p
  | nobody {round : Round} :
    Asks w p (.union [] round) .finish (.union [] round) p
  /-- A union asks the input whose turn it is. -/
  | turn {p₁ p₂ : Plant α ε μ} {before after left : List (Stage α μ)} {s s' : Stage α μ}
    {round : Round} {signal : Signal α ε} {out : Round.Outcome α ε} :
    out = round.react (before ++ s :: after).length signal → Asks w p s signal s' p₁ →
      Sheds p₁ before s' after out.effect left p₂ →
        Asks w p (.union (before ++ s :: after) round) out.shows (.union left out.round) p₂

/-! ## Frames -/

section Frames

variable {p p' p₁ p₂ : Plant α ε μ} {s s' input input' below below' : Stage α μ} {w : Waker}
  {signal : Signal α ε} {n k slot position : Nat} {h h' : Hub α (Stage α μ)}

omit [Operator μ α α ε] in
/-- Letting go of a stage lets go of all its leaves. -/
theorem Releases.frame (hrel : Releases p s p') {n : Nat} (hS : p.supply.Layered)
    (hbelow : ∀ l ∈ s.leaves, l.Below n) : Supply.Frame n p.supply p'.supply s.leaves [] := by
  induction hrel generalizing n with
  | source hs =>
    exact Supply.Frame.setSource hS hs (fun hlive => absurd hlive Bool.false_ne_true)
      (fun hcells hclosed => ⟨hcells, hclosed⟩) (List.nil_subset _)
      fun hlive => absurd hlive Bool.false_ne_true
  | @absent p id hs =>
    refine ⟨hS, rfl, fun _ _ => rfl, .refl _, List.nil_subset _, fun l hl hmem => ?_⟩
    rcases hmem with hmem | hmem
    · rw [Stage.leaves, List.mem_singleton] at hmem
      subst hmem
      obtain ⟨t, ht, -⟩ := hl
      cases hs.symm.trans ht
    · exact .inr hmem
  | @stays p k slot h hh hin =>
    have horderly := hS k h hh
    have hsame : ((h.drop slot).forgetOthers slot).inputLeaves = h.inputLeaves :=
      Hub.inputLeaves_of_input hin
    refine Supply.Frame.through_hub (hbelow _ List.mem_cons_self) hh
      (Supply.Frame.refl hS k _) horderly.drop
      (Hub.ages_drop horderly.inBounds) ?_ (Supply.Frame.refl (hS.setHub horderly.drop) k [])
      (List.nil_subset _) ?_
    · rw [hsame]
      exact List.subset_append_left _ _
    · intro q hq
      rw [Hub.forgetOthers_position?, Hub.drop_position?, if_pos rfl] at hq
      cases hq
  | @last p p' k slot h below hh hin hnone hrel ih =>
    have horderly := hS k h hh
    have hleaves := Hub.inputLeaves_of_some hin
    refine Supply.Frame.through_hub (hbelow _ List.mem_cons_self) hh
      (Supply.Frame.refl hS k _) horderly.drop
      (Hub.ages_drop horderly.inBounds) ?_
      (ih (hS.setHub horderly.drop) (hleaves ▸ horderly.below)) (List.nil_subset _) ?_
    · rw [hleaves]
      exact List.subset_append_right _ _
    · intro q hq
      rw [Hub.forgetOthers_position?, Hub.drop_position?, if_pos rfl] at hq
      cases hq
  | operator hrel ih =>
    rw [supply_noteCall] at ih
    exact ih hS hbelow
  | drained =>
    rw [supply_noteCall]
    exact Supply.Frame.refl hS n []
  | nobody => exact Supply.Frame.refl hS n []
  | @next p p₁ p₂ s rest round hfirst hrest ihfirst ihrest =>
    obtain ⟨hs, hothers⟩ := List.forall_mem_append.1 hbelow
    have hdone := (ihfirst hS hs).among [] (Stage.leavesOf rest)
    exact hdone.trans (ihrest hdone.layered hothers)

omit [Operator μ α α ε] in
lemma Settles.frame {r : Reaction (Op α μ) α ε} (hset : Settles p r input s' p')
    (hS : p.supply.Layered) (hbelow : ∀ l ∈ input.leaves, l.Below n) :
    Supply.Frame n p.supply p'.supply input.leaves s'.leaves := by
  cases hset with
  | keeps _ => exact Supply.Frame.refl hS n _
  | closes _ hrel => exact hrel.frame hS hbelow

omit [Operator μ α α ε] in
lemma Sheds.frame {before after left : List (Stage α μ)} {effect : Round.Effect}
    (hshed : Sheds p before s after effect left p') (hS : p.supply.Layered)
    (hbelow : ∀ l ∈ Stage.leavesOf (before ++ s :: after), l.Below n) :
    Supply.Frame n p.supply p'.supply (Stage.leavesOf (before ++ s :: after))
      (Stage.leavesOf left) := by
  cases hshed with
  | nothing => exact Supply.Frame.refl hS n _
  | asked hrel =>
    rw [Stage.leavesOf_append, Stage.leavesOf] at hbelow ⊢
    rw [Stage.leavesOf_append]
    have hs : ∀ l ∈ s.leaves, l.Below n := fun l hl =>
      hbelow l (List.mem_append_right _ (List.mem_append_left _ hl))
    exact (hrel.frame hS hs).among _ _
  | everything hrel => exact hrel.frame hS hbelow

omit [Operator μ α α ε] in
/-- A union ends only when no input is left. -/
lemma Sheds.left_eq_nil {before after left : List (Stage α μ)} {round : Round}
    {out : Round.Outcome α ε} (hout : out = round.react (before ++ s :: after).length signal)
    (hshed : Sheds p before s after out.effect left p') (hlast : out.shows.isLast = true) :
    left = [] := by
  subst hout
  cases signal with
  | item a => cases hlast
  | again => cases hlast
  | pending =>
    simp only [Round.react, Round.nextTurn] at hlast
    split at hlast <;> cases hlast
  | fail e =>
    cases hshed
    rfl
  | finish =>
    by_cases hone : (before ++ s :: after).length ≤ 1
    · -- The input that has been asked was the only one.
      have hcount : (before ++ s :: after).length = (before ++ after).length + 1 := by
        simp only [List.length_append, List.length_cons]
        omega
      simp only [Round.react, if_pos hone] at hshed
      cases hshed
      exact List.length_eq_zero_iff.1 (by omega)
    · simp only [Round.react, if_neg hone, Round.nextTurn] at hlast
      split at hlast <;> cases hlast

omit [Operator μ α α ε] in
/-- A hub that passes a signal on keeps the stage below, and only the branch that reads may move. -/
lemma Passes.spec {ws : List Waker} (hpass : Passes w h below' slot position signal h' ws)
    (hb : h.InBounds) (hp : h.position? slot = some position) (hnone : h.itemAt? position = none) :
    h'.input = some below' ∧ h'.InBounds ∧
      ∃ x, ∀ i, h'.position? i = if i = slot then some x else h.position? i := by
  have hsame : ∀ i, h.position? i = if i = slot then some position else h.position? i := by
    intro i
    by_cases hi : i = slot
    · rw [if_pos hi, hi, hp]
    · rw [if_neg hi]
  cases hpass with
  | again => exact ⟨rfl, hb, position, hsame⟩
  | pending => exact ⟨rfl, hb, position, hsame⟩
  | item a =>
    have hend := Hub.itemAt?_eq_none hb hp hnone
    refine ⟨?_, ?_, position + 1, ?_⟩
    · exact Hub.deliver_input (h := { h with input := some below' }) hp
    · exact Hub.deliver_inBounds (h := { h with input := some below' }) hb hp hend
    · exact Hub.deliver_position? (h := { h with input := some below' }) hp

omit [Operator μ α α ε] in
/-- A hub that still has an input only moves the branch that reads. -/
lemma Passes.ages {ws : List Waker} (hpass : Passes w h below' slot position signal h' ws)
    (hpull : p.Pulls k slot h position below) (hb : h.InBounds) : h.Ages h' := by
  obtain ⟨-, -, x, hmoved⟩ := hpass.spec hb hpull.live hpull.nothing
  refine Hub.Ages.of_input ?_ (Hub.live_of_moved hpull.live hmoved)
  rw [hpull.input]
  exact Option.some_ne_none below

/-- Asking a stage leaves it with leaves of its own. -/
theorem Asks.frame (hask : Asks w p s signal s' p') {n : Nat} (hS : p.supply.Layered)
    (hbelow : ∀ l ∈ s.leaves, l.Below n) :
    Supply.Frame n p.supply p'.supply s.leaves s'.leaves := by
  induction hask generalizing n with
  | @source id s hs =>
    refine Supply.Frame.setSource hS hs ?_ ?_ (List.Subset.refl _) fun _ => List.mem_cons_self
    · intro hlive
      cases hc : s.cells with
      | nil => cases hclosed : s.closed <;> simpa [Source.step, hc, hclosed] using hlive
      | cons c rest => cases c <;> simpa [Source.step, hc] using hlive
    · intro hcells hclosed
      rw [Source.step_closed hcells hclosed]
      exact ⟨hcells, hclosed⟩
  | absent _ => exact Supply.Frame.refl hS n _
  | dropped _ _ => exact Supply.Frame.refl hS n _
  | gone _ _ _ _ => exact Supply.Frame.refl hS n _
  | @buffered k slot position h a hh hp ha =>
    have horderly := hS k h hh
    have hle := (horderly.inBounds.of_position? hp).1
    have hlt := Hub.lt_of_itemAt?_eq_some hle ha
    have hsame : (h.advance slot position).inputLeaves = h.inputLeaves :=
      Hub.inputLeaves_of_input (Hub.advance_input hp)
    have hadvanced : (h.advance slot position).IsOrderly k := by
      refine ⟨Hub.advance_inBounds horderly.inBounds hp hlt, fun _ => ⟨slot, position + 1, ?_⟩, ?_⟩
      · rw [Hub.advance_position? hp, if_pos rfl]
      · rw [hsame]
        exact horderly.below
    refine Supply.Frame.through_hub (hbelow _ List.mem_cons_self) hh
      (Supply.Frame.refl hS k _) hadvanced
      (Hub.ages_advance horderly.inBounds hp ha) ?_ (Supply.Frame.refl (hS.setHub hadvanced) k [])
      (List.Subset.refl _) fun _ _ => List.mem_cons_self
    rw [hsame]
    exact List.subset_append_left _ _
  | @passes p' k slot position h h' below below' signal ws hpull hask hpass ih =>
    have horderly := hS k h hpull.hub
    have hleaves := Hub.inputLeaves_of_some hpull.input
    have hbefore := ih (hleaves ▸ horderly.below)
    obtain ⟨hin, hb, x, hmoved⟩ := hpass.spec horderly.inBounds hpull.live hpull.nothing
    have hleaves' := Hub.inputLeaves_of_some hin
    have horderly' : h'.IsOrderly k := by
      refine ⟨hb, fun _ => ⟨slot, x, by rw [hmoved, if_pos rfl]⟩, fun l hl => ?_⟩
      rw [hleaves'] at hl
      refine horderly.below l ?_
      rw [hleaves]
      exact hbefore.subset hl
    rw [← hleaves] at hbefore
    refine Supply.Frame.through_hub (hbelow _ List.mem_cons_self) hpull.hub hbefore horderly'
      (hpass.ages hpull horderly.inBounds) ?_
      (Supply.Frame.refl (hbefore.layered.setHub horderly') k []) (List.Subset.refl _)
      fun _ _ => List.mem_cons_self
    rw [hleaves']
    exact List.subset_append_left _ _
  | @ended p₁ p₂ k slot position h below below' signal hpull hlast hask hrel ih =>
    have horderly := hS k h hpull.hub
    have hleaves := Hub.inputLeaves_of_some hpull.input
    have hbefore := ih (hleaves ▸ horderly.below)
    have hdone : ∀ l ∈ below'.leaves, l.Below k := fun l hl =>
      horderly.below l (hleaves ▸ hbefore.subset hl)
    rw [← hleaves] at hbefore
    exact Supply.Frame.through_hub (hbelow _ List.mem_cons_self) hpull.hub hbefore horderly.ended
      Hub.ages_ended (List.subset_append_right _ _)
      (hrel.frame (hbefore.layered.setHub horderly.ended) hdone) (List.Subset.refl _)
      fun _ _ => List.mem_cons_self
  | own _ hset =>
    have hframe := hset.frame (n := n) (by rwa [supply_noteCall]) hbelow
    rwa [supply_noteCall] at hframe
  | reacts _ _ hset ih =>
    have hbefore := ih hbelow
    have hframe := hset.frame (n := n) (by rw [supply_noteCall]; exact hbefore.layered)
      fun l hl => hbelow l (hbefore.subset hl)
    rw [supply_noteCall] at hframe
    exact hbefore.trans hframe
  | drains _ =>
    rw [supply_noteCall]
    exact Supply.Frame.refl hS n []
  | done _ => exact Supply.Frame.refl hS n []
  | nobody => exact Supply.Frame.refl hS n []
  | @turn p₁ p₂ before after left s s' round signal out hout hask hshed ih =>
    rw [Stage.leaves, Stage.leavesOf_append, Stage.leavesOf] at hbelow ⊢
    have hs : ∀ l ∈ s.leaves, l.Below n := fun l hl =>
      hbelow l (List.mem_append_right _ (List.mem_append_left _ hl))
    have hbefore := (ih hs).among (Stage.leavesOf before) (Stage.leavesOf after)
    have hframe := hshed.frame (n := n) hbefore.layered fun l hl => hbelow l (hbefore.subset (by
      rwa [Stage.leavesOf_append, Stage.leavesOf] at hl))
    rw [Stage.leavesOf_append, Stage.leavesOf] at hframe
    exact hbefore.trans hframe

/-- Nothing more comes from a branch that has met the end or an error. -/
lemma Asks.exhausted_of_ended (hpull : p.Pulls k slot h position below)
    (hask : Asks w p below signal below' p₁)
    (hrel : Releases (p₁.setHub k (h.ended slot)) below' p₂)
    (hS : p.supply.Layered) : p₂.supply.Exhausted (.branch k slot) := by
  have horderly := hS k h hpull.hub
  have hleaves : ∀ l ∈ below.leaves, l.Below k :=
    Hub.inputLeaves_of_some hpull.input ▸ horderly.below
  have hinner := hask.frame hS hleaves
  have hh₁ : p₁.hubs[k]? = some h := (hinner.beyond k le_rfl).trans hpull.hub
  have hframe := hrel.frame (n := k) (hinner.layered.setHub horderly.ended)
    fun l hl => hleaves l (hinner.subset hl)
  refine hframe.ages.exhausted (.branch k slot) fun h' hh' q hq => ?_
  obtain rfl := Option.some.inj ((Supply.getElem?_setHub_self (S := p₁.supply) hh₁).symm.trans hh')
  obtain rfl := Option.some.inj (hpull.live.symm.trans hq)
  exact ⟨rfl, Hub.unread_of_itemAt?_eq_none hpull.nothing⟩

end Frames

/-! ## The functions follow the rules -/

section Release

/-- Leaving one of the first hubs follows the rules. -/
def LeavesByRules (quit : Plant α ε μ → Nat → Nat → Plant α ε μ) (n : Nat) : Prop :=
  ∀ (p : Plant α ε μ) k slot, p.supply.Layered → n ≤ p.hubs.length → k < n →
    Releases p (.branch k slot) (quit p k slot)

variable {quit : Plant α ε μ → Nat → Nat → Plant α ε μ} {n : Nat}

omit [Operator μ α α ε] in
lemma releaseWith_releases (hquit : LeavesByRules quit n) (s : Stage α μ) (p : Plant α ε μ)
    (hS : p.supply.Layered) (hn : n ≤ p.hubs.length) (hbelow : ∀ l ∈ s.leaves, l.Below n) :
    Releases p s (s.releaseWith quit p) := by
  induction s using Stage.induction generalizing p with
  | source id =>
    cases hs : p.sources[id]? with
    | none =>
      have heq : Stage.releaseWith quit p (.source id) = p := by simp only [Stage.releaseWith, hs]
      rw [heq]
      exact .absent hs
    | some s =>
      rw [Stage.releaseWith_source hs]
      exact .source hs
  | branch k slot => exact hquit p k slot hS hn (hbelow _ List.mem_cons_self)
  | operator op input ih =>
    rw [Stage.releaseWith]
    exact .operator (ih _ (by rwa [supply_noteCall]) (by rwa [noteCall_hubs]) hbelow)
  | drained op => exact .drained
  | union inputs round ih =>
    rw [Stage.releaseWith]
    induction inputs generalizing p with
    | nil => exact .nobody
    | cons s rest ihrest =>
      obtain ⟨hs, hothers⟩ := List.forall_mem_append.1 hbelow
      obtain ⟨ihs, ihall⟩ := List.forall_mem_cons.1 ih
      have hfirst := ihs p hS hn hs
      have hframe := hfirst.frame hS hs
      rw [Stage.releaseAllWith]
      exact .next hfirst (ihrest ihall _ hframe.layered (hn.trans_eq hframe.length.symm) hothers)

omit [Operator μ α α ε] in
lemma leave_releases {depth : Nat} (hn : n ≤ depth) :
    LeavesByRules (leave depth : Plant α ε μ → Nat → Nat → Plant α ε μ) n := by
  induction depth generalizing n with
  | zero =>
    intro p k slot _ _ hk
    omega
  | succ depth ih =>
    intro p k slot hS hlen hk
    have hh : p.hubs[k]? = some p.hubs[k] := List.getElem?_eq_getElem (hk.trans_le hlen)
    have horderly := hS k _ hh
    by_cases hin : (p.hubs[k].drop slot).input = p.hubs[k].input
    · rw [leave_of_keeps hh hin]
      exact .stays hh hin
    · obtain ⟨hnone, -⟩ := (Hub.drop_input_cases p.hubs[k] slot).resolve_left hin
      cases hbelow : p.hubs[k].input with
      | none => exact absurd (hnone.trans hbelow.symm) hin
      | some below =>
        rw [leave_of_last hh hbelow hnone]
        have hlen' : k ≤ (p.setHub k ((p.hubs[k].drop slot).forgetOthers slot)).hubs.length := by
          rw [setHub_hubs, List.length_set]
          omega
        refine .last hh hbelow hnone (releaseWith_releases (ih (by omega)) below _
          (hS.setHub horderly.drop) hlen' ?_)
        rw [← Hub.inputLeaves_of_some hbelow]
        exact horderly.below

omit [Operator μ α α ε] in
lemma settleWith_settles (hquit : LeavesByRules quit n) (p : Plant α ε μ)
    (r : Reaction (Op α μ) α ε) (input : Stage α μ) (hS : p.supply.Layered)
    (hn : n ≤ p.hubs.length) (hbelow : ∀ l ∈ input.leaves, l.Below n) :
    (Stage.settleWith quit p r input).1 = r.shows ∧
      Settles p r input (Stage.settleWith quit p r input).2.1
        (Stage.settleWith quit p r input).2.2 := by
  unfold Stage.settleWith
  cases hkeeps : r.keepsInput with
  | true => exact ⟨rfl, .keeps hkeeps⟩
  | false => exact ⟨rfl, .closes hkeeps (releaseWith_releases hquit input p hS hn hbelow)⟩

omit [Operator μ α α ε] in
lemma settleUnion_sheds (hquit : LeavesByRules quit n) (p : Plant α ε μ)
    (before after : List (Stage α μ)) (s : Stage α μ) (hS : p.supply.Layered)
    (hn : n ≤ p.hubs.length)
    (hbelow : ∀ l ∈ Stage.leavesOf (before ++ s :: after), l.Below n) (effect : Round.Effect) :
    Sheds p before s after effect (Stage.settleUnion quit p before s after effect).1
      (Stage.settleUnion quit p before s after effect).2 := by
  cases effect with
  | keepAll => exact .nothing
  | dropAsked =>
    rw [Stage.leavesOf_append, Stage.leavesOf] at hbelow
    refine .asked ?_
    rw [Stage.settleUnion, Stage.releaseAllWith, Stage.releaseAllWith]
    exact releaseWith_releases hquit s p hS hn fun l hl =>
      hbelow l (List.mem_append_right _ (List.mem_append_left _ hl))
  | dropAll =>
    exact .everything
      (releaseWith_releases hquit (.union (before ++ s :: after) .start) p hS hn hbelow)

omit [Operator μ α α ε] in
/-- Letting go of a stage follows the rules. -/
theorem release_releases {p : Plant α ε μ} {s : Stage α μ} (hS : p.supply.Layered)
    (hbelow : ∀ l ∈ s.leaves, l.Below p.hubs.length) : Releases p s (p.release s) :=
  releaseWith_releases (leave_releases le_rfl) s p hS le_rfl hbelow

end Release

section Step

variable {w : Waker} {n : Nat}

/-- Reading one of the first hubs follows the rules. -/
def ReadsByRules (w : Waker) (look : Plant α ε μ → Nat → Nat → Signal α ε × Plant α ε μ)
    (n : Nat) : Prop :=
  ∀ (p : Plant α ε μ) k slot, p.supply.Layered → n ≤ p.hubs.length → k < n →
    Asks w p (.branch k slot) (look p k slot).1 (.branch k slot) (look p k slot).2

lemma stepWith_asks {look : Plant α ε μ → Nat → Nat → Signal α ε × Plant α ε μ}
    {quit : Plant α ε μ → Nat → Nat → Plant α ε μ} (hlook : ReadsByRules w look n)
    (hquit : LeavesByRules quit n) (s : Stage α μ) (p : Plant α ε μ)
    (hS : p.supply.Layered) (hn : n ≤ p.hubs.length) (hbelow : ∀ l ∈ s.leaves, l.Below n) :
    Asks w p s (s.stepWith look quit w p).1 (s.stepWith look quit w p).2.1
      (s.stepWith look quit w p).2.2 := by
  induction s using Stage.induction with
  | source id =>
    cases hs : p.sources[id]? with
    | none =>
      simp only [Stage.stepWith, hs]
      exact .absent hs
    | some s =>
      rw [Stage.stepWith_source hs]
      exact .source hs
  | branch k slot => exact hlook p k slot hS hn (hbelow _ List.mem_cons_self)
  | operator op input ih =>
    cases hidle : (op.idle true : Option (Reaction (Op α μ) α ε)) with
    | some r =>
      obtain ⟨hshows, hset⟩ := settleWith_settles hquit
        (p.noteCall op (·.noteShown r.shows)) r input
        (by rwa [supply_noteCall]) (by rwa [noteCall_hubs]) hbelow
      simp only [Stage.stepWith, hidle]
      rw [hshows]
      exact .own hidle hset
    | none =>
      have hask := ih hbelow
      rcases hs : Stage.stepWith look quit w p input with ⟨signal, input', p'⟩
      rw [hs] at hask
      have hframe := hask.frame hS hbelow
      obtain ⟨hshows, hset⟩ := settleWith_settles hquit
        (p'.noteCall op fun l => (l.notePulled signal).noteShown (op.react signal).shows)
        (op.react signal) input' (by rw [supply_noteCall]; exact hframe.layered)
        (by rw [noteCall_hubs]; exact hn.trans_eq hframe.length.symm)
        (fun l hl => hbelow l (hframe.subset hl))
      simp only [Stage.stepWith, hidle, hs]
      rw [hshows]
      exact .reacts hidle hask hset
  | drained op =>
    cases hidle : (op.idle false : Option (Reaction (Op α μ) α ε)) with
    | some r =>
      simp only [Stage.stepWith, hidle]
      exact .drains hidle
    | none =>
      simp only [Stage.stepWith, hidle]
      exact .done hidle
  | union inputs round ih =>
    by_cases hempty : inputs = []
    · subst hempty
      exact .nobody
    · obtain ⟨before, s, after, rfl, hturn⟩ := Stage.exists_asked round hempty
      have hs : ∀ l ∈ s.leaves, l.Below n := fun l hl => hbelow l (by
        rw [Stage.leaves, Stage.leavesOf_append, Stage.leavesOf]
        exact List.mem_append_right _ (List.mem_append_left _ hl))
      have hask := ih s (by simp) hs
      rcases hstep : Stage.stepWith look quit w p s with ⟨signal, s', p'⟩
      rw [hstep] at hask
      have hframe := hask.frame hS hs
      have hall : ∀ l ∈ Stage.leavesOf (before ++ s' :: after), l.Below n := by
        intro l hl
        refine hbelow l ?_
        rw [Stage.leaves, Stage.leavesOf_append, Stage.leavesOf]
        rw [Stage.leavesOf_append, Stage.leavesOf] at hl
        exact (hframe.among _ _).subset hl
      rw [Stage.stepWith_union hturn hstep]
      exact .turn rfl hask (settleUnion_sheds hquit p' before after s' hframe.layered
        (hn.trans_eq hframe.length.symm) hall _)

lemma read_asks {depth : Nat} (hn : n ≤ depth) :
    ReadsByRules w (read w depth : Plant α ε μ → Nat → Nat → Signal α ε × Plant α ε μ) n := by
  induction depth generalizing n with
  | zero =>
    intro p k slot _ _ hk
    omega
  | succ depth ih =>
    intro p k slot hS hlen hk
    have hdepth : k ≤ depth := by omega
    have hlen' : k ≤ p.hubs.length := by omega
    have hh : p.hubs[k]? = some p.hubs[k] := List.getElem?_eq_getElem (hk.trans_le hlen)
    have horderly := hS k _ hh
    cases hp : p.hubs[k].position? slot with
    | none =>
      have heq : read w (depth + 1) p k slot = (.finish, p) := by simp only [read, hh, hp]
      rw [heq]
      exact .dropped hh hp
    | some position =>
      cases ha : p.hubs[k].itemAt? position with
      | some a =>
        rw [read_buffered hh hp ha]
        exact .buffered hh hp ha
      | none =>
        cases hin : p.hubs[k].input with
        | none =>
          rw [read_gone hh hp ha hin]
          exact .gone hh hp ha hin
        | some below =>
          have hbelow : ∀ l ∈ below.leaves, l.Below k := by
            rw [← Hub.inputLeaves_of_some hin]
            exact horderly.below
          have hask := stepWith_asks (ih hdepth) (leave_releases hdepth) below p hS hlen' hbelow
          rcases hs : below.stepWith (read w depth) (leave depth) w p with ⟨signal, below', p'⟩
          rw [hs] at hask
          have hpull : p.Pulls k slot p.hubs[k] position below := ⟨hh, hp, ha, hin⟩
          have hframe := hask.frame hS hbelow
          have hended : Releases (p'.setHub k (p.hubs[k].ended slot)) below'
              (below'.releaseWith (leave depth) (p'.setHub k (p.hubs[k].ended slot))) := by
            refine releaseWith_releases (leave_releases hdepth) below' _
              (hframe.layered.setHub horderly.ended) ?_ fun l hl => hbelow l (hframe.subset hl)
            rw [setHub_hubs, List.length_set]
            exact hlen'.trans_eq hframe.length.symm
          cases signal with
          | again =>
            rw [read_again hh hp ha hin hs]
            exact .passes hpull hask .again
          | pending =>
            rw [read_pending hh hp ha hin hs]
            exact .passes hpull hask .pending
          | item a =>
            rw [read_item hh hp ha hin hs]
            exact .passes hpull hask (.item a)
          | fail e =>
            rw [read_fail hh hp ha hin hs, endHub_eq]
            exact .ended hpull rfl hask hended
          | finish =>
            rw [read_finish hh hp ha hin hs, endHub_eq]
            exact .ended hpull rfl hask hended

/-- Asking a stage follows the rules. -/
theorem step_asks {p : Plant α ε μ} {s : Stage α μ} (hS : p.supply.Layered)
    (hbelow : ∀ l ∈ s.leaves, l.Below p.hubs.length) :
    Asks w p s (p.step w s).1 (p.step w s).2.1 (p.step w s).2.2 :=
  stepWith_asks (read_asks le_rfl) (leave_releases le_rfl) s p hS le_rfl hbelow

end Step

end Plant

end SparqlStream
