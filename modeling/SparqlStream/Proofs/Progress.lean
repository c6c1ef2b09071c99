import Mathlib.Tactic
import SparqlStream.Proofs.Reading
import SparqlStream.Proofs.Supply

/-!
# Asking a stage makes progress

A stage whose leaves are sources without errors and waits shows what is due from it, signal by
signal.  `Stage.Moves` says so for one step: the plant stays sound, the stage keeps only leaves of
its own, and the signal changes what is due from the stage as `Due.Shows` demands.

A branch asks the stage below its hub, which has branches of lower hubs only.  So the proof is an
induction on the depth: `Plant.leavesWell` and `Plant.readsWell` follow from what is known about
all stages of the levels below, and for one level `Stage.moves` is an induction on the stage.
-/

namespace SparqlStream

variable {α ε μ : Type} {X : Expansion (Op α μ) α} {n : Nat}

namespace Plant

variable (p : Plant α ε μ)

@[simp] lemma supply_setHub (k : Nat) (h : Hub α (Stage α μ)) :
    (p.setHub k h).supply = p.supply.setHub k h := rfl

@[simp] lemma supply_wake (ws : List Waker) : (p.wake ws).supply = p.supply := rfl

@[simp] lemma supply_noteCall (op : Op α μ) (f : CallLog ε → CallLog ε) :
    (p.noteCall op f).supply = p.supply := by
  cases op <;> rfl

end Plant

namespace Stage

/-! ## Letting go -/

section Release

variable {leave : Plant α ε μ → Nat → Nat → Plant α ε μ}

/-- Leaving hubs is a change that touches only the branch that leaves. -/
def LeavesWell (X : Expansion (Op α μ) α) (leave : Plant α ε μ → Nat → Nat → Plant α ε μ)
    (n : Nat) : Prop :=
  ∀ (p : Plant α ε μ) (Φ : Leaf → Due α) (k slot : Nat), p.supply.Sound X Φ n →
    p.supply.Owns n [.branch k slot] →
      Supply.Leads X n p.supply (leave p k slot).supply Φ Φ [.branch k slot]

/-- Letting go of a stage is a change that touches only its leaves. -/
def ReleasesWell (X : Expansion (Op α μ) α) (leave : Plant α ε μ → Nat → Nat → Plant α ε μ)
    (n : Nat) (s : Stage α μ) : Prop :=
  ∀ (p : Plant α ε μ) (Φ : Leaf → Due α), p.supply.Sound X Φ n → p.supply.Owns n s.leaves →
    Supply.Leads X n p.supply (releaseWith leave p s).supply Φ Φ s.leaves

lemma releaseAllWith_leads {l : List (Stage α μ)} (hl : ∀ s ∈ l, s.ReleasesWell X leave n)
    (p : Plant α ε μ) (Φ : Leaf → Due α) (hS : p.supply.Sound X Φ n)
    (hown : p.supply.Owns n (leavesOf l)) :
    Supply.Leads X n p.supply (releaseAllWith leave p l).supply Φ Φ (leavesOf l) := by
  induction l generalizing p with
  | nil => exact Supply.Leads.refl hS
  | cons s rest ih =>
    obtain ⟨hs, hrest⟩ := List.forall_mem_cons.1 hl
    have hfirst := hs p Φ hS (hown.sublist (List.sublist_append_left _ _))
    have hown' := hfirst.owns hown (List.nil_sublist _) (List.forall_mem_nil _)
    exact hfirst.trans (ih hrest _ hfirst.sound hown')

theorem releasesWell (hleave : LeavesWell X leave n) (s : Stage α μ) :
    s.ReleasesWell X leave n := by
  induction s using Stage.induction with
  | source id =>
    intro p Φ hS hown
    obtain ⟨s, hs, -⟩ := hown.present _ List.mem_cons_self
    have hset := Supply.Leads.setSource { s with isLive := false } (Φ (.source id)) hS hown
      (fun hlive => absurd hlive Bool.false_ne_true)
    rw [Function.update_eq_self] at hset
    rw [releaseWith_source hs]
    exact hset
  | branch k slot => exact fun p Φ => hleave p Φ k slot
  | operator op input ih =>
    intro p Φ hS hown
    rw [releaseWith]
    have hinput := ih (p.noteCall op fun l => { l with isLive := false }) Φ
    rw [Plant.supply_noteCall] at hinput
    exact hinput hS hown
  | drained op =>
    intro p Φ hS hown
    rw [releaseWith, Plant.supply_noteCall]
    exact Supply.Leads.refl hS
  | union inputs round ih =>
    intro p Φ hS hown
    rw [releaseWith]
    exact releaseAllWith_leads ih p Φ hS hown

end Release

/-! ## Asking -/

/-- A stage has been asked: the stage and the supply have changed, and so has what is due at the
leaves. -/
structure Moves (X : Expansion (Op α μ) α) (n : Nat) (S S' : Supply α ε μ) (Φ Φ' : Leaf → Due α)
    (s s' : Stage α μ) (signal : Signal α ε) : Prop where
  leads : Supply.Leads X n S S' Φ Φ' s.leaves
  leaves : s'.leaves.Sublist s.leaves
  present : ∀ l ∈ s'.leaves, S'.Present l
  valid : s'.IsValid X
  shows : (s.due X Φ).Shows signal (s'.due X Φ')

/-- The part of a stage that remains after it has been asked is still its own. -/
lemma Moves.owns {S S' : Supply α ε μ} {Φ Φ' : Leaf → Due α} {s s' : Stage α μ}
    {signal : Signal α ε} (h : Moves X n S S' Φ Φ' s s' signal) (hown : S.Owns n s.leaves) :
    S'.Owns n s'.leaves := by
  have hown' : S.Owns n (s.leaves ++ []) := by rwa [List.append_nil]
  have hafter := h.leads.owns hown' h.leaves h.present
  rwa [List.append_nil] at hafter

/-! ### The inputs of a union -/

/-- What is due from the inputs of a union, as one of them is asked. -/
lemma dueOf_middle (Φ : Leaf → Due α) (before after : List (Stage α μ)) (s : Stage α μ) :
    dueOf X Φ (before ++ s :: after) = s.due X Φ + (.tick + dueOf X Φ (before ++ after)) := by
  rw [dueOf_append, dueOf, dueOf_append]
  abel

lemma leavesOf_middle (before after : List (Stage α μ)) (s : Stage α μ) :
    (leavesOf (before ++ s :: after)).Perm (s.leaves ++ leavesOf (before ++ after)) := by
  rw [leavesOf_append, leavesOf, leavesOf_append, ← List.append_assoc, ← List.append_assoc]
  exact List.perm_append_comm.append_right _

lemma areValid_middle {before after : List (Stage α μ)} {s : Stage α μ} :
    AreValid X (before ++ s :: after) ↔ s.IsValid X ∧ AreValid X (before ++ after) := by
  rw [areValid_append, AreValid, areValid_append]
  tauto

section Union

variable {S S' : Supply α ε μ} {Φ Φ' : Leaf → Due α} {s s' : Stage α μ}
  {before after : List (Stage α μ)} {round round' : Round} {signal : Signal α ε}
  (hmoves : Moves X n S S' Φ Φ' s s' signal)
  (hown : S.Owns n (s.leaves ++ leavesOf (before ++ after)))

include hmoves hown

/-- The inputs that are not asked stay as they are. -/
lemma dueOf_others : dueOf X Φ' (before ++ after) = dueOf X Φ (before ++ after) :=
  dueOf_congr fun _ hl => hmoves.leads.due_eq hown hl

/-- A union that keeps all its inputs moves with the one that is asked. -/
lemma moves_union_keep (hvalid : AreValid X (before ++ after))
    (hround : (before ++ s' :: after).length ≤ round'.remaining (before ++ s' :: after).length)
    (hend : signal ≠ .finish) :
    Moves X n S S' Φ Φ' (.union (before ++ s :: after) round)
      (.union (before ++ s' :: after) round') signal where
  leads := hmoves.leads.mono fun l hl =>
    (leavesOf_middle before after s).mem_iff.2 (List.mem_append_left _ hl)
  leaves := by
    rw [leaves, leaves, leavesOf_append, leavesOf_append, leavesOf, leavesOf]
    exact (List.Sublist.refl _).append (hmoves.leaves.append (.refl _))
  present l hl :=
    (hmoves.leads.owns hown hmoves.leaves hmoves.present).present l
      ((leavesOf_middle before after s').mem_iff.1 hl)
  valid := ⟨hround, areValid_middle.2 ⟨hmoves.valid, hvalid⟩⟩
  shows := by
    rw [due, due, dueOf_middle, dueOf_middle, dueOf_others hmoves hown]
    exact hmoves.shows.add fun heq => absurd heq hend

variable {leave : Plant α ε μ → Nat → Nat → Plant α ε μ}

/-- A union lets go of an input that has ended. -/
lemma moves_union_drop {p' : Plant α ε μ} (hleave : LeavesWell X leave n)
    (hp' : p'.supply = S') (hvalid : AreValid X (before ++ after))
    (hround : (before ++ after).length ≤ round'.remaining (before ++ after).length)
    (hd : (s.due X Φ).items = 0) {shown : Signal α ε}
    (hshown : shown = .again ∨ shown = .finish ∧ before ++ after = []) :
    Moves X n S (releaseAllWith leave p' [s']).supply Φ Φ' (.union (before ++ s :: after) round)
      (.union (before ++ after) round') shown := by
  subst hp'
  have hown' := hmoves.leads.owns hown hmoves.leaves hmoves.present
  have hreleased := releasesWell hleave s' p' Φ' hmoves.leads.sound
    (hown'.sublist (List.sublist_append_left _ _))
  have hothers := hreleased.owns hown' (List.nil_sublist _) (List.forall_mem_nil _)
  have hsub : s.leaves ++ s'.leaves ⊆ leavesOf (before ++ s :: after) := by
    refine List.append_subset.2 ⟨?_, List.Subset.trans hmoves.leaves.subset ?_⟩ <;>
      exact fun l hl => (leavesOf_middle before after s).mem_iff.2 (List.mem_append_left _ hl)
  refine ⟨(hmoves.leads.trans hreleased).mono hsub, ?_, ?_, ⟨hround, hvalid⟩, ?_⟩
  · rw [leaves, leaves, leavesOf_append, leavesOf_append, leavesOf]
    exact (List.Sublist.refl _).append (List.sublist_append_right _ _)
  · rw [leaves]
    exact fun l hl => hothers.present l hl
  · rw [due, due, dueOf_middle, ← dueOf_others hmoves hown]
    rcases hshown with rfl | ⟨rfl, hnil⟩
    · -- Nothing was due from the input, and its tick pays for the step.
      refine ⟨?_, ?_⟩
      · rw [Due.add_items, Due.add_items, hd, Due.tick_items, zero_add, zero_add]
      · simp only [Due.add_work, Due.tick_work]
        omega
    · rw [hnil, Due.Shows, Due.add_items, Due.add_items, hd, dueOf]
      simp

end Union

variable [Operator μ α α ε]

/-- Reading from hubs moves the branch that reads. -/
def ReadsWell (X : Expansion (Op α μ) α)
    (read : Plant α ε μ → Nat → Nat → Signal α ε × Plant α ε μ) (n : Nat) : Prop :=
  ∀ (p : Plant α ε μ) (Φ : Leaf → Due α) (k slot : Nat), p.supply.Sound X Φ n →
    p.supply.Owns n [.branch k slot] →
      ∃ Φ', Moves X n p.supply (read p k slot).2.supply Φ Φ' (.branch k slot) (.branch k slot)
        (read p k slot).1

section Step

variable {read : Plant α ε μ → Nat → Nat → Signal α ε × Plant α ε μ}
  {leave : Plant α ε μ → Nat → Nat → Plant α ε μ} {w : Waker}

/-- Asking a stage moves it. -/
def StepsWell (X : Expansion (Op α μ) α)
    (read : Plant α ε μ → Nat → Nat → Signal α ε × Plant α ε μ)
    (leave : Plant α ε μ → Nat → Nat → Plant α ε μ) (w : Waker) (n : Nat) (s : Stage α μ) : Prop :=
  ∀ (p : Plant α ε μ) (Φ : Leaf → Due α), p.supply.Sound X Φ n → p.supply.Owns n s.leaves →
    s.IsValid X →
      ∃ Φ', Moves X n p.supply (stepWith read leave w p s).2.2.supply Φ Φ' s
        (stepWith read leave w p s).2.1 (stepWith read leave w p s).1

lemma stepsWell_source (id : Nat) : StepsWell X read leave w n (.source id) := by
  intro p Φ hS hown _
  obtain ⟨s, hs, hlive⟩ := hown.present _ List.mem_cons_self
  obtain ⟨as, hcells, hclosed, hdue⟩ := hS.sources id s hs hlive
  rw [stepWith_source hs]
  have hpresent : ∀ s' : Source α ε, s'.isLive = true →
      (p.supply.setSource id s').Present (.source id) := by
    intro s' hs'
    obtain ⟨hlt, -⟩ := List.getElem?_eq_some_iff.1 hs
    exact ⟨s', List.getElem?_set_self hlt, hs'⟩
  cases as with
  | nil =>
    rw [Source.step_closed hcells hclosed]
    refine ⟨_, ⟨Supply.Leads.setSource _ (Φ (.source id)) hS hown fun _ => ?_, .refl _, ?_,
      trivial, ?_⟩⟩
    · exact ⟨[], hcells, hclosed, hdue⟩
    · exact List.forall_mem_singleton.2 (hpresent _ hlive)
    · rw [due, hdue]
      rfl
  | cons a as =>
    rw [Source.step_item hcells]
    refine ⟨_, ⟨Supply.Leads.setSource _ ⟨as, as.length⟩ hS hown fun _ => ?_, .refl _, ?_,
      trivial, ?_⟩⟩
    · exact ⟨as, rfl, hclosed, rfl⟩
    · exact List.forall_mem_singleton.2 (hpresent _ hlive)
    · rw [due, due, hdue, Function.update_self]
      exact ⟨rfl, Nat.lt_succ_self _⟩

/-! ### Operators -/

/-- What an operator owes follows what its input shows. -/
lemma shows_operator (hX : X.Lawful ε) {op : Op α μ} (hop : X.IsValid op)
    (hidle : op.idle true = (none : Option (Reaction (Op α μ) α ε))) {signal : Signal α ε}
    {d d' : Due α} (hshows : d.Shows signal d') (hend : signal ≠ .finish) :
    ∃ r : Reaction (Op α μ) α ε, op.react signal = r ∧ r.keepsInput = true ∧ X.IsValid r.state ∧
      (X.held op + d.through (X.image op)).Shows r.shows
        (X.held r.state + d'.through (X.image r.state)) := by
  have hheld : (X.held op).items = 0 := hX.idle_none hop hidle
  cases signal with
  | item a =>
    obtain ⟨hitems, hwork⟩ := hshows
    obtain ⟨hkeeps, hvalid, himage, hr, hne⟩ := hX.item a hop hidle
    obtain ⟨hthrough, hless⟩ := Due.through_cons (f := X.image op) hitems hwork
    refine ⟨_, rfl, hkeeps, hvalid, ?_⟩
    have hadd := hr.add (e := d'.through (X.image op)) fun heq => absurd heq hne
    have himage' : X.image (op.react (.item a : Signal α ε)).state = X.image op := himage
    rw [himage']
    refine hadd.of_le ?_ ?_
    · simp only [Due.add_items, Due.tick_items, hthrough, add_assoc, zero_add]
    · simp only [Due.add_work, Due.tick_work]
      omega
  | again =>
    obtain ⟨hitems, hwork⟩ := hshows
    have hreact : op.react (.again : Signal α ε) = .keep op .again := hX.again op hop
    refine ⟨_, hreact, rfl, hop, ?_, ?_⟩
    · simp only [Reaction.keep, Due.add_items, Due.through, hitems]
    · simp only [Reaction.keep, Due.add_work, Due.through, hitems]
      omega
  | finish => exact absurd rfl hend
  | fail e => exact hshows.elim
  | pending => exact hshows.elim

/-- What an operator shows, once its input has ended, it shows with nothing due. -/
lemma due_operator_of_finish (hX : X.Lawful ε) {op : Op α μ} (hop : X.IsValid op)
    (hidle : op.idle true = (none : Option (Reaction (Op α μ) α ε))) {d : Due α}
    (hd : d.items = 0) : (X.held op + d.through (X.image op)).items = 0 := by
  have hheld : (X.held op).items = 0 := hX.idle_none hop hidle
  rw [Due.add_items, hheld, Due.through, hd, zero_add, Multiset.zero_bind]

lemma stepsWell_operator (hX : X.Lawful ε) (hleave : LeavesWell X leave n) {op : Op α μ}
    {input : Stage α μ} (ih : StepsWell X read leave w n input) :
    StepsWell X read leave w n (.operator op input) := by
  rintro p Φ hS hown ⟨hop, hinput⟩
  cases hidle : (op.idle true : Option (Reaction (Op α μ) α ε)) with
  | some r =>
    -- The operator shows what it holds.
    obtain ⟨hkeeps, hvalid, himage, hshows, hne⟩ := hX.idle_some hop hidle
    simp only [stepWith, hidle, settleWith, hkeeps, if_true, Plant.supply_noteCall]
    refine ⟨Φ, (Supply.Leads.refl hS).mono (List.nil_subset _), .refl _, hown.present,
      ⟨hvalid, hinput⟩, ?_⟩
    rw [due, due, himage]
    exact hshows.add fun heq => absurd heq hne
  | none =>
    obtain ⟨Φ', hmoves⟩ := ih p Φ hS hown hinput
    simp only [stepWith, hidle]
    generalize stepWith read leave w p input = after at hmoves ⊢
    obtain ⟨signal, input', p'⟩ := after
    dsimp only at hmoves ⊢
    by_cases hend : signal = .finish
    · -- The input has ended: the operator lets go of it and ends.
      subst hend
      have hd : (input.due X Φ).items = 0 := hmoves.shows
      have hreact : op.react (.finish : Signal α ε) = .close op .finish := hX.finish op hop
      have hreleased := releasesWell hleave input' (p'.noteCall op fun l =>
        (l.notePulled (.finish : Signal α ε)).noteShown (.finish : Signal α ε)) Φ'
      rw [Plant.supply_noteCall] at hreleased
      have hleads := hmoves.leads.trans (hreleased hmoves.leads.sound (hmoves.owns hown))
      simp only [hreact, settleWith, Reaction.close, Bool.false_eq_true, if_false]
      refine ⟨Φ', hleads.mono ?_, List.nil_sublist _, List.forall_mem_nil _, hop, ?_⟩
      · exact List.append_subset.2 ⟨List.Subset.refl _, hmoves.leaves.subset⟩
      · rw [due]
        exact due_operator_of_finish hX hop hidle hd
    · obtain ⟨r, hr, hkeeps, hvalid, hshows⟩ := shows_operator hX hop hidle hmoves.shows hend
      simp only [hr, settleWith, hkeeps, if_true, Plant.supply_noteCall]
      exact ⟨Φ', hmoves.leads, hmoves.leaves, hmoves.present, ⟨hvalid, hmoves.valid⟩, hshows⟩

lemma stepsWell_drained (hX : X.Lawful ε) (op : Op α μ) :
    StepsWell X read leave w n (.drained op) := by
  intro p Φ hS hown hop
  cases hidle : (op.idle false : Option (Reaction (Op α μ) α ε)) with
  | some r =>
    obtain ⟨-, hvalid, -, hshows, -⟩ := hX.idle_some hop hidle
    simp only [stepWith, hidle, Plant.supply_noteCall]
    exact ⟨Φ, Supply.Leads.refl hS, .refl _, hown.present, hvalid, hshows⟩
  | none =>
    simp only [stepWith, hidle]
    exact ⟨Φ, Supply.Leads.refl hS, .refl _, hown.present, hop, hX.idle_none hop hidle⟩

/-! ### Unions -/

lemma stepsWell_union (hleave : LeavesWell X leave n) {inputs : List (Stage α μ)} {round : Round}
    (ih : ∀ s ∈ inputs, StepsWell X read leave w n s) :
    StepsWell X read leave w n (.union inputs round) := by
  rintro p Φ hS hown ⟨hround, hvalids⟩
  by_cases hempty : inputs = []
  · subst hempty
    exact ⟨Φ, (Supply.Leads.refl hS).mono (List.nil_subset _), .refl _, hown.present,
      ⟨hround, hvalids⟩, rfl⟩
  · obtain ⟨before, s, after, rfl, hturn⟩ := exists_asked round hempty
    obtain ⟨hvalid, hothers⟩ := areValid_middle.1 hvalids
    have hown' := hown.perm (leavesOf_middle before after s)
    obtain ⟨Φ', hmoves⟩ := ih s (by simp) p Φ hS
      (hown'.sublist (List.sublist_append_left _ _)) hvalid
    have hcount : (before ++ s :: after).length = (before ++ after).length + 1 := by
      simp only [List.length_append, List.length_cons]
      omega
    rcases hs : stepWith read leave w p s with ⟨signal, s', p'⟩
    rw [hs] at hmoves
    rw [stepWith_union hturn hs]
    dsimp only at hmoves ⊢
    have hcount' : (before ++ s' :: after).length = (before ++ s :: after).length := by
      simp only [List.length_append, List.length_cons]
    cases signal with
    | item a =>
      simp only [Round.react, settleUnion]
      exact ⟨Φ', moves_union_keep hmoves hown' hothers le_rfl (by simp)⟩
    | again =>
      simp only [Round.react, settleUnion]
      refine ⟨Φ', moves_union_keep hmoves hown' hothers ?_ (by simp)⟩
      rw [hcount']
      exact hround
    | finish =>
      have hd : (s.due X Φ).items = 0 := hmoves.shows
      simp only [Round.react]
      by_cases hone : (before ++ s :: after).length ≤ 1
      · have hnil : before ++ after = [] := List.length_eq_zero_iff.1 (by omega)
        simp only [if_pos hone, settleUnion]
        exact ⟨Φ', moves_union_drop hmoves hown' hleave rfl hothers le_rfl hd (.inr ⟨rfl, hnil⟩)⟩
      · -- The others have not had their turn yet, so the union does not wait.
        have hleft : ¬ round.remaining (before ++ s :: after).length ≤ 1 := by omega
        simp only [if_neg hone, Round.nextTurn, if_neg hleft, settleUnion]
        refine ⟨Φ', moves_union_drop hmoves hown' hleave rfl hothers ?_ hd (.inl rfl)⟩
        rw [Round.remaining, Option.getD_some]
        omega
    | fail e => exact hmoves.shows.elim
    | pending => exact hmoves.shows.elim

theorem stepsWell (hX : X.Lawful ε) (hread : ReadsWell X read n) (hleave : LeavesWell X leave n)
    (s : Stage α μ) : StepsWell X read leave w n s := by
  induction s using Stage.induction with
  | source id => exact stepsWell_source id
  | branch k slot => exact fun p Φ hS hown _ => hread p Φ k slot hS hown
  | operator op input ih => exact stepsWell_operator hX hleave ih
  | drained op => exact stepsWell_drained hX op
  | union inputs round ih => exact stepsWell_union hleave ih

end Step

end Stage

/-! ## Hubs -/

namespace Plant

open Stage

/-- A branch that leaves touches nothing but itself and what is below its hub. -/
theorem leavesWell {depth : Nat} (hn : n ≤ depth) :
    LeavesWell X (leave depth : Plant α ε μ → Nat → Nat → Plant α ε μ) n := by
  induction depth generalizing n with
  | zero =>
    intro p Φ k slot _ hown
    have hk : k < n := hown.below _ List.mem_cons_self
    omega
  | succ depth ih =>
    intro p Φ k slot hS hown
    have hk : k < n := hown.below _ List.mem_cons_self
    obtain ⟨h, position, hh, hp⟩ := hown.present _ List.mem_cons_self
    have hhub := hS.hubs k h hk hh
    have hinputs := hS.owns_inputs hown hh
    have hlow := hS.mono hk.le
    have hpos : ∀ i, i ≠ slot → ((h.drop slot).forgetOthers slot).position? i = h.position? i := by
      intro i hi
      rw [Hub.forgetOthers_position?, Hub.drop_position?, if_neg hi]
    have hself : ((h.drop slot).forgetOthers slot).position? slot = none := by
      rw [Hub.forgetOthers_position?, Hub.drop_position?, if_pos rfl]
    have hb : ((h.drop slot).forgetOthers slot).InBounds := Hub.drop_inBounds hhub.inBounds
    have hset := hlow.setHub slot ((h.drop slot).forgetOthers slot) (Φ (.branch k slot))
    suffices hleads : Supply.Leads X n p.supply (p.leave (depth + 1) k slot).supply Φ
        (Function.update Φ (.branch k slot) (Φ (.branch k slot))) [.branch k slot] by
      rwa [Function.update_eq_self] at hleads
    by_cases hin : (h.drop slot).input = h.input
    · rw [leave_of_keeps hh hin, supply_wake, supply_setHub]
      have hin' : ((h.drop slot).forgetOthers slot).input = h.input := hin
      refine Supply.Leads.through_hub ((h.drop slot).forgetOthers slot) hS hown hh
        ((Supply.Leads.refl hlow).mono (List.nil_subset _))
        ((Supply.Leads.refl hset).mono (List.nil_subset _)) hpos
        (by rw [Hub.inputLeaves_of_input hin']) ?_
      refine Supply.hubSound_update hb (fun below hbelow => hhub.valid below (hin' ▸ hbelow)) ?_
        ?_ (fun position hposition => ?_)
      · rw [Hub.inputLeaves_of_input hin']
        exact fun l hl => ⟨hinputs.below l hl, (hinputs.setHub _).present l hl⟩
      · intro i q hi hq
        rw [Hub.inputDue_of_input hin', Hub.forgetOthers_unread,
          Hub.drop_unread hhub.inBounds hq]
        exact hhub.due i q (by rwa [hpos i hi] at hq)
      · rw [hself] at hposition
        cases hposition
    · obtain ⟨hnone, hdead⟩ := (Hub.drop_input_cases h slot).resolve_left hin
      cases hbelow : h.input with
      | none => exact absurd (hnone.trans hbelow.symm) hin
      | some below =>
        have hleaves : h.inputLeaves = below.leaves := by
          rw [Hub.inputLeaves, hbelow]
          rfl
        have hin' : ((h.drop slot).forgetOthers slot).inputLeaves = [] := by
          rw [Hub.inputLeaves, Hub.forgetOthers_input, hnone]
          rfl
        rw [leave_of_last hh hbelow hnone, supply_wake]
        have hreleased := releasesWell (ih (Nat.lt_succ_iff.1 (hk.trans_le hn))) below
          (p.setHub k ((h.drop slot).forgetOthers slot)) _ hset
          (by rw [← hleaves]; exact hinputs.setHub _)
        rw [supply_setHub, ← hleaves] at hreleased
        refine Supply.Leads.through_hub ((h.drop slot).forgetOthers slot) hS hown hh
          ((Supply.Leads.refl hlow).mono (List.nil_subset _)) hreleased hpos
          (by rw [hin']; exact List.nil_sublist _) ?_
        refine Supply.hubSound_update hb (fun below hbelow => ?_) ?_ (fun i q _ hq => ?_)
          (fun q hq => ?_)
        · rw [Hub.forgetOthers_input, hnone] at hbelow
          cases hbelow
        · rw [hin']
          exact List.forall_mem_nil _
        · rw [Hub.forgetOthers_position?, hdead] at hq
          cases hq
        · rw [Hub.forgetOthers_position?, hdead] at hq
          cases hq

section Read

variable {S S₁ : Supply α ε μ} {Φ Φ₁ : Leaf → Due α} {k slot position position' : Nat}
  {h h' : Hub α (Stage α μ)} {below below' : Stage α μ} {signal : Signal α ε}

/-- The stage below a hub has been asked for a branch that has read the whole buffer.  The hub
keeps the stage and passes the signal on. -/
lemma moves_through_hub (hS : S.Sound X Φ n) (hown : S.Owns n [.branch k slot])
    (hh : S.hubs[k]? = some h) (hp : h.position? slot = some position)
    (hread : h.unread position = []) (hin : h.input = some below)
    (hmoves : Moves X k S S₁ Φ Φ₁ below below' signal) (h' : Hub α (Stage α μ)) (position' : Nat)
    (hb : h'.InBounds)
    (hin' : h'.input = some below') (hpos : ∀ i, i ≠ slot → h'.position? i = h.position? i)
    (hself : h'.position? slot = some position') (hread' : h'.unread position' = [])
    (hothers : ∀ i q, i ≠ slot → h.position? i = some q →
      (↑(h'.unread q) : Multiset α) + (below'.due X Φ₁).items =
          ↑(h.unread q) + (below.due X Φ).items ∧
        (h'.unread q).length + (below'.due X Φ₁).work ≤
          (h.unread q).length + (below.due X Φ).work) :
    Moves X n S (S₁.setHub k h') Φ (Function.update Φ₁ (.branch k slot) (below'.due X Φ₁))
      (.branch k slot) (.branch k slot) signal := by
  have hk : k < n := hown.below _ List.mem_cons_self
  have hhub := hS.hubs k h hk hh
  have hinputs := hS.owns_inputs hown hh
  have hleaves : h.inputLeaves = below.leaves := by
    rw [Hub.inputLeaves, hin]
    rfl
  have hleaves' : h'.inputLeaves = below'.leaves := by
    rw [Hub.inputLeaves, hin']
    rfl
  have hdue : h.inputDue X Φ = below.due X Φ := by
    rw [Hub.inputDue, hin]
    rfl
  have hdue' : h'.inputDue X Φ₁ = below'.due X Φ₁ := by
    rw [Hub.inputDue, hin']
    rfl
  have hbranch : ∀ i, Φ₁ (.branch k i) = Φ (.branch k i) := by
    intro i
    refine hmoves.leads.due _ ?_ fun hmem => Leaf.not_below_branch ((hS.mono hk.le).below hmem)
    rw [← hleaves]
    exact fun hmem => Leaf.not_below_branch (hinputs.below _ hmem)
  have hsub : h'.inputLeaves.Sublist h.inputLeaves := by
    rw [hleaves, hleaves']
    exact hmoves.leaves
  have hh₁ : S₁.hubs[k]? = some h := by rw [hmoves.leads.beyond k le_rfl, hh]
  refine ⟨Supply.Leads.through_hub _ hS hown hh ?_ ((Supply.Leads.refl ?_).mono (List.nil_subset _))
    hpos hsub ?_, .refl _, List.forall_mem_singleton.2 ?_, trivial, ?_⟩
  · rw [hleaves]
    exact hmoves.leads
  · exact hmoves.leads.sound.setHub _ _ _
  · refine Supply.hubSound_update hb (fun s hs => ?_) (fun l hl => ?_) (fun i q hi hq => ?_)
      (fun q hq => ?_)
    · obtain rfl := Option.some.inj (hin'.symm.trans hs)
      exact hmoves.valid
    · have hbelow := hinputs.below l (hsub.subset hl)
      rw [hleaves'] at hl
      exact ⟨hbelow, Supply.present_setHub_of_below hbelow (hmoves.present l hl)⟩
    · rw [hpos i hi] at hq
      obtain ⟨hitems, hwork⟩ := hhub.due i q hq
      obtain ⟨hitems', hwork'⟩ := hothers i q hi hq
      rw [hbranch, hdue', hitems, hitems', hdue]
      rw [hdue] at hwork
      exact ⟨rfl, hwork'.trans hwork⟩
    · obtain rfl := Option.some.inj (hself.symm.trans hq)
      rw [hread', hdue']
      simp
  · exact ⟨h', position', Supply.getElem?_setHub_self hh₁, hself⟩
  · obtain ⟨hitems, hwork⟩ := hhub.due slot position hp
    rw [hread, hdue] at hitems hwork
    rw [due, due, Function.update_self]
    refine hmoves.shows.of_le ?_ ?_
    · rw [hitems, Multiset.coe_nil, zero_add]
    · simpa using hwork

/-- A branch takes an item from the buffer. -/
lemma moves_buffered {a : α} (hS : S.Sound X Φ n) (hown : S.Owns n [.branch k slot])
    (hh : S.hubs[k]? = some h) (hp : h.position? slot = some position)
    (ha : h.itemAt? position = some a) :
    ∃ Φ', Moves X n S (S.setHub k (h.advance slot position)) Φ Φ' (.branch k slot)
      (.branch k slot) (.item a : Signal α ε) := by
  have hk : k < n := hown.below _ List.mem_cons_self
  have hhub := hS.hubs k h hk hh
  have hinputs := hS.owns_inputs hown hh
  have hlow := hS.mono hk.le
  have hle := (hhub.inBounds.of_position? hp).1
  have hlt := Hub.lt_of_itemAt?_eq_some hle ha
  have hin := Hub.advance_input hp
  have hpos := Hub.advance_position? hp
  have hself : (h.advance slot position).position? slot = some (position + 1) := by
    rw [hpos, if_pos rfl]
  obtain ⟨hitems, hwork⟩ := hhub.due slot position hp
  rw [Hub.unread_eq_cons hle ha] at hitems hwork
  let d : Due α := ⟨(h.unread (position + 1) : Multiset α) + (h.inputDue X Φ).items,
    (h.unread (position + 1)).length + (h.inputDue X Φ).work⟩
  refine ⟨Function.update Φ (.branch k slot) d, Supply.Leads.through_hub _ hS hown hh
    ((Supply.Leads.refl hlow).mono (List.nil_subset _))
    ((Supply.Leads.refl (hlow.setHub _ _ _)).mono (List.nil_subset _)) (fun i hi => ?_) ?_ ?_,
    .refl _, List.forall_mem_singleton.2 ⟨_, _, Supply.getElem?_setHub_self hh, hself⟩, trivial, ?_⟩
  · rw [hpos, if_neg hi]
  · rw [Hub.inputLeaves_of_input hin]
  · refine Supply.hubSound_update (Hub.advance_inBounds hhub.inBounds hp hlt)
      (fun below hbelow => hhub.valid below (hin ▸ hbelow)) (fun l hl => ?_)
      (fun i q hi hq => ?_) (fun q hq => ?_)
    · rw [Hub.inputLeaves_of_input hin] at hl
      exact ⟨hinputs.below l hl, (hinputs.setHub _).present l hl⟩
    · rw [Hub.advance_unread hhub.inBounds hp hlt hq, Hub.inputDue_of_input hin]
      rw [hpos, if_neg hi] at hq
      exact hhub.due i q hq
    · rw [Hub.advance_unread hhub.inBounds hp hlt hq, Hub.inputDue_of_input hin]
      obtain rfl := Option.some.inj (hself.symm.trans hq)
      exact ⟨rfl, le_rfl⟩
  · rw [due, due, Function.update_self]
    refine ⟨?_, ?_⟩
    · rw [hitems, ← Multiset.cons_coe, Multiset.cons_add]
    · rw [List.length_cons] at hwork
      dsimp only [d]
      omega

/-- The stage below a hub has ended.  The hub lets go of it, and the branch that asked ends. -/
lemma moves_ended {depth : Nat} {p' : Plant α ε μ} (hdepth : k ≤ depth) (hS : S.Sound X Φ n)
    (hown : S.Owns n [.branch k slot]) (hh : S.hubs[k]? = some h)
    (hp : h.position? slot = some position) (hread : h.unread position = [])
    (hin : h.input = some below)
    (hmoves : Moves X k S p'.supply Φ Φ₁ below below' (.finish : Signal α ε)) :
    ∃ Φ', Moves X n S (read.endHub depth p' k h below' slot).supply Φ Φ' (.branch k slot)
      (.branch k slot) (.finish : Signal α ε) := by
  have hk : k < n := hown.below _ List.mem_cons_self
  have hhub := hS.hubs k h hk hh
  have hinputs := hS.owns_inputs hown hh
  have hleaves : h.inputLeaves = below.leaves := by
    rw [Hub.inputLeaves, hin]
    rfl
  have hdue : h.inputDue X Φ = below.due X Φ := by
    rw [Hub.inputDue, hin]
    rfl
  have hnone : (below.due X Φ).items = 0 := hmoves.shows
  rw [hleaves] at hinputs
  have hbranch : ∀ i, Φ₁ (.branch k i) = Φ (.branch k i) := by
    intro i
    exact hmoves.leads.due _ (fun hmem => Leaf.not_below_branch (hinputs.below _ hmem))
      fun hmem => Leaf.not_below_branch ((hS.mono hk.le).below hmem)
  have hh₁ : p'.supply.hubs[k]? = some h := by rw [hmoves.leads.beyond k le_rfl, hh]
  have hreleased := releasesWell (leavesWell hdepth) below' (p'.setHub k (h.ended slot)) _
    (hmoves.leads.sound.setHub slot _ (Φ₁ (.branch k slot))) ((hmoves.owns hinputs).setHub _)
  rw [supply_setHub] at hreleased
  have hh' : (below'.releaseWith (leave depth) (p'.setHub k (h.ended slot))).supply.hubs[k]? =
      some (h.ended slot) := by
    rw [hreleased.beyond k le_rfl, Supply.getElem?_setHub_self hh₁]
  -- The stage below has ended, so that only what is buffered was due from any branch.
  have hleft : ∀ i q, h.position? i = some q →
      (Φ₁ (.branch k i)).items = ↑((h.ended slot).unread q) + 0 ∧
        ((h.ended slot).unread q).length + 0 ≤ (Φ₁ (.branch k i)).work := by
    intro i q hq
    obtain ⟨hitems, hwork⟩ := hhub.due i q hq
    rw [hbranch, hitems, hdue, hnone]
    exact ⟨rfl, (Nat.le_add_right _ _).trans hwork⟩
  rw [endHub_eq, supply_wake]
  refine ⟨_, Supply.Leads.through_hub _ hS hown hh (by rw [hleaves]; exact hmoves.leads)
    (hreleased.mono (by rw [hleaves]; exact hmoves.leaves.subset)) (fun _ _ => rfl)
    (List.nil_sublist _) ?_, .refl _,
    List.forall_mem_singleton.2 ⟨h.ended slot, position, hh', hp⟩, trivial, ?_⟩
  · exact Supply.hubSound_update hhub.inBounds (fun _ hin => by cases hin)
      (List.forall_mem_nil _) (fun i q _ hq => hleft i q hq) (fun q hq => hleft slot q hq)
  · rw [due, Due.Shows, (hhub.due slot position hp).1, hread, hdue, hnone]
    rfl

end Read

variable [Operator μ α α ε] {w : Waker}

/-- A branch that reads shows what is due from it. -/
theorem readsWell (hX : X.Lawful ε) {depth : Nat} (hn : n ≤ depth) :
    ReadsWell X (read w depth : Plant α ε μ → Nat → Nat → Signal α ε × Plant α ε μ) n := by
  induction depth generalizing n with
  | zero =>
    -- No hub is below level zero, so that no branch can be read.
    intro p Φ k slot _ hown
    have hk : k < n := hown.below _ List.mem_cons_self
    omega
  | succ depth ih =>
    intro p Φ k slot hS hown
    have hk : k < n := hown.below _ List.mem_cons_self
    have hdepth : k ≤ depth := Nat.lt_succ_iff.1 (hk.trans_le hn)
    obtain ⟨h, position, hh, hp⟩ := hown.present _ List.mem_cons_self
    have hhub := hS.hubs k h hk hh
    cases ha : h.itemAt? position with
    | some a =>
      rw [read_buffered hh hp ha]
      exact moves_buffered hS hown hh hp ha
    | none =>
      have hread := Hub.unread_of_itemAt?_eq_none ha
      have hend := Hub.itemAt?_eq_none hhub.inBounds hp ha
      cases hin : h.input with
      | none =>
        rw [read_gone hh hp ha hin]
        refine ⟨Φ, (Supply.Leads.refl hS).mono (List.nil_subset _), .refl _, hown.present, trivial,
          ?_⟩
        rw [due, Due.Shows, (hhub.due slot position hp).1, hread, Hub.inputDue, hin]
        rfl
      | some below =>
        have hinputs := hS.owns_inputs hown hh
        rw [Hub.inputLeaves, hin] at hinputs
        obtain ⟨Φ₁, hmoves⟩ := stepsWell (w := w) hX (ih hdepth) (leavesWell hdepth) below p Φ
          (hS.mono hk.le) hinputs (hhub.valid below hin)
        rcases hs : below.stepWith (read w depth) (leave depth) w p with ⟨signal, below', p'⟩
        rw [hs] at hmoves
        dsimp only at hmoves
        cases signal with
        | again =>
          obtain ⟨hsame, hless⟩ := hmoves.shows
          rw [read_again hh hp ha hin hs]
          refine ⟨_, moves_through_hub hS hown hh hp hread hin hmoves
            { h with input := some below' } position hhub.inBounds rfl (fun _ _ => rfl) hp hread
            fun i q _ _ => ⟨?_, ?_⟩⟩
          · rw [hsame]
            rfl
          · exact Nat.add_le_add_left hless.le _
        | item a =>
          obtain ⟨hcons, hless⟩ := hmoves.shows
          have hpos := Hub.deliver_position? (h := { h with input := some below' }) (a := a) hp
          rw [read_item hh hp ha hin hs]
          refine ⟨_, moves_through_hub hS hown hh hp hread hin hmoves
            ((Hub.deliver { h with input := some below' } slot position a).forgetOthers slot)
            (position + 1)
            (Hub.deliver_inBounds (h := { h with input := some below' }) hhub.inBounds hp hend)
            (Hub.deliver_input (h := { h with input := some below' }) hp) (fun i hi => ?_) ?_
            (Hub.deliver_unread_self (h := { h with input := some below' }) hhub.inBounds hp hend)
            fun i q hi hq => ?_⟩
          · rw [Hub.forgetOthers_position?, hpos, if_neg hi]
            rfl
          · rw [Hub.forgetOthers_position?, hpos, if_pos rfl]
          · -- The item is buffered for the other branches.
            rw [Hub.forgetOthers_unread, Hub.deliver_unread_other
              (h := { h with input := some below' }) hhub.inBounds hp hend hq hi]
            refine ⟨?_, ?_⟩
            · rw [hcons, ← Multiset.coe_add, add_assoc, Multiset.coe_singleton,
                Multiset.singleton_add]
              rfl
            · rw [List.length_append, List.length_singleton]
              have hsame : (Hub.unread { h with input := some below' } q).length =
                (h.unread q).length := rfl
              omega
        | finish =>
          rw [read_finish hh hp ha hin hs]
          exact moves_ended hdepth hS hown hh hp hread hin hmoves
        | fail e => exact hmoves.shows.elim
        | pending => exact hmoves.shows.elim

end Plant

end SparqlStream
