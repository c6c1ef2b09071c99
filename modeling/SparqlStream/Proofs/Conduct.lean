import Mathlib.Tactic
import SparqlStream.Proofs.Asking

/-!
# Stages that keep the rules

A stage keeps the rules if it shows nothing after its first error or end, and if it shows the error
of a matcher in the very step in which the matcher shows it.  `Stage.Obeys` is the invariant: the
operators keep their contract over what they know of their inputs, and a stage that has ended has
nothing left to show.  It is kept by every change that only lets the plant get older, since nothing
comes from a leaf that is exhausted.

`Plant.Asks.conduct` carries the invariant through a step by induction on the rules of asking, with
a lemma for each of them.  An error is only met in the stage that is asked: an operator passes it
on by its contract, a union and a hub pass it on as it is.
-/

namespace SparqlStream

variable {α ε μ : Type} [Operator μ α α ε]

open Operator (Keeps contract_keeps held)

/-! ## The invariant -/

namespace Stage

mutual

/-- A stage keeps the rules, and has ended if `ended` says so. -/
def Obeys (S : Supply α ε μ) : Stage α μ → Bool → Prop
  | source id, ended => ended = true → S.Exhausted (.source id)
  | branch k slot, ended => ended = true → S.Exhausted (.branch k slot)
  | operator op input, ended =>
    ∃ inputEnded, Keeps α ε (some inputEnded) ended op ∧ Obeys S input inputEnded
  | drained op, ended =>
    op.idle false = (none : Option (Reaction (Op α μ) α ε)) ∨ Keeps α ε none ended op
  | union inputs _, ended => ObeyAll S inputs ∧ (ended = true → inputs = [])

/-- Some stages keep the rules, and none of them has ended. -/
def ObeyAll (S : Supply α ε μ) : List (Stage α μ) → Prop
  | [] => True
  | s :: rest => Obeys S s false ∧ ObeyAll S rest

end

variable {S S' : Supply α ε μ}

lemma obeyAll_iff {l : List (Stage α μ)} : ObeyAll S l ↔ ∀ s ∈ l, s.Obeys S false := by
  induction l with
  | nil => simp [ObeyAll]
  | cons s rest ih => rw [ObeyAll, ih, List.forall_mem_cons]

/-- A stage keeps to the rules while the plant gets older. -/
lemma Obeys.mono (hages : S.Ages S') {s : Stage α μ} {ended : Bool} (hs : s.Obeys S ended) :
    s.Obeys S' ended := by
  induction s using Stage.induction generalizing ended with
  | source id => exact fun hended => hages.exhausted _ (hs hended)
  | branch k slot => exact fun hended => hages.exhausted _ (hs hended)
  | operator op input ih =>
    obtain ⟨inputEnded, hop, hinput⟩ := hs
    exact ⟨inputEnded, hop, ih hinput⟩
  | drained op => exact hs
  | union inputs round ih =>
    obtain ⟨hall, hended⟩ := hs
    rw [obeyAll_iff] at hall
    exact ⟨obeyAll_iff.2 fun s hs => ih s hs (hall s hs), hended⟩

end Stage

namespace Plant

/-- The first error that a matcher has shown. -/
def failure (p : Plant α ε μ) (k : Nat) : Option ε := p.calls[k]?.bind (·.failure)

/-- The stages below the hubs keep the rules, and no source fails. -/
structure Obedient (p : Plant α ε μ) : Prop where
  inputs : ∀ (k : Nat) (h : Hub α (Stage α μ)) (below : Stage α μ), p.hubs[k]? = some h →
    h.input = some below → below.Obeys p.supply false
  sources : ∀ (id : Nat) (s : Source α ε), p.sources[id]? = some s → ∀ e, .fail e ∉ s.cells

variable {p p' p₁ p₂ : Plant α ε μ} {s s' input input' below below' : Stage α μ} {w : Waker}
  {signal : Signal α ε} {n k slot position : Nat} {h h' : Hub α (Stage α μ)}

/-! ## Changes -/

section Failure

omit [Operator μ α α ε]

/-- Noting something changes the log of one matcher at most. -/
lemma failure_noteCall_cases (p : Plant α ε μ) (op : Op α μ) (f : CallLog ε → CallLog ε) (k : Nat) :
    (p.noteCall op f).failure k = p.failure k ∨ ∃ l, p.failure k = CallLog.failure l ∧
      (p.noteCall op f).failure k = (f l).failure := by
  cases op with
  | matcher i m =>
    have hget : (p.noteCall (.matcher i m) f).calls[k]? =
        (fun l => if i = k then f l else l) <$> p.calls[k]? := List.getElem?_modify ..
    rw [failure, failure, hget]
    cases p.calls[k]? with
    | none => exact .inl rfl
    | some l =>
      by_cases hi : i = k
      · exact .inr ⟨l, rfl, by simp [hi]⟩
      · exact .inl (by simp [hi])
  | filter f => exact .inl rfl
  | distinct d => exact .inl rfl
  | slice s => exact .inl rfl
  | sort s => exact .inl rfl

lemma failure_noteCall {op : Op α μ} {f : CallLog ε → CallLog ε}
    (hf : ∀ l, (f l).failure = l.failure) (k : Nat) :
    (p.noteCall op f).failure k = p.failure k := by
  rcases failure_noteCall_cases p op f k with hsame | ⟨l, hbefore, hafter⟩
  · exact hsame
  · rw [hafter, hf, hbefore]

/-- Nobody fails when a stage is let go of. -/
lemma Releases.failure (hrel : Releases p s p') (k : Nat) : p'.failure k = p.failure k := by
  induction hrel with
  | source _ => rfl
  | absent _ => rfl
  | stays _ _ => rfl
  | last _ _ _ _ ih => exact ih
  | operator _ ih =>
    exact ih.trans (failure_noteCall (f := fun l => { l with isLive := false }) (fun _ => rfl) k)
  | drained => exact failure_noteCall (f := fun l => { l with isLive := false }) (fun _ => rfl) k
  | nobody => rfl
  | next _ _ ihfirst ihrest => rw [ihrest, ihfirst]

/-- An error that is noted was noted before, or the operator is the one that shows it. -/
lemma failure_noteShown {op : Op α μ} {f : CallLog ε → CallLog ε} {shown : Signal α ε} {e : ε}
    (hf : ∀ l, (f l).failure = l.failure)
    (hafter : (p.noteCall op fun l => (f l).noteShown shown).failure k = some e) :
    p.failure k = some e ∨ shown = .fail e := by
  rcases failure_noteCall_cases p op (fun l => (f l).noteShown shown) k with
    hsame | ⟨l, hlog, hnoted⟩
  · exact .inl (hsame.symm.trans hafter)
  · have hshown : ((f l).noteShown shown).failure = some e := hnoted.symm.trans hafter
    rw [hlog, ← hf l]
    cases shown with
    | fail e' =>
      have hor : (f l).failure.or (some e') = some e := hshown
      cases hfirst : (f l).failure with
      | none =>
        rw [hfirst] at hor
        exact .inr (congrArg _ (Option.some.inj hor))
      | some e₀ =>
        rw [hfirst] at hor
        exact .inl hor
    | item a => exact .inl hshown
    | finish => exact .inl hshown
    | pending => exact .inl hshown
    | again => exact .inl hshown

end Failure

lemma obedient_noteCall {op : Op α μ} {f : CallLog ε → CallLog ε} (hp : p.Obedient) :
    (p.noteCall op f).Obedient := by
  cases op <;> exact ⟨hp.inputs, hp.sources⟩

lemma Obedient.wake (hp : p.Obedient) (ws : List Waker) : (p.wake ws).Obedient :=
  ⟨hp.inputs, hp.sources⟩

lemma Obedient.setSource {id : Nat} {s s' : Source α ε} (hp : p.Obedient)
    (hages : p.supply.Ages (p.supply.setSource id s')) (hs : p.sources[id]? = some s)
    (hcells : ∀ c ∈ s'.cells, c ∈ s.cells) : (p.setSource id s').Obedient where
  inputs k h below hh hin := (hp.inputs k h below hh hin).mono hages
  sources i t ht e he := by
    by_cases hi : id = i
    · subst hi
      obtain rfl := Option.some.inj
        ((Supply.getElem?_setSource_self (S := p.supply) hs).symm.trans ht)
      exact hp.sources id s hs e (hcells _ he)
    · exact hp.sources i t (by rwa [setSource_sources, List.getElem?_set_ne hi] at ht) e he

/-- A hub changes, and the stage below it keeps the rules. -/
lemma Obedient.setHub (hp : p.Obedient) (hh : p.hubs[k]? = some h) (hages : h.Ages h')
    (hin : ∀ below, h'.input = some below → below.Obeys p.supply false) :
    (p.setHub k h').Obedient where
  inputs j hub below hhub hbelow := by
    have hold := Supply.ages_setHub (S := p.supply) hh hages
    by_cases hj : j = k
    · subst hj
      obtain rfl := Option.some.inj
        ((Supply.getElem?_setHub_self (S := p.supply) hh).symm.trans hhub)
      exact (hin below hbelow).mono hold
    · rw [setHub_hubs, List.getElem?_set_ne (Ne.symm hj)] at hhub
      exact (hp.inputs j hub below hhub hbelow).mono hold
  sources := hp.sources

theorem Releases.obedient (hrel : Releases p s p') (hS : p.supply.Layered)
    (hbelow : ∀ l ∈ s.leaves, l.Below n) (hp : p.Obedient) : p'.Obedient := by
  induction hrel generalizing n with
  | source hs =>
    refine hp.setSource (Supply.ages_setSource hs (fun hlive => absurd hlive Bool.false_ne_true)
      fun hcells hclosed => ⟨hcells, hclosed⟩) hs fun _ hc => hc
  | absent _ => exact hp
  | @stays p k slot h hh hin =>
    refine (hp.setHub hh (Hub.ages_drop (hS k h hh).inBounds) fun below hbelow => ?_).wake _
    rw [Hub.forgetOthers_input, hin] at hbelow
    exact hp.inputs k h below hh hbelow
  | @last p p' k slot h below hh hin hnone hrel ih =>
    have horderly := hS k h hh
    refine (ih (n := k) (hS.setHub horderly.drop) (Hub.inputLeaves_of_some hin ▸ horderly.below)
      (hp.setHub hh (Hub.ages_drop horderly.inBounds) fun below hbelow => ?_)).wake _
    rw [Hub.forgetOthers_input, hnone] at hbelow
    cases hbelow
  | operator _ ih => exact ih (by rwa [supply_noteCall]) hbelow (obedient_noteCall hp)
  | drained => exact obedient_noteCall hp
  | nobody => exact hp
  | next hfirst hrest ihfirst ihrest =>
    obtain ⟨hs, hothers⟩ := List.forall_mem_append.1 hbelow
    exact ihrest (hfirst.frame hS hs).layered hothers (ihfirst hS hs hp)

/-! ## Asking -/

/-- A stage that keeps the rules has been asked. -/
structure Conduct (p p' : Plant α ε μ) (s' : Stage α μ) (ended : Bool) (signal : Signal α ε) :
    Prop where
  finish : ended = true → signal = .finish
  stage : s'.Obeys p'.supply (ended || signal.isLast)
  plant : p'.Obedient
  fail : ∀ k e, p.failure k = none → p'.failure k = some e → signal = .fail e

/-- An operator has done something and keeps its input, or lets go of it. -/
lemma Settles.conduct {r : Reaction (Op α μ) α ε} {inputEnded ended : Bool}
    (hset : Settles p r input s' p') (hS : p.supply.Layered)
    (hbelow : ∀ l ∈ input.leaves, l.Below n) (hp : p.Obedient)
    (hop : Keeps α ε (held r.keepsInput inputEnded) ended r.state)
    (hinput : input.Obeys p.supply inputEnded) :
    s'.Obeys p'.supply ended ∧ p'.Obedient ∧ ∀ k, p'.failure k = p.failure k := by
  cases hset with
  | keeps hkeeps =>
    rw [hkeeps] at hop
    exact ⟨⟨inputEnded, hop, hinput⟩, hp, fun _ => rfl⟩
  | closes hkeeps hrel =>
    rw [hkeeps] at hop
    exact ⟨.inr hop, hrel.obedient hS hbelow hp, hrel.failure⟩

/-- A union passes the error of the input that it has asked on, and has ended if it has lost its
last input. -/
lemma Sheds.conduct {before after left : List (Stage α μ)} {round : Round}
    {out : Round.Outcome α ε} (hout : out = round.react (before ++ s :: after).length signal)
    (hshed : Sheds p before s after out.effect left p') (hS : p.supply.Layered)
    (hbelow : ∀ l ∈ Stage.leavesOf (before ++ s :: after), l.Below n) (hp : p.Obedient)
    (hothers : ∀ t ∈ before ++ after, t.Obeys p.supply false)
    (hs : s.Obeys p.supply signal.isLast) :
    (Stage.union left out.round).Obeys p'.supply out.shows.isLast ∧ p'.Obedient ∧
      (∀ k, p'.failure k = p.failure k) ∧ ∀ e, signal = .fail e → out.shows = .fail e := by
  have hages := (hshed.frame hS hbelow).ages
  have hkeeps : out.effect = .keepAll → signal.isLast = false := by
    rintro heffect
    subst hout
    cases signal with
    | fail e => cases heffect
    | finish =>
      simp only [Round.react] at heffect
      split at heffect <;> cases heffect
    | item a => rfl
    | pending => rfl
    | again => rfl
  have hall : ∀ t ∈ left, t.Obeys p.supply false := by
    intro t ht
    generalize heffect : out.effect = effect at hshed hkeeps
    cases hshed with
    | nothing =>
      rw [List.mem_append, List.mem_cons] at ht
      rcases ht with ht | rfl | ht
      · exact hothers t (List.mem_append_left _ ht)
      · exact hkeeps rfl ▸ hs
      · exact hothers t (List.mem_append_right _ ht)
    | asked _ => exact hothers t ht
    | everything _ => cases ht
  have hrest : p'.Obedient ∧ ∀ k, p'.failure k = p.failure k := by
    generalize out.effect = effect at hshed
    cases hshed with
    | nothing => exact ⟨hp, fun _ => rfl⟩
    | asked hrel =>
      rw [Stage.leavesOf_append, Stage.leavesOf] at hbelow
      exact ⟨hrel.obedient hS (fun l hl =>
        hbelow l (List.mem_append_right _ (List.mem_append_left _ hl))) hp, hrel.failure⟩
    | everything hrel => exact ⟨hrel.obedient hS hbelow hp, hrel.failure⟩
  refine ⟨⟨Stage.obeyAll_iff.2 fun t ht => (hall t ht).mono hages,
    fun hended => hshed.left_eq_nil hout hended⟩, hrest.1, hrest.2, ?_⟩
  rintro e rfl
  rw [hout]
  rfl

/-! ### Leaves -/

/-- A source without errors shows nothing more once it is closed and empty, and only then. -/
lemma source_isLast {src : Source α ε} (hquiet : ∀ e, .fail e ∉ src.cells)
    (hlast : (src.step w).1.isLast = true) : src.cells = [] ∧ src.closed = true := by
  cases hcells : src.cells with
  | nil =>
    cases hclosed : src.closed with
    | true => exact ⟨rfl, rfl⟩
    | false =>
      rw [Source.step_open hcells hclosed] at hlast
      cases hlast
  | cons c rest =>
    cases c with
    | fail e => exact absurd (hcells ▸ List.mem_cons_self) (hquiet e)
    | item a =>
      rw [Source.step_item hcells] at hlast
      cases hlast
    | pause =>
      rw [Source.step_pause hcells] at hlast
      cases hlast

/-- A leaf keeps the rules if it ends when it is exhausted, and not before. -/
lemma Conduct.of_leaf {l : Leaf} {ended : Bool}
    (hleaf : ∀ (S : Supply α ε μ) ended, s.Obeys S ended ↔ (ended = true → S.Exhausted l))
    (hs : s.Obeys p.supply ended) (hexhausted : p.supply.Exhausted l → signal = .finish)
    (hlast : signal.isLast = true → p'.supply.Exhausted l) (hages : p.supply.Ages p'.supply)
    (hplant : p'.Obedient)
    (hfail : ∀ k e, p.failure k = none → p'.failure k = some e → signal = .fail e) :
    Conduct p p' s ended signal where
  finish hended := hexhausted ((hleaf _ _).1 hs hended)
  stage := by
    rw [hleaf] at hs ⊢
    intro hor
    rcases (Bool.or_eq_true _ _).mp hor with hended | hend
    · exact hages.exhausted l (hs hended)
    · exact hlast hend
  plant := hplant
  fail := hfail

omit [Operator μ α α ε] in
/-- Nobody fails where nothing is noted. -/
lemma fail_of_eq (hsame : ∀ k, p'.failure k = p.failure k) (k : Nat) (e : ε)
    (hbefore : p.failure k = none) (hafter : p'.failure k = some e) : signal = .fail e := by
  cases hbefore.symm.trans ((hsame k).symm.trans hafter)

/-- Asking a source. -/
lemma conduct_source {id : Nat} {src : Source α ε} {ended : Bool}
    (hsource : p.sources[id]? = some src) (hp : p.Obedient)
    (hages : p.supply.Ages (p.setSource id (src.step w).2).supply)
    (hs : (Stage.source id).Obeys p.supply ended) :
    Conduct p (p.setSource id (src.step w).2) (.source id) ended (src.step w).1 := by
  refine .of_leaf (fun _ _ => Iff.rfl) hs (fun hdone => ?_)
    (fun hlast => hages.exhausted _ fun t ht => ?_) hages
    (hp.setSource hages hsource fun c hc => ?_) (fail_of_eq fun _ => rfl)
  · obtain ⟨hcells, hclosed⟩ := hdone src hsource
    rw [Source.step_closed hcells hclosed]
  · obtain rfl := Option.some.inj (hsource.symm.trans ht)
    exact source_isLast (hp.sources id src hsource) hlast
  · obtain ⟨taken, hcells, -⟩ := src.exists_taken w
    exact hcells ▸ List.mem_append_right taken hc

/-- Asking a branch whose hub holds the next item. -/
lemma conduct_buffered {a : α} {ended : Bool} (hh : p.hubs[k]? = some h) (horderly : h.IsOrderly k)
    (hlive : h.position? slot = some position) (ha : h.itemAt? position = some a)
    (hp : p.Obedient) (hs : (Stage.branch k slot).Obeys p.supply ended) :
    Conduct p (p.setHub k (h.advance slot position)) (.branch k slot) ended (.item a) := by
  have hages := Hub.ages_advance horderly.inBounds hlive ha
  refine .of_leaf (fun _ _ => Iff.rfl) hs (fun hdone => ?_) (fun hlast => by cases hlast)
    (Supply.ages_setHub hh hages) (hp.setHub hh hages fun below hbelow => ?_)
    (fail_of_eq fun _ => rfl)
  · -- There was something left to read.
    have hread := (hdone h hh position hlive).2
    rw [Hub.unread_eq_cons (horderly.inBounds.of_position? hlive).1 ha] at hread
    cases hread
  · rw [Hub.advance_input hlive] at hbelow
    exact hp.inputs k h below hh hbelow

/-- Asking a branch whose hub goes on reading from below. -/
lemma conduct_passes {ws : List Waker} {ended : Bool} (hpull : p.Pulls k slot h position below)
    (horderly : h.IsOrderly k) (hpass : Passes w h below' slot position signal h' ws)
    (hh : p'.hubs[k]? = some h) (hages : p.supply.Ages ((p'.setHub k h').wake ws).supply)
    (hasked : Conduct p p' below' false signal) (hs : (Stage.branch k slot).Obeys p.supply ended) :
    Conduct p ((p'.setHub k h').wake ws) (.branch k slot) ended signal := by
  obtain ⟨hin, -⟩ := hpass.spec horderly.inBounds hpull.live hpull.nothing
  have hgoes : signal.isLast = false := by cases hpass <;> rfl
  refine .of_leaf (fun _ _ => Iff.rfl) hs (fun hdone => ?_)
    (fun hlast => absurd (hgoes.symm.trans hlast) Bool.false_ne_true) hages
    (Obedient.wake (hasked.plant.setHub (h := h) hh ?_ fun t ht => ?_) ws) hasked.fail
  · have hgone := (hdone h hpull.hub position hpull.live).1
    cases hpull.input.symm.trans hgone
  · exact hpass.ages hpull horderly.inBounds
  · obtain rfl := Option.some.inj (hin.symm.trans ht)
    have hstage := hasked.stage
    rwa [hgoes] at hstage

/-- Asking a branch whose hub lets go of the stage below, which has ended or failed. -/
lemma conduct_ended {ended : Bool} (hpull : p.Pulls k slot h position below)
    (hrel : Releases (p₁.setHub k (h.ended slot)) below' p₂)
    (hh : p₁.hubs[k]? = some h) (hlayers : (p₁.setHub k (h.ended slot)).supply.Layered)
    (hleft : ∀ l ∈ below'.leaves, l.Below k)
    (hages : p.supply.Ages (p₂.wake (h.otherWakers slot)).supply)
    (hexhausted : p₂.supply.Exhausted (.branch k slot))
    (hasked : Conduct p p₁ below' false signal) (hs : (Stage.branch k slot).Obeys p.supply ended) :
    Conduct p (p₂.wake (h.otherWakers slot)) (.branch k slot) ended signal := by
  refine .of_leaf (fun _ _ => Iff.rfl) hs (fun hdone => ?_) (fun _ => hexhausted) hages ?_ ?_
  · have hgone := (hdone h hpull.hub position hpull.live).1
    cases hpull.input.symm.trans hgone
  · exact (hrel.obedient hlayers hleft
      (hasked.plant.setHub hh Hub.ages_ended fun _ ht => by cases ht)).wake _
  · intro i e hbefore hafter
    exact hasked.fail i e hbefore ((hrel.failure i).symm.trans hafter)

/-! ### Operators and unions -/

/-- Asking an operator that does something of its own. -/
lemma conduct_own {op : Op α μ} {r : Reaction (Op α μ) α ε} {ended : Bool}
    (hidle : op.idle true = some r)
    (hset : Settles (p.noteCall op (·.noteShown r.shows)) r input s' p')
    (hS : p.supply.Layered) (hbelow : ∀ l ∈ input.leaves, l.Below n) (hp : p.Obedient)
    (hs : (Stage.operator op input).Obeys p.supply ended) : Conduct p p' s' ended r.shows := by
  obtain ⟨inputEnded, hop, hinput⟩ := hs
  obtain ⟨hfinish, hnext⟩ := contract_keeps.own hop hidle
  rw [← supply_noteCall p op (·.noteShown r.shows)] at hS hinput
  obtain ⟨hstage, hplant, hsame⟩ := hset.conduct hS hbelow (obedient_noteCall hp) hnext hinput
  refine ⟨hfinish, hstage, hplant, fun k e hbefore hafter => ?_⟩
  rcases failure_noteShown (f := id) (fun _ => rfl) ((hsame k).symm.trans hafter) with
    hold | hshown
  · cases hbefore.symm.trans hold
  · exact hshown

/-- Asking an operator that reacts to its input. -/
lemma conduct_reacts {op : Op α μ} {inputEnded ended : Bool}
    (hidle : op.idle true = (none : Option (Reaction (Op α μ) α ε)))
    (hop : Keeps α ε (some inputEnded) ended op) (hasked : Conduct p p₁ input' inputEnded signal)
    (hset : Settles (p₁.noteCall op fun l => (l.notePulled signal).noteShown
      (op.react signal).shows) (op.react signal) input' s' p₂)
    (hS : p₁.supply.Layered) (hbelow : ∀ l ∈ input'.leaves, l.Below n) :
    Conduct p p₂ s' ended (op.react signal).shows := by
  obtain ⟨hfinish, hfail, hnext⟩ := contract_keeps.react signal hop hidle hasked.finish
  have hstage := hasked.stage
  rw [← supply_noteCall p₁ op
    fun l => (l.notePulled signal).noteShown (op.react signal).shows] at hS hstage
  obtain ⟨hstage', hplant, hsame⟩ :=
    hset.conduct hS hbelow (obedient_noteCall hasked.plant) hnext hstage
  refine ⟨hfinish, hstage', hplant, fun k e hnone hafter => ?_⟩
  have hnoted : ∀ l : CallLog ε, (l.notePulled signal).failure = l.failure := by
    intro l
    cases signal <;> rfl
  rcases failure_noteShown hnoted ((hsame k).symm.trans hafter) with hlog | hshown
  · -- A matcher below has failed, and the operator passes the error on.
    exact hfail e (hasked.fail k e hnone hlog)
  · exact hshown

/-- Asking an operator that has let go of its input. -/
lemma conduct_drains {op : Op α μ} {r : Reaction (Op α μ) α ε} {ended : Bool}
    (hidle : op.idle false = some r) (hp : p.Obedient)
    (hs : (Stage.drained op).Obeys p.supply ended) :
    Conduct p (p.noteCall op (·.noteShown r.shows)) (.drained r.state) ended r.shows := by
  rcases hs with hnone | hop
  · cases hnone.symm.trans hidle
  · obtain ⟨hfinish, hnext⟩ := contract_keeps.drain hop hidle
    refine ⟨hfinish, .inr hnext, obedient_noteCall hp, fun k e hbefore hafter => ?_⟩
    rcases failure_noteShown (f := id) (fun _ => rfl) hafter with hold | hshown
    · cases hbefore.symm.trans hold
    · exact hshown

/-- Asking a union, which has inputs left and so has not ended. -/
lemma conduct_turn {before after left : List (Stage α μ)} {round : Round}
    {out : Round.Outcome α ε} (hout : out = round.react (before ++ s :: after).length signal)
    (hlength : (before ++ s' :: after).length = (before ++ s :: after).length)
    (hshed : Sheds p₁ before s' after out.effect left p₂) (hS : p₁.supply.Layered)
    (hbelow : ∀ l ∈ Stage.leavesOf (before ++ s' :: after), l.Below n)
    (hages : p.supply.Ages p₁.supply) (hasked : Conduct p p₁ s' false signal)
    (hothers : ∀ t ∈ before ++ after, t.Obeys p.supply false) :
    Conduct p p₂ (.union left out.round) false out.shows := by
  rw [← hlength] at hout
  obtain ⟨hstage, hplant, hsame, hfail⟩ := hshed.conduct hout hS hbelow hasked.plant
    (fun t ht => (hothers t ht).mono hages) hasked.stage
  exact ⟨fun hended => absurd hended Bool.false_ne_true, hstage, hplant,
    fun k e hbefore hafter => hfail e (hasked.fail k e hbefore ((hsame k).symm.trans hafter))⟩

/-! ### Stages -/

/-- Asking a stage that keeps the rules. -/
theorem Asks.conduct (hask : Asks w p s signal s' p') (hS : p.supply.Layered)
    (hbelow : ∀ l ∈ s.leaves, l.Below n) (hp : p.Obedient) {ended : Bool}
    (hs : s.Obeys p.supply ended) : Conduct p p' s' ended signal := by
  induction hask generalizing n ended with
  | source hsource =>
    exact conduct_source hsource hp ((Asks.source (w := w) hsource).frame hS hbelow).ages hs
  | absent hnone =>
    refine .of_leaf (fun _ _ => Iff.rfl) hs (fun _ => rfl) (fun _ t ht => ?_) (.refl _) hp
      (fail_of_eq fun _ => rfl)
    cases hnone.symm.trans ht
  | dropped hh hdead =>
    refine .of_leaf (fun _ _ => Iff.rfl) hs (fun _ => rfl) (fun _ h' hh' q hq => ?_) (.refl _) hp
      (fail_of_eq fun _ => rfl)
    obtain rfl := Option.some.inj (hh.symm.trans hh')
    cases hdead.symm.trans hq
  | gone hh hlive hnothing hin =>
    refine .of_leaf (fun _ _ => Iff.rfl) hs (fun _ => rfl) (fun _ h' hh' q hq => ?_) (.refl _) hp
      (fail_of_eq fun _ => rfl)
    obtain rfl := Option.some.inj (hh.symm.trans hh')
    obtain rfl := Option.some.inj (hlive.symm.trans hq)
    exact ⟨hin, Hub.unread_of_itemAt?_eq_none hnothing⟩
  | @buffered k slot position h a hh hlive ha =>
    exact conduct_buffered hh (hS k h hh) hlive ha hp hs
  | @passes p' k slot position h h' below below' signal ws hpull hask hpass ih =>
    have horderly := hS k h hpull.hub
    have hleaves : ∀ l ∈ below.leaves, l.Below k :=
      Hub.inputLeaves_of_some hpull.input ▸ horderly.below
    have hframe := (Asks.passes hpull hask hpass).frame hS hbelow
    have hasked := ih hleaves (hp.inputs k h below hpull.hub hpull.input)
    exact conduct_passes hpull horderly hpass
      (((hask.frame hS hleaves).beyond k le_rfl).trans hpull.hub) hframe.ages hasked hs
  | @ended p₁ p₂ k slot position h below below' signal hpull hlast hask hrel ih =>
    have horderly := hS k h hpull.hub
    have hleaves : ∀ l ∈ below.leaves, l.Below k :=
      Hub.inputLeaves_of_some hpull.input ▸ horderly.below
    have hframe := (Asks.ended hpull hlast hask hrel).frame hS hbelow
    have hinner := hask.frame hS hleaves
    have hasked := ih hleaves (hp.inputs k h below hpull.hub hpull.input)
    exact conduct_ended hpull hrel ((hinner.beyond k le_rfl).trans hpull.hub)
      (hinner.layered.setHub horderly.ended) (fun l hl => hleaves l (hinner.subset hl))
      hframe.ages (Asks.exhausted_of_ended hpull hask hrel hS) hasked hs
  | own hidle hset => exact conduct_own hidle hset hS hbelow hp hs
  | reacts hidle hask hset ih =>
    obtain ⟨inputEnded, hop, hinput⟩ := hs
    have hframe := hask.frame hS hbelow
    exact conduct_reacts hidle hop (ih hbelow hinput) hset hframe.layered
      fun l hl => hbelow l (hframe.subset hl)
  | drains hidle => exact conduct_drains hidle hp hs
  | done hidle => exact ⟨fun _ => rfl, .inl hidle, hp, fail_of_eq fun _ => rfl⟩
  | nobody => exact ⟨fun _ => rfl, ⟨trivial, fun _ => rfl⟩, hp, fail_of_eq fun _ => rfl⟩
  | @turn p₁ p₂ before after left s s' round signal out hout hask hshed ih =>
    obtain ⟨hall, hended⟩ := hs
    obtain rfl : ended = false := by
      by_contra hne
      have hnil := hended (Bool.eq_true_of_not_eq_false hne)
      simp at hnil
    rw [Stage.obeyAll_iff] at hall
    rw [Stage.leaves, Stage.leavesOf_append, Stage.leavesOf] at hbelow
    have hsbelow : ∀ l ∈ s.leaves, l.Below n := fun l hl =>
      hbelow l (List.mem_append_right _ (List.mem_append_left _ hl))
    have hframe := (hask.frame hS hsbelow).among (Stage.leavesOf before) (Stage.leavesOf after)
    refine conduct_turn hout (by simp) hshed hframe.layered
      (fun l hl => hbelow l (hframe.subset ?_)) hframe.ages (ih hsbelow (hall s (by simp)))
      fun t ht => hall t ?_
    · rwa [Stage.leavesOf_append, Stage.leavesOf] at hl
    · simp only [List.mem_append, List.mem_cons] at ht ⊢
      exact ht.imp_right .inr

end Plant

end SparqlStream
