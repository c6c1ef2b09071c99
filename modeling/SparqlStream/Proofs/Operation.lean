import Mathlib.Tactic
import SparqlStream.Proofs.Delivery

/-!
# What operators make of streams

An operator turns a list of items into another one, no matter when the stream below it shows these
items.  `Operator.Yields` describes this by lists alone, with one constructor for each way in which
an operator can react, and `Through.delivers` carries it over to streams: it is the only place
where waiting is dealt with.

An operator may also be built from another one whose states it embeds.  Then it delivers what the
other one delivers.
-/

namespace SparqlStream

/-! ## Lists -/

namespace Operator

/-- An operator without input shows some items and ends. -/
inductive Drains (α ε : Type) {σ β : Type} [Operator σ α β ε] : σ → List β → Prop
  | nothing {op : σ} : (idle α op false : Option (Reaction σ β ε)) = none → Drains α ε op []
  | finish {op op' : σ} :
    (idle α op false : Option (Reaction σ β ε)) = some (.keep op' .finish) → Drains α ε op []
  | item {op op' : σ} {b : β} {bs : List β} :
    (idle α op false : Option (Reaction σ β ε)) = some (.keep op' (.item b)) →
      Drains α ε op' bs → Drains α ε op (b :: bs)

/-- An operator shows some items for those of its input, and ends. -/
inductive Yields (ε : Type) {σ α β : Type} [Operator σ α β ε] : σ → List α → List β → Prop
  /-- It shows an item of its own. -/
  | own {op op' : σ} {b : β} {as : List α} {bs : List β} :
    (idle α op true : Option (Reaction σ β ε)) = some (.keep op' (.item b)) →
      Yields ε op' as bs → Yields ε op as (b :: bs)
  /-- It shows an item for one of its input. -/
  | item {op op' : σ} {a : α} {b : β} {as : List α} {bs : List β} :
    (idle α op true : Option (Reaction σ β ε)) = none →
      (react op (.item a) : Reaction σ β ε) = .keep op' (.item b) →
        Yields ε op' as bs → Yields ε op (a :: as) (b :: bs)
  /-- It takes an item and shows nothing. -/
  | skip {op op' : σ} {a : α} {as : List α} {bs : List β} :
    (idle α op true : Option (Reaction σ β ε)) = none →
      (react op (.item a) : Reaction σ β ε) = .keep op' .again →
        Yields ε op' as bs → Yields ε op (a :: as) bs
  /-- It lets go of its input with an item. -/
  | last {op op' : σ} {a : α} {b : β} {as : List α} {bs : List β} :
    (idle α op true : Option (Reaction σ β ε)) = none →
      (react op (.item a) : Reaction σ β ε) = .close op' (.item b) →
        Drains α ε op' bs → Yields ε op (a :: as) (b :: bs)
  /-- It ends with its input. -/
  | finish {op : σ} :
    (idle α op true : Option (Reaction σ β ε)) = none →
      (react op (.finish : Signal α ε) : Reaction σ β ε).shows = .finish → Yields ε op [] []
  /-- It shows something after its input has ended. -/
  | drain {op op' : σ} {bs : List β} :
    (idle α op true : Option (Reaction σ β ε)) = none →
      (react op (.finish : Signal α ε) : Reaction σ β ε) = .close op' .again →
        Drains α ε op' bs → Yields ε op [] bs
  /-- It shows an item because its input has ended. -/
  | answer {op op' : σ} {b : β} {bs : List β} :
    (idle α op true : Option (Reaction σ β ε)) = none →
      (react op (.finish : Signal α ε) : Reaction σ β ε) = .close op' (.item b) →
        Drains α ε op' bs → Yields ε op [] (b :: bs)

/-- An operator waits when its input waits, and works when its input works. -/
structure IsPatient (σ α β ε : Type) [Operator σ α β ε] : Prop where
  pending : ∀ op : σ, (react op (.pending : Signal α ε) : Reaction σ β ε) = .keep op .pending
  again : ∀ op : σ, (react op (.again : Signal α ε) : Reaction σ β ε) = .keep op .again

/-- The states of one operator are states of another one, which does the same in them. -/
structure Embeds (α ε : Type) {σ σ' β : Type} [Operator σ α β ε] [Operator σ' α β ε]
    (f : σ → σ') : Prop where
  idle : ∀ op hasInput, (Operator.idle α (f op) hasInput : Option (Reaction σ' β ε)) =
    (Operator.idle α op hasInput : Option (Reaction σ β ε)).map (·.map f)
  react : ∀ op (signal : Signal α ε), (Operator.react (f op) signal : Reaction σ' β ε) =
    (Operator.react op signal : Reaction σ β ε).map f

section Embeds

variable {σ σ' α β ε : Type} [Operator σ α β ε] [Operator σ' α β ε] {f : σ → σ'} {op : σ}
  {as : List α} {bs : List β}

lemma Embeds.drains (hf : Embeds α ε f) (h : Drains α ε op bs) : Drains α ε (f op) bs := by
  induction h with
  | nothing h => exact .nothing (by rw [hf.idle, h]; rfl)
  | finish h => exact .finish (by rw [hf.idle, h]; rfl)
  | item h _ ih => exact .item (by rw [hf.idle, h]; rfl) ih

lemma Embeds.idle_eq_none (hf : Embeds α ε f) {hasInput : Bool}
    (h : (Operator.idle α op hasInput : Option (Reaction σ β ε)) = none) :
    (Operator.idle α (f op) hasInput : Option (Reaction σ' β ε)) = none := by
  rw [hf.idle, h]
  rfl

lemma Embeds.yields (hf : Embeds α ε f) (h : Yields ε op as bs) : Yields ε (f op) as bs := by
  induction h with
  | own h _ ih => exact .own (by rw [hf.idle, h]; rfl) ih
  | item h hr _ ih => exact .item (hf.idle_eq_none h) (by rw [hf.react, hr]; rfl) ih
  | skip h hr _ ih => exact .skip (hf.idle_eq_none h) (by rw [hf.react, hr]; rfl) ih
  | last h hr hd => exact .last (hf.idle_eq_none h) (by rw [hf.react, hr]; rfl) (hf.drains hd)
  | finish h hr => exact .finish (hf.idle_eq_none h) (by rw [hf.react, Reaction.map, hr])
  | drain h hr hd => exact .drain (hf.idle_eq_none h) (by rw [hf.react, hr]; rfl) (hf.drains hd)
  | answer h hr hd => exact .answer (hf.idle_eq_none h) (by rw [hf.react, hr]; rfl) (hf.drains hd)

end Embeds

end Operator

/-! ## Streams -/

section Delivers

variable {σ τ α β ε : Type} [Operator σ α β ε] [Flow τ α ε] {op op' : σ} {s s' t : τ}
  {mayWait : Bool} {signal : Signal α ε} {shown : Signal β ε} {a : α} {as : List α}

open Operator

namespace Flow

/-- A stream shows neither an item nor its end before it is in another state. -/
inductive Waits (mayWait : Bool) : τ → τ → Prop
  | refl (s : τ) : Waits mayWait s s
  | again {s s' t : τ} : Flow.step s = (.again, s') → Waits mayWait s' t → Waits mayWait s t
  | pending {s s' t : τ} :
    mayWait = true → Flow.step s = (.pending, s') → Waits mayWait s' t → Waits mayWait s t

lemma Waits.delivers (h : Waits mayWait s s') (hs : Delivers mayWait s' as t) :
    Delivers mayWait s as t := by
  induction h with
  | refl => exact hs
  | again h _ ih => exact .again h (ih hs)
  | pending hwait h _ ih => exact .pending hwait h (ih hs)

/-- A stream that delivers an item waits for it and delivers the others. -/
lemma Delivers.uncons (h : Delivers mayWait s (a :: as) t) : ∃ s₀ s₁, Waits mayWait s s₀ ∧
    Flow.step s₀ = (.item a, s₁) ∧ Delivers mayWait s₁ as t := by
  generalize hl : a :: as = l at h
  induction h with
  | finish _ => cases hl
  | item h hrest _ =>
    cases hl
    exact ⟨_, _, .refl _, h, hrest⟩
  | again h _ ih =>
    obtain ⟨s₀, s₁, hwait, hstep⟩ := ih hl
    exact ⟨s₀, s₁, .again h hwait, hstep⟩
  | pending hmay h _ ih =>
    obtain ⟨s₀, s₁, hwait, hstep⟩ := ih hl
    exact ⟨s₀, s₁, .pending hmay h hwait, hstep⟩

lemma Delivers.unnil (h : Delivers mayWait s [] t) : ∃ s₀, Waits mayWait s s₀ ∧
    Flow.step s₀ = ((.finish : Signal α ε), t) := by
  generalize hl : ([] : List α) = l at h
  induction h with
  | finish h => exact ⟨_, .refl _, h⟩
  | item _ _ _ => cases hl
  | again h _ ih =>
    obtain ⟨s₀, hwait, hstep⟩ := ih hl
    exact ⟨s₀, .again h hwait, hstep⟩
  | pending hmay h _ ih =>
    obtain ⟨s₀, hwait, hstep⟩ := ih hl
    exact ⟨s₀, .pending hmay h hwait, hstep⟩

/-- A stream that shows what another one shows delivers what the other one delivers. -/
theorem Delivers.simulate {τ' : Type} [Flow τ' α ε] {R : τ → τ' → Prop}
    (hstep : ∀ s s', R s s' → (Flow.step s').1 = (Flow.step s).1 ∧
      R (Flow.step s).2 (Flow.step s').2)
    {s' : τ'} (hs : R s s') (h : Delivers mayWait s as t) : ∃ t', Delivers mayWait s' as t' := by
  induction h generalizing s' with
  | finish h =>
    obtain ⟨hsignal, -⟩ := hstep _ _ hs
    rw [h] at hsignal
    exact ⟨_, .finish (Prod.ext hsignal rfl)⟩
  | item h _ ih =>
    obtain ⟨hsignal, hnext⟩ := hstep _ _ hs
    rw [h] at hsignal hnext
    obtain ⟨t', ht'⟩ := ih hnext
    exact ⟨t', .item (Prod.ext hsignal rfl) ht'⟩
  | again h _ ih =>
    obtain ⟨hsignal, hnext⟩ := hstep _ _ hs
    rw [h] at hsignal hnext
    obtain ⟨t', ht'⟩ := ih hnext
    exact ⟨t', .again (Prod.ext hsignal rfl) ht'⟩
  | pending hmay h _ ih =>
    obtain ⟨hsignal, hnext⟩ := hstep _ _ hs
    rw [h] at hsignal hnext
    obtain ⟨t', ht'⟩ := ih hnext
    exact ⟨t', .pending hmay (Prod.ext hsignal rfl) ht'⟩

end Flow

namespace Through

lemma step_own {hasInput : Bool}
    (h : (idle α op hasInput : Option (Reaction σ β ε)) = some (.keep op' shown)) :
    Flow.step (Through.mk op s hasInput) = (shown, Through.mk op' s hasInput) := by
  show Through.step _ = _
  rw [Through.step, h]
  cases hasInput <;> rfl

lemma step_ended (h : (idle α op false : Option (Reaction σ β ε)) = none) :
    Flow.step (Through.mk op s false) = (.finish, Through.mk op s false) := by
  show Through.step _ = _
  rw [Through.step, h]
  rfl

lemma step_keep (h : (idle α op true : Option (Reaction σ β ε)) = none)
    (hs : Flow.step s = (signal, s')) (hr : (react op signal : Reaction σ β ε) = .keep op' shown) :
    Flow.step (Through.mk op s true) = (shown, Through.mk op' s' true) := by
  show Through.step _ = _
  rw [Through.step, h]
  simp only [hs, hr]
  rfl

lemma step_close (h : (idle α op true : Option (Reaction σ β ε)) = none)
    (hs : Flow.step s = (signal, s')) (hr : (react op signal : Reaction σ β ε) = .close op' shown) :
    Flow.step (Through.mk op s true) = (shown, Through.mk op' (Flow.release s') false) := by
  show Through.step _ = _
  rw [Through.step, h]
  simp only [hs, hr]
  rfl

lemma step_shows (h : (idle α op true : Option (Reaction σ β ε)) = none)
    (hs : Flow.step s = (signal, s'))
    (hr : (react op signal : Reaction σ β ε).shows = shown) :
    Flow.step (Through.mk op s true) = (shown, (Flow.step (Through.mk op s true)).2) := by
  have hfst : (Flow.step (Through.mk op s true)).1 = shown := by
    show (Through.step _).1 = _
    rw [Through.step, h]
    simp only [hs]
    exact hr
  rw [← hfst]

/-- Without its input an operator delivers what it drains. -/
lemma delivers_of_drains {bs : List β} (h : Drains α ε op bs) (s : τ) :
    ∃ t, Flow.Delivers mayWait (Through.mk op s false) bs t := by
  induction h with
  | nothing h => exact ⟨_, .finish (step_ended h)⟩
  | finish h => exact ⟨_, .finish (step_own h)⟩
  | item h _ ih =>
    obtain ⟨t, ht⟩ := ih
    exact ⟨t, .item (step_own h) ht⟩

/-- An operator waits with its input. -/
lemma waits (hpatient : IsPatient σ α β ε)
    (hidle : (idle α op true : Option (Reaction σ β ε)) = none) (hs : Flow.Waits mayWait s s') :
    Flow.Waits mayWait (Through.mk op s true) (Through.mk op s' true) := by
  induction hs with
  | refl => exact .refl _
  | again h _ ih => exact .again (step_keep hidle h (hpatient.again op)) ih
  | pending hwait h _ ih => exact .pending hwait (step_keep hidle h (hpatient.pending op)) ih

/-- On top of a stream that delivers some items an operator delivers what it yields for them. -/
theorem delivers (hpatient : IsPatient σ α β ε) {as : List α} {bs : List β} {t : τ}
    (hs : Flow.Delivers mayWait s as t) (h : Yields ε op as bs) :
    ∃ t', Flow.Delivers mayWait (Through.mk op s true) bs t' := by
  induction h generalizing s with
  | own hidle _ ih =>
    obtain ⟨t', ht'⟩ := ih hs
    exact ⟨t', .item (step_own hidle) ht'⟩
  | item hidle hreact _ ih =>
    obtain ⟨s₀, s₁, hwait, hstep, hrest⟩ := hs.uncons
    obtain ⟨t', ht'⟩ := ih hrest
    exact ⟨t', (waits hpatient hidle hwait).delivers (.item (step_keep hidle hstep hreact) ht')⟩
  | skip hidle hreact _ ih =>
    obtain ⟨s₀, s₁, hwait, hstep, hrest⟩ := hs.uncons
    obtain ⟨t', ht'⟩ := ih hrest
    exact ⟨t', (waits hpatient hidle hwait).delivers (.again (step_keep hidle hstep hreact) ht')⟩
  | last hidle hreact hdrains =>
    obtain ⟨s₀, s₁, hwait, hstep, -⟩ := hs.uncons
    obtain ⟨t', ht'⟩ := delivers_of_drains hdrains (Flow.release s₁)
    exact ⟨t', (waits hpatient hidle hwait).delivers (.item (step_close hidle hstep hreact) ht')⟩
  | finish hidle hshows =>
    obtain ⟨s₀, hwait, hstep⟩ := hs.unnil
    exact ⟨_, (waits hpatient hidle hwait).delivers (.finish (step_shows hidle hstep hshows))⟩
  | drain hidle hreact hdrains =>
    obtain ⟨s₀, hwait, hstep⟩ := hs.unnil
    obtain ⟨t', ht'⟩ := delivers_of_drains hdrains (Flow.release t)
    exact ⟨t', (waits hpatient hidle hwait).delivers (.again (step_close hidle hstep hreact) ht')⟩
  | answer hidle hreact hdrains =>
    obtain ⟨s₀, hwait, hstep⟩ := hs.unnil
    obtain ⟨t', ht'⟩ := delivers_of_drains hdrains (Flow.release t)
    exact ⟨t', (waits hpatient hidle hwait).delivers (.item (step_close hidle hstep hreact) ht')⟩

end Through

end Delivers

end SparqlStream
