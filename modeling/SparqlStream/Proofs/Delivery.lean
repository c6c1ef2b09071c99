import Mathlib.Data.Multiset.Bind
import Mathlib.Tactic
import SparqlStream.Stream.Signal

/-!
# What streams deliver

`Flow.Delivers` says that a stream, asked again and again, shows certain items and then ends.  It
never fails on the way, and whether it may make the one who asks wait is a parameter.

To prove that a stream ends one counts.  What is *due* from a stream are the items that it still
has to show and a bound on the work that is left to show them; `Due.Shows` says how a signal
changes what is due.  As the work grows less with every signal, a stream whose steps obey
`Due.Shows` delivers what is due: `Flow.delivers_of_shows`.
-/

namespace SparqlStream

/-! ## Delivering -/

/-- A stream shows some items and ends.  The last state is the one in which it has ended. -/
inductive Flow.Delivers {τ α ε : Type} [Flow τ α ε] (mayWait : Bool) : τ → List α → τ → Prop
  | finish {s t : τ} : Flow.step s = (.finish, t) → Delivers mayWait s [] t
  | item {s s' t : τ} {a : α} {as : List α} :
    Flow.step s = (.item a, s') → Delivers mayWait s' as t → Delivers mayWait s (a :: as) t
  | again {s s' t : τ} {as : List α} :
    Flow.step s = (.again, s') → Delivers mayWait s' as t → Delivers mayWait s as t
  | pending {s s' t : τ} {as : List α} :
    mayWait = true → Flow.step s = (.pending, s') → Delivers mayWait s' as t →
      Delivers mayWait s as t

namespace Flow

variable {τ α ε : Type} [Flow τ α ε]

/-- What a stream shows before it ends, if it ends after a number of steps and never fails or
waits. -/
def collect : Nat → τ → Option (List α)
  | 0, _ => none
  | limit + 1, s =>
    match Flow.step s with
    | (.item a, s) => (collect limit s).map (a :: ·)
    | (.again, s) => collect limit s
    | (.finish, _) => some []
    | (.fail _, _) | (.pending, _) => none

lemma delivers_of_collect {mayWait : Bool} (limit : Nat) {s : τ} {as : List α}
    (h : collect limit s = some as) : ∃ t, Delivers mayWait s as t := by
  induction limit generalizing s as with
  | zero => cases h
  | succ limit ih =>
    rw [collect] at h
    rcases hstep : Flow.step s with ⟨signal, s'⟩
    rw [hstep] at h
    cases signal with
    | item a =>
      obtain ⟨rest, hrest, rfl⟩ := Option.map_eq_some_iff.1 h
      obtain ⟨t, ht⟩ := ih hrest
      exact ⟨t, .item hstep ht⟩
    | again =>
      obtain ⟨t, ht⟩ := ih h
      exact ⟨t, .again hstep ht⟩
    | finish =>
      cases h
      exact ⟨s', .finish hstep⟩
    | fail _ => cases h
    | pending => cases h

end Flow

/-! ## What is due -/

/-- What a stream still has to show: some items in any order, and a bound on the work that is left
before it has ended. -/
@[ext]
structure Due (α : Type) where
  items : Multiset α
  work : Nat

namespace Due

variable {α ε : Type}

instance : Zero (Due α) := ⟨⟨0, 0⟩⟩

instance : Add (Due α) := ⟨fun d e => ⟨d.items + e.items, d.work + e.work⟩⟩

@[simp] lemma zero_items : (0 : Due α).items = 0 := rfl

@[simp] lemma zero_work : (0 : Due α).work = 0 := rfl

@[simp] lemma add_items (d e : Due α) : (d + e).items = d.items + e.items := rfl

@[simp] lemma add_work (d e : Due α) : (d + e).work = d.work + e.work := rfl

instance : AddCommMonoid (Due α) where
  add_assoc d e f := by ext1 <;> simp [add_assoc]
  zero_add d := by
    ext1
    · rw [add_items, zero_items, zero_add]
    · rw [add_work, zero_work, zero_add]
  add_zero d := by
    ext1
    · rw [add_items, zero_items, add_zero]
    · rw [add_work, zero_work, add_zero]
  add_comm d e := by ext1 <;> simp [add_comm]
  nsmul := nsmulRec

/-- A step of work that shows nothing. -/
def tick : Due α := ⟨0, 1⟩

@[simp] lemma tick_items : (tick : Due α).items = 0 := rfl

@[simp] lemma tick_work : (tick : Due α).work = 1 := rfl

/-- What is due from an operator that expands each item of a stream. -/
def through (d : Due α) (f : α → Due α) : Due α :=
  ⟨d.items.bind fun a => (f a).items, d.work + (d.items.map fun a => (f a).work).sum⟩

/-- How a signal changes what is due.  A stream from which something is due neither fails nor
waits. -/
def Shows : Signal α ε → Due α → Due α → Prop
  | .item a, d, d' => d.items = a ::ₘ d'.items ∧ d'.work < d.work
  | .again, d, d' => d.items = d'.items ∧ d'.work < d.work
  | .finish, d, _ => d.items = 0
  | .fail _, _, _ | .pending, _, _ => False

variable {signal : Signal α ε} {d d' e : Due α}

/-- What is due besides does not matter before the end. -/
lemma Shows.add (h : Shows signal d d') (hend : signal = .finish → e.items = 0) :
    Shows signal (d + e) (d' + e) := by
  cases signal with
  | item a =>
    obtain ⟨hitems, hwork⟩ := h
    refine ⟨?_, ?_⟩
    · rw [add_items, add_items, hitems, Multiset.cons_add]
    · rw [add_work, add_work]
      omega
  | again =>
    obtain ⟨hitems, hwork⟩ := h
    refine ⟨?_, ?_⟩
    · rw [add_items, add_items, hitems]
    · rw [add_work, add_work]
      omega
  | finish =>
    have hd : d.items = 0 := h
    rw [Shows, add_items, hd, hend rfl, add_zero]
  | fail _ => exact h
  | pending => exact h

/-- More work may be due than is needed. -/
lemma Shows.of_le (h : Shows signal d d') (hitems : e.items = d.items) (hwork : d.work ≤ e.work) :
    Shows signal e d' := by
  cases signal with
  | item a => exact ⟨hitems.trans h.1, h.2.trans_le hwork⟩
  | again => exact ⟨hitems.trans h.1, h.2.trans_le hwork⟩
  | finish => exact hitems.trans h
  | fail _ => exact h
  | pending => exact h

lemma through_cons {f : α → Due α} {a : α} (hitems : d.items = a ::ₘ d'.items)
    (hwork : d'.work < d.work) : (d.through f).items = (f a).items + (d'.through f).items ∧
      (f a).work + (d'.through f).work < (d.through f).work := by
  refine ⟨?_, ?_⟩
  · rw [through, hitems, Multiset.cons_bind, through]
  · rw [through, through, hitems, Multiset.map_cons, Multiset.sum_cons]
    dsimp only
    omega

end Due

/-! ## From steps to a delivery -/

/-- A stream delivers what is due, if each of its states leads to another one that owes what the
signal leaves. -/
theorem Flow.delivers_of_shows {τ α ε : Type} [Flow τ α ε] {Owes : τ → Due α → Prop}
    (hstep : ∀ s d, Owes s d → ∃ d', d.Shows (Flow.step s).1 d' ∧
      ((Flow.step s).1 ≠ .finish → Owes (Flow.step s).2 d'))
    {s : τ} {d : Due α} (hs : Owes s d) :
    ∃ as t, Flow.Delivers false s as t ∧ (as : Multiset α) = d.items := by
  induction hw : d.work using Nat.strong_induction_on generalizing s d with
  | h n ih =>
    subst hw
    obtain ⟨d', hshows, hnext⟩ := hstep s d hs
    rcases hnow : Flow.step s with ⟨signal, s'⟩
    rw [hnow] at hshows hnext
    cases signal with
    | item a =>
      obtain ⟨hitems, hwork⟩ := hshows
      obtain ⟨as, t, has, heq⟩ := ih d'.work hwork (hnext (by simp)) rfl
      exact ⟨a :: as, t, .item hnow has, by rw [hitems, ← heq, Multiset.cons_coe]⟩
    | again =>
      obtain ⟨hitems, hwork⟩ := hshows
      obtain ⟨as, t, has, heq⟩ := ih d'.work hwork (hnext (by simp)) rfl
      exact ⟨as, t, .again hnow has, by rw [heq, hitems]⟩
    | finish =>
      have hitems : d.items = 0 := hshows
      exact ⟨[], s', .finish hnow, by rw [hitems, Multiset.coe_nil]⟩
    | fail _ => exact hshows.elim
    | pending => exact hshows.elim

end SparqlStream
