import Mathlib.Tactic
import SparqlStream.Proofs.Attachment
import SparqlStream.Proofs.Reading
import SparqlStream.Stream.Network

/-!
# What size hints are worth

A size hint bounds how many items and errors a stream will still show before its end.  It is right
if the stream never shows more than the upper bound, and has shown no less than the lower bound when
it ends.

`Sorter.hinted_run` says what the hint of a sorted stream is worth if the hints of the input are
right.  Its upper bound is always right, and its lower bound is unless there is an error: an error
loses what is buffered and ends the stream before its input, and the hint counts both.  The proof
rests on a balance, `Sorter.Draws`: what a run shows and still holds is what was held and what has
been drawn from the input, and only an error loses any of it.

The hints of the sources of a network are right (`Outlet.isHinted_source`), and what holds of a
sorted stream also holds of a sorter that is a stage of a network (`Outlet.hinted_sortBy`).
-/

namespace SparqlStream

variable {α ε τ : Type}

/-! ## Hints that are right -/

namespace Signal

/-- Whether a signal is an item or an error. -/
def isYield : Signal α ε → Bool
  | item _ | fail _ => true
  | _ => false

/-- How many of some signals are items or errors. -/
def yields (signals : List (Signal α ε)) : Nat := signals.countP isYield

@[simp] lemma yields_nil : yields ([] : List (Signal α ε)) = 0 := rfl

lemma yields_cons (signal : Signal α ε) (signals : List (Signal α ε)) :
    yields (signal :: signals) = signal.isYield.toNat + yields signals := by
  rw [yields, List.countP_cons, yields, Nat.add_comm]
  cases signal.isYield <;> rfl

lemma yields_append (l r : List (Signal α ε)) : yields (l ++ r) = yields l + yields r :=
  List.countP_append

end Signal

open Signal

section Hints

variable [Flow τ α ε] {outside : τ → τ → Prop} {s t u : τ} {l r : List (Signal α ε)}

/-- A stream that is asked again and again shows some signals.  In between it may be changed from
outside. -/
inductive Flow.Shows (outside : τ → τ → Prop) : τ → List (Signal α ε) → τ → Prop
  | refl (s : τ) : Shows outside s [] s
  | asked {s s' t : τ} {signal : Signal α ε} {signals : List (Signal α ε)} :
    Flow.step s = (signal, s') → Shows outside s' signals t → Shows outside s (signal :: signals) t
  | changed {s s' t : τ} {signals : List (Signal α ε)} :
    outside s s' → Shows outside s' signals t → Shows outside s signals t

lemma Flow.Shows.trans (h : Flow.Shows outside s l t) (h' : Flow.Shows outside t r u) :
    Flow.Shows outside s (l ++ r) u := by
  induction h with
  | refl _ => exact h'
  | asked hstep _ ih => exact .asked hstep (ih h')
  | changed hchange _ ih => exact .changed hchange (ih h')

/-- The bounds hold of what a stream will still show before its end. -/
structure SizeHint.Bounds (h : SizeHint) (outside : τ → τ → Prop) (s : τ) : Prop where
  high : ∀ (signals : List (Signal α ε)) t, Flow.Shows outside s signals t → .finish ∉ signals →
    ∀ m ∈ h.high, yields signals ≤ m
  low : ∀ (signals : List (Signal α ε)) t, Flow.Shows outside s signals t → .finish ∉ signals →
    (Flow.step t).1 = .finish → h.low ≤ yields signals

/-- The hints of a stream are right in every state that it reaches. -/
def Flow.IsHinted (outside : τ → τ → Prop) (hint : τ → SizeHint) (s : τ) : Prop :=
  ∀ (signals : List (Signal α ε)) t, Flow.Shows outside s signals t → (hint t).Bounds outside t

end Hints

/-! ## More items on top -/

namespace SizeHint

variable {h : SizeHint} {k m n : Nat}

lemma low_plus_le (hn : h.low ≤ n) : (h.plus k).low ≤ n + k :=
  (Nat.min_le_left _ _).trans (Nat.add_le_add_right hn k)

lemma le_of_mem_high_plus (hn : ∀ m ∈ h.high, n ≤ m) (hm : m ∈ (h.plus k).high) : n + k ≤ m := by
  obtain ⟨m', hm', heq⟩ := Option.bind_eq_some_iff.1 hm
  have hle := hn m' hm'
  split at heq
  · obtain rfl := Option.some.inj heq
    omega
  · cases heq

lemma exact_plus (h : n + k ≤ limit) : (exact n).plus k = exact (n + k) := by
  simp [plus, exact, h]

/-- A bound that cannot be held is replaced by one that is right as well. -/
example : (exact limit).plus 1 = ⟨limit, none⟩ := by decide

end SizeHint

/-! ## Sorted streams -/

/-- The input of an operator is changed from outside. -/
inductive Through.Below {σ : Type} (outside : τ → τ → Prop) : Through σ τ → Through σ τ → Prop
  | input {op : σ} {input input' : τ} {hasInput : Bool} : outside input input' →
    Below outside ⟨op, input, hasInput⟩ ⟨op, input', hasInput⟩

/-- The hint of a sorted stream. -/
def Through.sizeHint (hint : τ → SizeHint) (s : Through (Sorter α) τ) : SizeHint :=
  s.operator.sizeHint (if s.hasInput then some (hint s.input) else none)

namespace Sorter

variable [Flow τ α ε] {outside : τ → τ → Prop} {hint : τ → SizeHint}
  {s s' t : Through (Sorter α) τ} {signals drawn : List (Signal α ε)}
  {signal : Signal α ε} {src u : τ}

/-- What the hint of a sorted stream says of what the stream will still show. -/
structure Hinted (outside : τ → τ → Prop) (hint : τ → SizeHint) (s : Through (Sorter α) τ) :
    Prop where
  /-- The upper bound is never exceeded. -/
  high : ∀ (signals : List (Signal α ε)) t, Flow.Shows (Through.Below outside) s signals t →
    ∀ m ∈ (s.sizeHint hint).high, yields signals ≤ m
  /-- The lower bound has been reached when the stream ends without an error. -/
  low : ∀ (signals : List (Signal α ε)) t, Flow.Shows (Through.Below outside) s signals t →
    (Flow.step t).1 = .finish → (∀ e, .fail e ∉ signals) →
      (s.sizeHint hint).low ≤ yields signals
  /-- An error loses what is held and what the input would still show.  The bounds hold if these are
  counted as well. -/
  lost : ∀ (signals : List (Signal α ε)) t e, Flow.Shows (Through.Below outside) s signals t →
    (Flow.step t).1 = .fail e → ∀ (rest : List (Signal α ε)) u,
      Flow.Shows outside (Flow.step t.input).2 rest u → .finish ∉ rest →
      (Flow.step u).1 = .finish →
        (s.sizeHint hint).low ≤ yields signals + 1 + t.operator.held.length + yields rest ∧
          ∀ m ∈ (s.sizeHint hint).high,
            yields signals + 1 + t.operator.held.length + yields rest ≤ m
  /-- The hint is as exact as that of the input, unless there is more than a bound can hold. -/
  sharp : (s.hasInput = true → ∃ n, hint s.input = .exact n ∧
    n + s.operator.held.length ≤ SizeHint.limit) → ∃ n, s.sizeHint hint = .exact n
  /-- Nothing is left after an error. -/
  failed : ∀ e, (Flow.step s).1 = .fail e → ((Flow.step s).2.sizeHint hint) = .exact 0
  /-- Nothing is left at the end. -/
  ended : (Flow.step s).1 = .finish → s.sizeHint hint = .exact 0

/-! ### Steps -/

/-- What a sorted stream does when it is asked once. -/
inductive Moves : Through (Sorter α) τ → Signal α ε → Through (Sorter α) τ → Prop
  | shows {op op' : Sorter α} {input : τ} {hasInput : Bool} {a : α} : op.held = a :: op'.held →
    Moves ⟨op, input, hasInput⟩ (.item a) ⟨op', input, hasInput⟩
  | takes {op op' : Sorter α} {input input' : τ} {a : α} : Flow.step input = (.item a, input') →
    op'.held.length = op.held.length + 1 → Moves ⟨op, input, true⟩ .again ⟨op', input', true⟩
  | waits {op : Sorter α} {input input' : τ} {signal : Signal α ε} :
    Flow.step input = (signal, input') → signal = .pending ∨ signal = .again →
    Moves ⟨op, input, true⟩ signal ⟨op, input', true⟩
  | fails {op op' : Sorter α} {input input' : τ} {e : ε} : Flow.step input = (.fail e, input') →
    op'.held = [] → Moves ⟨op, input, true⟩ (.fail e) ⟨op', Flow.release input', false⟩
  | ends {op : Sorter α} {input input' : τ} : Flow.step input = (.finish, input') →
    Moves ⟨op, input, true⟩ .again ⟨op, Flow.release input', false⟩
  | finish {op : Sorter α} {input : τ} : op.held = [] →
    Moves ⟨op, input, false⟩ .finish ⟨op, input, false⟩

/-- A sorted stream makes one of these moves when it is asked. -/
lemma moves_step (s : Through (Sorter α) τ) : Moves s (Flow.step s).1 (Flow.step s).2 := by
  obtain ⟨⟨cmp, window, held⟩, input, hasInput⟩ := s
  cases hasInput with
  | false =>
    cases held with
    | nil => exact .finish rfl
    | cons a held => exact .shows rfl
  | true =>
    by_cases hfull : (Sorter.mk cmp window held).isFull = true
    · cases held with
      | nil =>
        rw [isFull_of_held_eq_nil rfl] at hfull
        cases hfull
      | cons a held =>
        rw [Through.step_own (idle_full hfull)]
        exact .shows rfl
    · have hidle := idle_not_full (ε := ε) hfull
      rcases hinput : Flow.step input with ⟨signal, input'⟩
      cases signal with
      | item a =>
        rw [Through.step_keep hidle hinput rfl]
        exact .takes hinput (held_insert_perm _ a).length_eq
      | fail e =>
        rw [Through.step_close hidle hinput rfl]
        exact .fails hinput rfl
      | finish =>
        rw [Through.step_close hidle hinput rfl]
        exact .ends hinput
      | pending =>
        rw [Through.step_keep hidle hinput rfl]
        exact .waits hinput (.inl rfl)
      | again =>
        rw [Through.step_keep hidle hinput rfl]
        exact .waits hinput (.inr rfl)

lemma moves_of_step (h : Flow.step s = (signal, s')) : Moves s signal s' := by
  have hmove := moves_step s
  rwa [h] at hmove

/-- A sorted stream ends when it holds nothing and has let go of its input. -/
lemma of_step_eq_finish (h : (Flow.step s).1 = .finish) :
    s.hasInput = false ∧ s.operator.held = [] := by
  have hmove := moves_step s
  rw [h] at hmove
  generalize (Flow.step s).2 = s' at hmove
  cases hmove with
  | finish hheld => exact ⟨rfl, hheld⟩
  | waits _ hsignal => rcases hsignal with h | h <;> cases h

/-- A sorted stream fails with its input, and then nothing is left. -/
lemma of_step_eq_fail {e : ε} (h : (Flow.step s).1 = .fail e) :
    s.hasInput = true ∧ (Flow.step s.input).1 = .fail e ∧
      (Flow.step s).2.hasInput = false ∧ (Flow.step s).2.operator.held = [] := by
  have hmove := moves_step s
  rw [h] at hmove
  generalize (Flow.step s).2 = s' at hmove
  cases hmove with
  | fails hinput hheld => exact ⟨rfl, by rw [hinput], rfl, hheld⟩
  | waits _ hsignal => rcases hsignal with h | h <;> cases h

/-! ### The balance of a run -/

/-- Without an input a sorter shows what it holds. -/
lemma balance_of_hasInput_eq_false (h : Flow.Shows (Through.Below outside) s signals t)
    (hs : s.hasInput = false) : t.hasInput = false ∧ (∀ e, .fail e ∉ signals) ∧
      yields signals + t.operator.held.length = s.operator.held.length := by
  induction h with
  | refl s => exact ⟨hs, fun _ => List.not_mem_nil, Nat.zero_add _⟩
  | changed hchange _ ih =>
    cases hchange
    exact ih hs
  | asked hstep _ ih =>
    cases moves_of_step hstep with
    | shows hheld =>
      obtain ⟨ht, hfails, hbalance⟩ := ih hs
      refine ⟨ht, by simpa using hfails, ?_⟩
      simp only [yields_cons, isYield, Bool.toNat_true, hheld, List.length_cons]
      dsimp only at hbalance
      omega
    | finish hheld =>
      obtain ⟨ht, hfails, hbalance⟩ := ih hs
      refine ⟨ht, by simpa using hfails, ?_⟩
      simpa [yields_cons, isYield] using hbalance
    | takes | waits | fails | ends => cases hs

/-- While a sorter shows some signals, others are drawn from its input, which leave the input in the
state `u`. -/
structure Draws (outside : τ → τ → Prop) (s : Through (Sorter α) τ) (signals : List (Signal α ε))
    (t : Through (Sorter α) τ) (drawn : List (Signal α ε)) (u : τ) : Prop where
  shows : Flow.Shows outside s.input drawn u
  notMem : .finish ∉ drawn
  /-- No more is shown and held than was held and has been drawn. -/
  le : yields signals + t.operator.held.length ≤ s.operator.held.length + yields drawn
  /-- Nothing is lost unless there is an error. -/
  eq : (∀ e, .fail e ∉ signals) →
    yields signals + t.operator.held.length = s.operator.held.length + yields drawn
  reads : t.hasInput = true → t.input = u ∧ ∀ e, .fail e ∉ signals
  ended : t.hasInput = false → (∀ e, .fail e ∉ signals) → (Flow.step u).1 = .finish

/-- What is drawn first, and what is shown and held of it. -/
lemma Draws.prepend (h : Draws outside s' signals t drawn u) (shown first : List (Signal α ε))
    (hdrawn : ∀ {l : List (Signal α ε)}, Flow.Shows outside s'.input l u →
      Flow.Shows outside s.input (first ++ l) u)
    (hfirst : .finish ∉ first) (hshown : ∀ e, .fail e ∉ shown)
    (hbalance : yields shown + s'.operator.held.length =
      s.operator.held.length + yields first) :
    Draws outside s (shown ++ signals) t (first ++ drawn) u := by
  have hfails : (∀ e, .fail e ∉ shown ++ signals) ↔ ∀ e, .fail e ∉ signals := by
    simp [hshown]
  refine ⟨hdrawn h.shows, ?_, ?_, fun hnone => ?_, fun ht => ?_, fun ht hnone => ?_⟩
  · rw [List.mem_append]
    exact not_or.2 ⟨hfirst, h.notMem⟩
  · have hle := h.le
    rw [yields_append, yields_append]
    omega
  · have heq := h.eq (hfails.1 hnone)
    rw [yields_append, yields_append]
    omega
  · exact ⟨(h.reads ht).1, hfails.2 (h.reads ht).2⟩
  · exact h.ended ht (hfails.1 hnone)

/-- When the input fails the buffer is lost, and nothing is shown behind the error. -/
lemma draws_of_fails {op op' : Sorter α} {input input' : τ} {e : ε}
    (hinput : Flow.step input = (.fail e, input')) (hheld : op'.held = [])
    (h : Flow.Shows (Through.Below outside) ⟨op', Flow.release input', false⟩ signals t) :
    Draws outside ⟨op, input, true⟩ (.fail e :: signals) t [.fail e] input' := by
  obtain ⟨ht, -, hbalance⟩ := balance_of_hasInput_eq_false h rfl
  have hfail : ¬∀ e', .fail e' ∉ .fail e :: signals := fun hnone => hnone e List.mem_cons_self
  refine ⟨.asked hinput (.refl _), by simp, ?_, fun hnone => absurd hnone hfail, fun hreads => ?_,
    fun _ hnone => absurd hnone hfail⟩
  · rw [hheld] at hbalance
    simp only [yields_cons, isYield, Bool.toNat_true, List.length_nil] at hbalance ⊢
    omega
  · rw [ht] at hreads
    cases hreads

/-- When the input ends only what is held is left. -/
lemma draws_of_ends {op : Sorter α} {input input' : τ}
    (hinput : Flow.step input = (.finish, input'))
    (h : Flow.Shows (Through.Below outside) ⟨op, Flow.release input', false⟩ signals t) :
    Draws outside ⟨op, input, true⟩ (.again :: signals) t [] input := by
  obtain ⟨ht, -, hbalance⟩ := balance_of_hasInput_eq_false h rfl
  have heq : yields (.again :: signals) + t.operator.held.length = op.held.length := by
    rw [yields_cons, ← hbalance]
    exact congrArg (· + _) (Nat.zero_add _)
  refine ⟨.refl _, List.not_mem_nil, heq.le, fun _ => heq, fun hreads => ?_,
    fun _ _ => by rw [hinput]⟩
  rw [ht] at hreads
  cases hreads

/-- As long as a sorter has an input, all that it shows has been drawn from there or was held. -/
lemma exists_draws (h : Flow.Shows (Through.Below outside) s signals t)
    (hs : s.hasInput = true) : ∃ drawn u, Draws outside s signals t drawn u := by
  -- Each step draws one signal at most, and the rest of the run is balanced from there.
  induction h with
  | refl s =>
    refine ⟨[], s.input, .refl _, List.not_mem_nil, (Nat.add_comm _ _).le,
      fun _ => Nat.add_comm _ _, fun _ => ⟨rfl, fun _ => List.not_mem_nil⟩, fun hnone => ?_⟩
    rw [hs] at hnone
    cases hnone
  | changed hchange _ ih =>
    cases hchange with
    | input hinput =>
      obtain ⟨drawn, u, hdraws⟩ := ih hs
      exact ⟨drawn, u, hdraws.prepend [] [] (.changed hinput) List.not_mem_nil
        (fun _ => List.not_mem_nil) (Nat.add_comm _ _)⟩
  | asked hstep hrest ih =>
    cases moves_of_step hstep with
    | @shows op op' input _ a hheld =>
      obtain ⟨drawn, u, hdraws⟩ := ih hs
      refine ⟨drawn, u, hdraws.prepend [.item a] [] id List.not_mem_nil (by simp) ?_⟩
      simp only [yields_cons, yields_nil, isYield, Bool.toNat_true, hheld, List.length_cons]
      omega
    | @takes op op' input input' a hinput hlength =>
      obtain ⟨drawn, u, hdraws⟩ := ih rfl
      refine ⟨_, u, hdraws.prepend [.again] [.item a] (.asked hinput) (by simp) (by simp) ?_⟩
      simpa [yields_cons, isYield] using hlength
    | waits hinput hsignal =>
      obtain ⟨drawn, u, hdraws⟩ := ih rfl
      refine ⟨_, u, hdraws.prepend [_] [_] (.asked hinput) ?_ ?_ (Nat.add_comm _ _)⟩
      · rcases hsignal with rfl | rfl <;> simp
      · rcases hsignal with rfl | rfl <;> simp
    | fails hinput hheld => exact ⟨_, _, draws_of_fails hinput hheld hrest⟩
    | ends hinput => exact ⟨_, _, draws_of_ends hinput hrest⟩
    | finish => cases hs

/-! ### What the hint is worth -/

/-- A sorter that has an input gives the hint of the input and what it holds itself. -/
lemma sizeHint_of_reads (hs : s.hasInput = true) :
    s.sizeHint hint = (hint s.input).plus s.operator.held.length := by
  rw [Through.sizeHint, if_pos hs, Sorter.sizeHint]

lemma sizeHint_of_ended (hs : s.hasInput = false) :
    s.sizeHint hint = .exact s.operator.held.length := by
  rw [Through.sizeHint, hs, if_neg Bool.false_ne_true, Sorter.sizeHint]

/-- The upper bound is never exceeded. -/
lemma yields_le (hinput : s.hasInput = true → (hint s.input).Bounds outside s.input)
    (h : Flow.Shows (Through.Below outside) s signals t) {m : Nat}
    (hm : m ∈ (s.sizeHint hint).high) : yields signals ≤ m := by
  cases hs : s.hasInput with
  | false =>
    obtain ⟨-, -, hbalance⟩ := balance_of_hasInput_eq_false h hs
    rw [sizeHint_of_ended hs] at hm
    obtain rfl := Option.some.inj hm
    omega
  | true =>
    obtain ⟨drawn, u, hdraws⟩ := exists_draws h hs
    rw [sizeHint_of_reads hs] at hm
    have hhigh := SizeHint.le_of_mem_high_plus
      ((hinput hs).high drawn u hdraws.shows hdraws.notMem) hm
    have hle := hdraws.le
    omega

/-- A sorted stream that ends without an error has reached its lower bound. -/
lemma low_le_yields (hinput : s.hasInput = true → (hint s.input).Bounds outside s.input)
    (h : Flow.Shows (Through.Below outside) s signals t) (hend : (Flow.step t).1 = .finish)
    (hnone : ∀ e, .fail e ∉ signals) : (s.sizeHint hint).low ≤ yields signals := by
  obtain ⟨ht, hheld⟩ := of_step_eq_finish hend
  cases hs : s.hasInput with
  | false =>
    obtain ⟨-, -, hbalance⟩ := balance_of_hasInput_eq_false h hs
    rw [sizeHint_of_ended hs, SizeHint.exact, ← hbalance, hheld]
    exact le_rfl
  | true =>
    obtain ⟨drawn, u, hdraws⟩ := exists_draws h hs
    have hlow := (hinput hs).low drawn u hdraws.shows hdraws.notMem (hdraws.ended ht hnone)
    have heq := hdraws.eq hnone
    rw [hheld, List.length_nil, Nat.add_zero] at heq
    rw [sizeHint_of_reads hs, heq, Nat.add_comm]
    exact SizeHint.low_plus_le hlow

/-- An error loses what is held and what the input would still show. -/
lemma bounds_lost (hinput : s.hasInput = true → (hint s.input).Bounds outside s.input) {e : ε}
    (h : Flow.Shows (Through.Below outside) s signals t) (hfail : (Flow.step t).1 = .fail e)
    {rest : List (Signal α ε)} (hrest : Flow.Shows outside (Flow.step t.input).2 rest u)
    (hnone : .finish ∉ rest) (hend : (Flow.step u).1 = .finish) :
    let n := yields signals + 1 + t.operator.held.length + yields rest
    (s.sizeHint hint).low ≤ n ∧ ∀ m ∈ (s.sizeHint hint).high, n ≤ m := by
  obtain ⟨ht, hshown, -, -⟩ := of_step_eq_fail hfail
  cases hs : s.hasInput with
  | false =>
    rw [(balance_of_hasInput_eq_false h hs).1] at ht
    cases ht
  | true =>
    obtain ⟨drawn, v, hdraws⟩ := exists_draws h hs
    obtain ⟨rfl, hfails⟩ := hdraws.reads ht
    -- The input goes on behind the error, although the sorter has let go of it.
    have hall : Flow.Shows outside s.input (drawn ++ .fail e :: rest) u :=
      hdraws.shows.trans (.asked (Prod.ext hshown rfl) hrest)
    have hgoes : .finish ∉ drawn ++ .fail e :: rest := by
      simp [hdraws.notMem, hnone]
    have hlow := (hinput hs).low _ u hall hgoes hend
    have hhigh := (hinput hs).high _ u hall hgoes
    have heq := hdraws.eq hfails
    have hcount : yields (drawn ++ .fail e :: rest) + s.operator.held.length =
        yields signals + 1 + t.operator.held.length + yields rest := by
      rw [yields_append, yields_cons, isYield, Bool.toNat_true]
      omega
    rw [sizeHint_of_reads hs]
    dsimp only
    rw [← hcount]
    exact ⟨SizeHint.low_plus_le hlow, fun m hm => SizeHint.le_of_mem_high_plus hhigh hm⟩

/-- The hint of a sorted stream is worth as much as the hint of its input. -/
lemma hinted_of_bounds (hinput : s.hasInput = true → (hint s.input).Bounds outside s.input) :
    Hinted outside hint s where
  high _ _ h _ hm := yields_le hinput h hm
  low _ _ h hend hnone := low_le_yields hinput h hend hnone
  lost _ _ _ h hfail _ _ hrest hnone hend := bounds_lost hinput h hfail hrest hnone hend
  sharp hexact := by
    cases hs : s.hasInput with
    | false => exact ⟨_, sizeHint_of_ended hs⟩
    | true =>
      obtain ⟨n, hn, hle⟩ := hexact hs
      rw [sizeHint_of_reads hs, hn]
      exact ⟨_, SizeHint.exact_plus hle⟩
  failed _ hfail := by
    obtain ⟨-, -, hended, hheld⟩ := of_step_eq_fail hfail
    rw [sizeHint_of_ended hended, hheld, List.length_nil]
  ended hend := by
    obtain ⟨hended, hheld⟩ := of_step_eq_finish hend
    rw [sizeHint_of_ended hended, hheld, List.length_nil]

/-- The hints of the input are right as long as there is an input. -/
lemma bounds_input (hsrc : Flow.IsHinted outside hint src) {op : Sorter α}
    (h : Flow.Shows (Through.Below outside) (Through.mk op src true) signals s)
    (hs : s.hasInput = true) : (hint s.input).Bounds outside s.input := by
  obtain ⟨drawn, u, hdraws⟩ := exists_draws h rfl
  rw [(hdraws.reads hs).1]
  exact hsrc drawn u hdraws.shows

end Sorter

/-! ## Networks -/

/-! ### Sources -/

namespace Source

variable {s s' : Source α ε}

/-- A source takes cells from outside until it is closed. -/
structure Fills (s s' : Source α ε) : Prop where
  cells : s.cells <+: s'.cells
  closed : s.closed = true → s'.closed = true ∧ s'.cells = s.cells

lemma fills_push (hopen : s.closed = false) (c : Cell α ε) :
    s.Fills { s.push c with waker := none } where
  cells := List.prefix_append _ _
  closed hclosed := by
    rw [hopen] at hclosed
    cases hclosed

lemma fills_close (s : Source α ε) : s.Fills { s.close with waker := none } :=
  ⟨List.prefix_refl _, fun _ => ⟨rfl, rfl⟩⟩

lemma Fills.low_le (h : s.Fills s') : s.sizeHint.low ≤ s'.sizeHint.low :=
  h.cells.sublist.countP_le

lemma Fills.low_eq (h : s.Fills s') (hclosed : s.closed = true) :
    s.sizeHint.low = s'.sizeHint.low := by
  rw [sizeHint, sizeHint, (h.closed hclosed).2]

/-- What a source shows is no longer hinted at. -/
lemma low_step (s : Source α ε) (w : Waker) :
    s.sizeHint.low = (s.step w).1.isYield.toNat + (s.step w).2.sizeHint.low := by
  cases hc : s.cells with
  | nil =>
    cases hclosed : s.closed with
    | true => simp [step_closed hc hclosed, isYield, sizeHint]
    | false => simp [step_open hc hclosed, isYield, sizeHint]
  | cons c rest =>
    cases c with
    | item a => simp [step_item hc, isYield, sizeHint, hc, Nat.add_comm]
    | fail e => simp [step_fail hc, isYield, sizeHint, hc, Nat.add_comm]
    | pause => simp [step_pause hc, isYield, sizeHint, hc]

lemma closed_step (s : Source α ε) (w : Waker) : (s.step w).2.closed = s.closed := by
  rw [step]
  cases s.cells with
  | nil => cases hclosed : s.closed <;> rfl
  | cons c rest => cases c <;> rfl

/-- At the end of a source there is nothing to hint at. -/
lemma low_of_step_eq_finish {w : Waker} (h : (s.step w).1 = .finish) : s.sizeHint.low = 0 := by
  cases hc : s.cells with
  | nil => rw [sizeHint, hc, List.countP_nil]
  | cons c rest => cases c <;> simp [step, hc] at h

end Source

namespace Plant

variable {μ : Type}

/-- Whatever else is changed in a plant, a source only takes cells, and only until it is closed. -/
def FillsAt (id : Nat) (p p' : Plant α ε μ) : Prop :=
  ∀ s, p.sources[id]? = some s → ∃ s', p'.sources[id]? = some s' ∧ s.Fills s'

/-- Adding cells to an open source, and closing one, are such changes. -/
lemma fillsAt_fill {p : Plant α ε μ} {id : Nat} {f : Source α ε → Source α ε}
    (hf : ∀ s, p.sources[id]? = some s → s.Fills { f s with waker := none }) :
    FillsAt id p (p.fill id f) := by
  intro s hs
  refine ⟨{ f s with waker := none }, ?_, hf s hs⟩
  rw [Plant.fill, hs]
  exact List.getElem?_set_self (List.getElem?_eq_some_iff.1 hs).1

end Plant

namespace Outlet

variable {μ : Type} [Operator μ α α ε] {o o' : Outlet α ε μ} {signals : List (Signal α ε)}
  {src : Source α ε} {id : Nat} {change : Plant α ε μ → Plant α ε μ → Prop}

/-- What an outlet says of itself. -/
def sizeHint {ε μ : Type} (o : Outlet α ε μ) : SizeHint := o.stage.sizeHint o.plant

/-- The plant of an outlet is changed from outside. -/
inductive Around {ε μ : Type} (change : Plant α ε μ → Plant α ε μ → Prop) :
    Outlet α ε μ → Outlet α ε μ → Prop
  | plant {o : Outlet α ε μ} {p : Plant α ε μ} : change o.plant p →
    Around change o { o with plant := p }

lemma step_source (hstage : o.stage = .source id) (hsrc : o.plant.sources[id]? = some src) :
    Flow.step o = ((src.step o.waker).1,
      ⟨o.plant.setSource id (src.step o.waker).2, .source id, o.waker⟩) := by
  show Outlet.step _ = _
  rw [Outlet.step, Plant.step, hstage, Stage.stepWith_source hsrc]

/-- What a source shows and still holds are what it held before and what it was given. -/
lemma balance_source (h : Flow.Shows (Around (Plant.FillsAt id)) o signals o')
    (hstage : o.stage = .source id) (hsrc : o.plant.sources[id]? = some src) :
    ∃ src', o'.stage = .source id ∧ o'.plant.sources[id]? = some src' ∧
      src.sizeHint.low ≤ yields signals + src'.sizeHint.low ∧
      (src.closed = true →
        src'.closed = true ∧ src.sizeHint.low = yields signals + src'.sizeHint.low) := by
  -- The equation is lost while the source is open, when it is given more than it has hinted at.
  induction h generalizing src with
  | refl o =>
    exact ⟨src, hstage, hsrc, (Nat.zero_add _).ge, fun hclosed => ⟨hclosed, (Nat.zero_add _).symm⟩⟩
  | changed hchange _ ih =>
    cases hchange with
    | plant hfills =>
      obtain ⟨mid, hmid, hfill⟩ := hfills src hsrc
      obtain ⟨src', hstage', hsrc', hle, heq⟩ := ih hstage hmid
      refine ⟨src', hstage', hsrc', hfill.low_le.trans hle, fun hclosed => ?_⟩
      rw [hfill.low_eq hclosed]
      exact heq (hfill.closed hclosed).1
  | @asked o mid o' signal signals hstep _ ih =>
    rw [step_source hstage hsrc] at hstep
    obtain ⟨rfl, rfl⟩ := Prod.mk.inj hstep
    have hlow := src.low_step o.waker
    obtain ⟨src', hstage', hsrc', hle, heq⟩ :=
      ih rfl (List.getElem?_set_self (List.getElem?_eq_some_iff.1 hsrc).1)
    rw [yields_cons]
    refine ⟨src', hstage', hsrc', by omega, fun hclosed => ?_⟩
    obtain ⟨hclosed', heq'⟩ := heq ((src.closed_step o.waker).trans hclosed)
    exact ⟨hclosed', by omega⟩

/-- The hints of a source are right. -/
theorem isHinted_source (hstage : o.stage = .source id) (hsrc : o.plant.sources[id]? = some src) :
    Flow.IsHinted (Around (Plant.FillsAt id)) sizeHint o := by
  intro past p hpast
  obtain ⟨src₁, hstage₁, hsrc₁, -⟩ := balance_source hpast hstage hsrc
  have hhint : p.sizeHint = src₁.sizeHint := by
    rw [sizeHint, hstage₁, Stage.sizeHint, hsrc₁]
  rw [hhint]
  refine ⟨fun signals q h _ m hm => ?_, fun signals q h _ hend => ?_⟩
  · obtain ⟨src₂, -, -, -, heq⟩ := balance_source h hstage₁ hsrc₁
    cases hclosed : src₁.closed with
    | false => simp [Source.sizeHint, hclosed] at hm
    | true =>
      have hlow : m = src₁.sizeHint.low := by
        simpa [Source.sizeHint, hclosed, eq_comm] using hm
      rw [hlow, (heq hclosed).2]
      exact Nat.le_add_right _ _
  · obtain ⟨src₂, hstage₂, hsrc₂, hle, -⟩ := balance_source h hstage₁ hsrc₁
    rw [step_source hstage₂ hsrc₂] at hend
    rwa [Source.low_of_step_eq_finish hend, Nat.add_zero] at hle

/-! ### Sorters -/

/-- While a stage with an operator is asked, the operator is asked as a stream. -/
lemma Attached.shows {σ : Type} {f : σ → Op α μ} [Operator σ α α ε] (hf : Operator.Embeds α ε f)
    (hlog : ∀ s (plant : Plant α ε μ) g, plant.noteCall (f s) g = plant)
    {s : Through σ (Outlet α ε μ)} (h : Attached f s o)
    (hrun : Flow.Shows (Around change) o signals o') :
    ∃ s', Flow.Shows (Through.Below (Around change)) s signals s' ∧ Attached f s' o' := by
  induction hrun generalizing s with
  | refl o => exact ⟨s, .refl s, h⟩
  | @asked o mid o' signal signals hstep _ ih =>
    obtain ⟨hsignal, hnext⟩ := h.step hf hlog
    rw [hstep] at hsignal hnext
    obtain ⟨s', hs', hlast⟩ := ih hnext
    exact ⟨s', .asked (Prod.ext hsignal.symm rfl) hs', hlast⟩
  | changed hchange _ ih =>
    cases hchange with
    | @plant p hchange =>
      cases h with
      | operator s o =>
        obtain ⟨s', hs', hlast⟩ := ih (.operator s { o with plant := p })
        exact ⟨s', .changed (.input (.plant hchange)) hs', hlast⟩
      | drained s o _ => exact ih (.drained s o p)

omit [Operator μ α α ε] in
lemma Attached.sizeHint_eq {s : Through (Sorter α) (Outlet α ε μ)} (h : Attached Op.sort s o) :
    o.sizeHint = s.sizeHint sizeHint := by
  cases h <;> rfl

/-- In a network, too, the hints of a sorter are right unless there is an error. -/
theorem hinted_sortBy (ho : Flow.IsHinted (Around change) sizeHint o) (cmp : α → α → Ordering)
    (window : Window) (h : Flow.Shows (Around change) (o.sortBy cmp window) signals o')
    {later : List (Signal α ε)} {last : Outlet α ε μ}
    (hlater : Flow.Shows (Around change) o' later last) :
    (∀ m ∈ o'.sizeHint.high, yields later ≤ m) ∧
      ((Flow.step last).1 = .finish → (∀ e, .fail e ∉ later) →
        o'.sizeHint.low ≤ yields later) := by
  have hattached : Attached Op.sort ⟨Sorter.start cmp window, o, true⟩ (o.sortBy cmp window) :=
    .operator _ o
  obtain ⟨s, hs, hs'⟩ := hattached.shows embeds_sort (fun _ _ _ => rfl) h
  obtain ⟨t, ht, ht'⟩ := hs'.shows embeds_sort (fun _ _ _ => rfl) hlater
  have hinput := Sorter.bounds_input ho hs
  rw [hs'.sizeHint_eq]
  refine ⟨fun m hm => Sorter.yields_le hinput ht hm, fun hend hnone => ?_⟩
  refine Sorter.low_le_yields hinput ht ?_ hnone
  rw [← (ht'.step embeds_sort fun _ _ _ => rfl).1, hend]

end Outlet

/-! ## Runs of sorted streams -/

namespace Sorter

/-- **Size hints of sorted streams.**  If the hints of a stream are right, then in every state that
the sorted stream reaches its upper bound is right, and so is its lower bound unless there is an
error, which loses some of what has been counted. -/
theorem hinted_run [Flow τ α ε] {outside : τ → τ → Prop} {hint : τ → SizeHint} {src : τ}
    {signals : List (Signal α ε)} {s : Through (Sorter α) τ}
    (hsrc : Flow.IsHinted outside hint src) (cmp : α → α → Ordering) (window : Window)
    (h : Flow.Shows (Through.Below outside) (Through.start (Sorter.start cmp window) src true)
      signals s) : Hinted outside hint s :=
  hinted_of_bounds fun hs => bounds_input hsrc h hs

/-- A sorter with a window of one on a source that is still open. -/
def openSorter : Through (Sorter Nat) (Outlet Nat String Empty) :=
  .start (.start Ord.compare (some ⟨1, by decide⟩))
    ⟨⟨[.start [.item 2, .pause] false], [], [], []⟩, .source 0, ""⟩ true

/-- The same sorter behind the first item.  The source has been given another one and closed. -/
def filledSorter : Through (Sorter Nat) (Outlet Nat String Empty) :=
  ⟨.start Ord.compare (some ⟨1, by decide⟩),
    ⟨⟨[⟨[.item 1], true, 2, true, none⟩], [], [], [""]⟩, .source 0, ""⟩, true⟩

/-- A sorter shows an item and waits until its source has been filled and closed.  Then one item is
hinted at and shown. -/
theorem hinted_run_sample :
    Flow.IsHinted (Outlet.Around (Plant.FillsAt 0)) Outlet.sizeHint openSorter.input ∧
      Flow.Shows (Through.Below (Outlet.Around (Plant.FillsAt 0))) openSorter
        [.again, .item 2, .pending] filledSorter ∧
      Hinted (Outlet.Around (Plant.FillsAt 0)) Outlet.sizeHint filledSorter ∧
      filledSorter.sizeHint Outlet.sizeHint = .exact 1 ∧
      ∃ t, Flow.Shows (Through.Below (Outlet.Around (Plant.FillsAt 0))) filledSorter
        [.again, .item 1, .again] t ∧ (Flow.step t).1 = .finish := by
  have hhinted : Flow.IsHinted (Outlet.Around (Plant.FillsAt 0)) Outlet.sizeHint
      openSorter.input := Outlet.isHinted_source rfl rfl
  have hfilled : Flow.Shows (Through.Below (Outlet.Around (Plant.FillsAt 0))) openSorter
      [.again, .item 2, .pending] filledSorter := by
    refine .asked rfl (.asked rfl (.asked rfl ?_))
    refine .changed (.input (.plant
      (Plant.fillsAt_fill (f := (·.push (.item 1))) fun s hs => ?_))) ?_
    · cases hs
      exact Source.fills_push rfl _
    · exact .changed (.input (.plant
        (Plant.fillsAt_fill (f := (·.close)) fun s _ => s.fills_close))) (.refl _)
  exact ⟨hhinted, hfilled, hinted_run hhinted _ _ hfilled, rfl,
    _, .asked rfl (.asked rfl (.asked rfl (.refl _))), rfl⟩

/-- A sorter on a source that fails behind an item. -/
def failingSorter : Through (Sorter Nat) (Outlet Nat String Empty) :=
  .start (.start Ord.compare none)
    ⟨⟨[.start [.item 2, .pause, .fail "late"] true], [], [], []⟩, .source 0, ""⟩ true

/-- A sorter that waits with an item in its buffer, before an error.  Two are hinted at, of which
only the error is shown. -/
theorem hinted_run_lost :
    Flow.IsHinted (Outlet.Around (Plant.FillsAt 0)) Outlet.sizeHint failingSorter.input ∧
      (∃ s t, Flow.Shows (Through.Below (Outlet.Around (Plant.FillsAt 0))) failingSorter
          [.again, .pending] s ∧
        s.sizeHint Outlet.sizeHint = .exact 2 ∧
        Flow.Shows (Through.Below (Outlet.Around (Plant.FillsAt 0))) s [.fail "late"] t ∧
        (Flow.step t).1 = .finish) ∧
      ¬Flow.IsHinted (Through.Below (Outlet.Around (Plant.FillsAt 0)))
        (Through.sizeHint Outlet.sizeHint) failingSorter := by
  have hlost : ∃ s t, Flow.Shows (Through.Below (Outlet.Around (Plant.FillsAt 0))) failingSorter
      [.again, .pending] s ∧ s.sizeHint Outlet.sizeHint = .exact 2 ∧
      Flow.Shows (Through.Below (Outlet.Around (Plant.FillsAt 0))) s [.fail "late"] t ∧
      (Flow.step t).1 = .finish :=
    ⟨_, _, .asked rfl (.asked rfl (.refl _)), rfl, .asked rfl (.refl _), rfl⟩
  refine ⟨Outlet.isHinted_source rfl rfl, hlost, fun hhinted => ?_⟩
  obtain ⟨s, t, hs, hhint, ht, hend⟩ := hlost
  have hlow := (hhinted _ s hs).low _ t ht (by simp) hend
  rw [hhint] at hlow
  exact absurd hlow (by decide)

end Sorter

end SparqlStream
