import Mathlib.Tactic
import SparqlStream.Stream.Stage
import SparqlStream.Proofs.Hub

/-!
# Reading from a hub and leaving it

One equation for each way in which a branch can read its hub, and for the two ways in which it
can leave it.  What follows about plants uses these equations and not the definitions of
`Plant.read` and `Plant.leave`.
-/

namespace SparqlStream
namespace Plant

variable {α ε μ : Type}

/-! ## Parts of a changed plant -/

section Parts

variable (p : Plant α ε μ) (i : Nat)

@[simp] lemma setHub_hubs (h : Hub α (Stage α μ)) : (p.setHub i h).hubs = p.hubs.set i h := rfl

@[simp] lemma setHub_sources (h : Hub α (Stage α μ)) : (p.setHub i h).sources = p.sources := rfl

@[simp] lemma setSource_hubs (s : Source α ε) : (p.setSource i s).hubs = p.hubs := rfl

@[simp] lemma setSource_sources (s : Source α ε) :
    (p.setSource i s).sources = p.sources.set i s := rfl

@[simp] lemma wake_hubs (ws : List Waker) : (p.wake ws).hubs = p.hubs := rfl

@[simp] lemma wake_sources (ws : List Waker) : (p.wake ws).sources = p.sources := rfl

end Parts

end Plant

/-! ## Sources -/

namespace Source

variable {α ε : Type} {s : Source α ε} {w : Waker} {rest : List (Cell α ε)}

lemma step_item {a : α} (hc : s.cells = .item a :: rest) :
    s.step w = (.item a, { s with asked := s.asked + 1, cells := rest }) := by
  simp only [step, hc]

lemma step_fail {e : ε} (hc : s.cells = .fail e :: rest) :
    s.step w = (.fail e, { s with asked := s.asked + 1, cells := rest }) := by
  simp only [step, hc]

lemma step_pause (hc : s.cells = .pause :: rest) :
    s.step w = (.pending, { s with asked := s.asked + 1, cells := rest, waker := some w }) := by
  simp only [step, hc]

lemma step_closed (hc : s.cells = []) (hclosed : s.closed = true) :
    s.step w = (.finish, { s with asked := s.asked + 1 }) := by
  simp only [step, hc, hclosed, if_true]

lemma step_open (hc : s.cells = []) (hopen : s.closed = false) :
    s.step w = (.pending, { s with asked := s.asked + 1, waker := some w }) := by
  simp only [step, hc, hopen, Bool.false_eq_true, if_false]

/-- A source loses cells from the front only, and shows the error among them. -/
lemma exists_taken (s : Source α ε) (w : Waker) :
    ∃ taken, s.cells = taken ++ (s.step w).2.cells ∧
      ∀ e, .fail e ∈ taken → (s.step w).1 = .fail e := by
  cases hc : s.cells with
  | nil =>
    refine ⟨[], ?_, fun _ he => by cases he⟩
    cases hclosed : s.closed with
    | true => rw [step_closed hc hclosed, hc, List.append_nil]
    | false => rw [step_open hc hclosed, hc, List.append_nil]
  | cons c rest =>
    refine ⟨[c], ?_, fun e he => ?_⟩
    · cases c with
      | item a => rw [step_item hc, List.singleton_append]
      | fail e => rw [step_fail hc, List.singleton_append]
      | pause => rw [step_pause hc, List.singleton_append]
    · obtain rfl := List.mem_singleton.1 he
      rw [step_fail hc]

end Source

namespace Stage

variable {α ε μ : Type} {leave : Plant α ε μ → Nat → Nat → Plant α ε μ} {p : Plant α ε μ}
  {id : Nat} {s : Source α ε}

lemma releaseWith_source (hs : p.sources[id]? = some s) :
    releaseWith leave p (.source id) = p.setSource id { s with isLive := false } := by
  simp only [releaseWith, hs]

section Step

variable [Operator μ α α ε] {read : Plant α ε μ → Nat → Nat → Signal α ε × Plant α ε μ} {w : Waker}

lemma stepWith_source (hs : p.sources[id]? = some s) :
    stepWith read leave w p (.source id) =
      ((s.step w).1, .source id, p.setSource id (s.step w).2) := by
  simp only [stepWith, hs]

/-- Asking one of some stages asks that one. -/
lemma stepAtWith_append (before after : List (Stage α μ)) (s : Stage α μ) :
    stepAtWith read leave w p before.length (before ++ s :: after) =
      ((stepWith read leave w p s).1, before ++ (stepWith read leave w p s).2.1 :: after,
        (stepWith read leave w p s).2.2) := by
  induction before with
  | nil => rfl
  | cons s' before ih => rw [List.length_cons, List.cons_append, stepAtWith, ih, List.cons_append]

/-- The input of a union whose turn it is, and those before and after it. -/
lemma exists_asked (round : Round) {inputs : List (Stage α μ)} (hne : inputs ≠ []) :
    ∃ before s after, inputs = before ++ s :: after ∧
      before.length = round.asked (before ++ s :: after).length := by
  have hturn : round.asked inputs.length < inputs.length := by
    have hpos := List.length_pos_iff.2 hne
    unfold Round.asked
    split <;> assumption
  have hsplit : inputs = inputs.take (round.asked inputs.length) ++
      inputs[round.asked inputs.length] :: inputs.drop (round.asked inputs.length + 1) := by
    rw [← List.drop_eq_getElem_cons hturn, List.take_append_drop]
  refine ⟨_, _, _, hsplit, ?_⟩
  rw [← hsplit, List.length_take_of_le hturn.le]

/-- What a union makes of its inputs, of which one has been asked. -/
def settleUnion (leave : Plant α ε μ → Nat → Nat → Plant α ε μ) (p : Plant α ε μ)
    (before : List (Stage α μ)) (s : Stage α μ) (after : List (Stage α μ)) :
    Round.Effect → List (Stage α μ) × Plant α ε μ
  | .keepAll => (before ++ s :: after, p)
  | .dropAsked => (before ++ after, releaseAllWith leave p [s])
  | .dropAll => ([], releaseAllWith leave p (before ++ s :: after))

/-- A union asks the input whose turn it is. -/
lemma stepWith_union {before after : List (Stage α μ)} {s s' : Stage α μ} {round : Round}
    {signal : Signal α ε} {p' : Plant α ε μ}
    (hturn : before.length = round.asked (before ++ s :: after).length)
    (hs : stepWith read leave w p s = (signal, s', p')) :
    stepWith read leave w p (.union (before ++ s :: after) round) =
      let out : Round.Outcome α ε := round.react (before ++ s :: after).length signal
      let settled := settleUnion leave p' before s' after out.effect
      (out.shows, .union settled.1 out.round, settled.2) := by
  have herase : (before ++ s' :: after).eraseIdx before.length = before ++ after := by
    rw [List.eraseIdx_append_of_length_le le_rfl, Nat.sub_self, List.eraseIdx_cons_zero]
  have hasked : (before ++ s' :: after)[before.length]?.toList = [s'] := by
    rw [List.getElem?_append_right le_rfl, Nat.sub_self]
    rfl
  have hne : (before ++ s :: after).isEmpty = false := by simp
  simp only [stepWith, hne, Bool.false_eq_true, if_false, ← hturn, stepAtWith_append, hs, herase,
    hasked]
  cases (round.react (before ++ s :: after).length signal).effect <;> rfl

end Step

end Stage

namespace Plant

variable {α ε μ : Type}

/-! ## Leaving -/

section Leave

variable {p : Plant α ε μ} {hub slot depth : Nat} {h : Hub α (Stage α μ)}

/-- A branch that is not the last one only gives up its position. -/
lemma leave_of_keeps (hh : p.hubs[hub]? = some h) (hin : (h.drop slot).input = h.input) :
    p.leave (depth + 1) hub slot =
      (p.setHub hub ((h.drop slot).forgetOthers slot)).wake ((h.drop slot).otherWakers slot) := by
  cases hcase : h.input with
  | none => simp only [leave, hh, hcase]
  | some below => simp only [leave, hh, hin, hcase]

/-- The last branch lets go of the stage below the hub. -/
lemma leave_of_last {below : Stage α μ} (hh : p.hubs[hub]? = some h) (hin : h.input = some below)
    (hlast : (h.drop slot).input = none) :
    p.leave (depth + 1) hub slot =
      (below.releaseWith (leave depth) (p.setHub hub ((h.drop slot).forgetOthers slot))).wake
        ((h.drop slot).otherWakers slot) := by
  simp only [leave, hh, hin, hlast]

end Leave

/-! ## Reading -/

section Read

variable [Operator μ α α ε] {p p' : Plant α ε μ} {hub slot depth position : Nat}
  {h : Hub α (Stage α μ)} {w : Waker} {below below' : Stage α μ} {a : α}

lemma read_buffered (hh : p.hubs[hub]? = some h) (hp : h.position? slot = some position)
    (ha : h.itemAt? position = some a) :
    p.read w (depth + 1) hub slot = (.item a, p.setHub hub (h.advance slot position)) := by
  simp only [read, hh, hp, ha]

lemma read_gone (hh : p.hubs[hub]? = some h) (hp : h.position? slot = some position)
    (ha : h.itemAt? position = none) (hin : h.input = none) :
    p.read w (depth + 1) hub slot = (.finish, p) := by
  simp only [read, hh, hp, ha, hin]

section Below

variable (hh : p.hubs[hub]? = some h) (hp : h.position? slot = some position)
  (ha : h.itemAt? position = none) (hin : h.input = some below)

include hh hp ha hin

lemma read_again (hs : below.stepWith (read w depth) (leave depth) w p = (.again, below', p')) :
    p.read w (depth + 1) hub slot = (.again, p'.setHub hub { h with input := some below' }) := by
  simp only [read, hh, hp, ha, hin, hs]

lemma read_pending (hs : below.stepWith (read w depth) (leave depth) w p = (.pending, below', p')) :
    p.read w (depth + 1) hub slot =
      (.pending, p'.setHub hub (Hub.leaveWaker { h with input := some below' } slot w)) := by
  simp only [read, hh, hp, ha, hin, hs, read.leaveWaker]

lemma read_item (hs : below.stepWith (read w depth) (leave depth) w p = (.item a, below', p')) :
    p.read w (depth + 1) hub slot =
      (.item a,
        (p'.setHub hub
          ((Hub.deliver { h with input := some below' } slot position a).forgetOthers slot)).wake
            ((Hub.deliver { h with input := some below' } slot position a).otherWakers slot)) := by
  simp only [read, hh, hp, ha, hin, hs]

lemma read_fail {e : ε}
    (hs : below.stepWith (read w depth) (leave depth) w p = (.fail e, below', p')) :
    p.read w (depth + 1) hub slot = (.fail e, read.endHub depth p' hub h below' slot) := by
  simp only [read, hh, hp, ha, hin, hs]

lemma read_finish (hs : below.stepWith (read w depth) (leave depth) w p = (.finish, below', p')) :
    p.read w (depth + 1) hub slot = (.finish, read.endHub depth p' hub h below' slot) := by
  simp only [read, hh, hp, ha, hin, hs]

end Below

end Read

/-- When its source has ended or failed, a hub lets go of it and wakes the others. -/
lemma endHub_eq {p : Plant α ε μ} {hub slot depth : Nat} {h : Hub α (Stage α μ)}
    {below : Stage α μ} : read.endHub depth p hub h below slot =
      (below.releaseWith (leave depth) (p.setHub hub (h.ended slot))).wake
        (h.otherWakers slot) := rfl

end Plant
end SparqlStream
