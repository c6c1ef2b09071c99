import Mathlib.Tactic
import SparqlStream.Proofs.Attachment
import SparqlStream.Proofs.Replay
import SparqlStream.Proofs.Spent

/-!
# An operator on its source

An intake is an operator on a source that is filled and closed from outside while the operator is
polled, together with what polls have shown and how many items had been pulled then.  What holds
after every run of an intake is said by the modules of the operators.

An operator that does nothing of its own asks the source once in each step, and either keeps it or
lets go of it.  One that has let go of it leaves the plant as it is from then on.
-/

namespace SparqlStream

variable {α ε : Type}

/-- Whether a signal says that the stream has to wait. -/
def Signal.isPending : Signal α ε → Bool
  | pending => true
  | _ => false

lemma Cell.items_isPrefix {given taken rest : List (Cell α ε)} (hgiven : given = taken ++ rest) :
    items taken <+: items given := by
  rw [hgiven, items_append]
  exact List.prefix_append _ _

/-! ## Polls, pushes and closing -/

/-- What is done to an operator or to its source. -/
inductive IntakeEvent (α ε : Type) where
  | poll (w : Waker) (limit : Nat)
  | push (c : Cell α ε)
  | close

/-- An operator on a source, the cells that the source has been given while it was read, and what
has been shown.  Next to each signal stands how many items had been pulled then. -/
structure Intake (α ε : Type) where
  plant : Plant α ε Empty
  stage : Stage α Empty
  given : List (Cell α ε)
  log : List (Signal α ε × Nat)

namespace Intake

/-- The items of the source. -/
def items (r : Intake α ε) : List α := Cell.items r.given

/-- The cells that the source still holds. -/
def left (r : Intake α ε) : List (Cell α ε) := r.plant.sources.flatMap (·.cells)

/-- The items that have been pulled from the source. -/
def pulled (r : Intake α ε) : List α :=
  Cell.items (r.given.take (r.given.length - r.left.length))

/-- The items that have been shown, each with the number of items that had been pulled then. -/
def emissions (r : Intake α ε) : List (α × Nat) :=
  r.log.filterMap fun (signal, n) => signal.item?.map (·, n)

/-- Whether an error has been shown. -/
def HasFailed (r : Intake α ε) : Prop := ∃ e n, (Signal.fail e, n) ∈ r.log

/-- Whether the operator still reads its source. -/
def isRead (r : Intake α ε) : Bool := r.plant.sources.any (·.isLive)

/-- What an event does.  A source that has been let go of takes no cells. -/
def act (r : Intake α ε) : IntakeEvent α ε → Intake α ε
  | .poll w limit =>
    let (signal, o) := Flow.poll limit (Outlet.mk r.plant r.stage w)
    let after := { r with plant := o.plant, stage := o.stage }
    { after with log := r.log ++ [(signal, after.pulled.length)] }
  | .push c =>
    if r.isRead then { r with plant := r.plant.fill 0 (·.push c), given := r.given ++ [c] } else r
  | .close => { r with plant := r.plant.fill 0 (·.close) }

/-- What some events do, one after another. -/
def run (r : Intake α ε) (events : List (IntakeEvent α ε)) : Intake α ε := events.foldl act r

/-! ## What is seen from outside -/

/-- What the polls have shown. -/
def signals (r : Intake α ε) : List (Signal α ε) := r.log.map Prod.fst

/-- The items that have been shown. -/
def emitted (r : Intake α ε) : List α := r.emissions.map Prod.fst

/-- The errors that have been shown. -/
def errors (r : Intake α ε) : List ε := r.signals.filterMap Signal.error?

/-- How many polls have had to wait. -/
def waits (r : Intake α ε) : Nat := r.signals.countP Signal.isPending

/-- The cells that the source has given away. -/
def taken (r : Intake α ε) : List (Cell α ε) := r.given.take (r.given.length - r.left.length)

/-- How often the source has been asked. -/
def asked (r : Intake α ε) : Nat := (r.plant.sources.map (·.asked)).sum

/-- Whether no more cells will come. -/
def isClosed (r : Intake α ε) : Bool := r.plant.sources.all (·.closed)

section Views

variable {r : Intake α ε} {src : Source α ε} {woken : List Waker}

lemma emitted_eq (r : Intake α ε) : r.emitted = r.signals.filterMap Signal.item? := by
  rw [emitted, emissions, signals, List.map_filterMap, List.filterMap_map]
  refine List.filterMap_congr fun (signal, n) _ => ?_
  cases h : signal.item? <;> simp [h]

lemma left_eq (hplant : r.plant = ⟨[src], [], [], woken⟩) : r.left = src.cells := by
  rw [left, hplant, List.flatMap_singleton]

lemma isRead_eq (hplant : r.plant = ⟨[src], [], [], woken⟩) : r.isRead = src.isLive := by
  rw [isRead, hplant, List.any_cons, List.any_nil, Bool.or_false]

lemma asked_eq (hplant : r.plant = ⟨[src], [], [], woken⟩) : r.asked = src.asked := by
  rw [asked, hplant, List.map_singleton, List.sum_singleton]

lemma isClosed_eq (hplant : r.plant = ⟨[src], [], [], woken⟩) : r.isClosed = src.closed := by
  rw [isClosed, hplant, List.all_cons, List.all_nil, Bool.and_true]

/-- The cells that have been taken are those that the source does not hold. -/
lemma taken_eq {taken : List (Cell α ε)} (hplant : r.plant = ⟨[src], [], [], woken⟩)
    (hgiven : r.given = taken ++ src.cells) : r.taken = taken := by
  rw [Intake.taken, left_eq hplant, hgiven, List.length_append, Nat.add_sub_cancel, List.take_left]

lemma pulled_eq {taken : List (Cell α ε)} (hplant : r.plant = ⟨[src], [], [], woken⟩)
    (hgiven : r.given = taken ++ src.cells) : r.pulled = Cell.items taken :=
  congrArg Cell.items (taken_eq hplant hgiven)

end Views

/-! ## What is given comes first -/

lemma pulled_isPrefix (r : Intake α ε) : r.pulled <+: r.items :=
  Cell.items_isPrefix (List.take_append_drop _ r.given).symm

/-- The items that the source has been given at some time are still its items later. -/
lemma items_act_isPrefix (r : Intake α ε) (e : IntakeEvent α ε) : r.items <+: (r.act e).items := by
  cases e with
  | poll w limit => exact List.prefix_refl _
  | close => exact List.prefix_refl _
  | push c =>
    rw [act]
    split
    · exact Cell.items_isPrefix rfl
    · exact List.prefix_refl _

lemma items_run_isPrefix (r : Intake α ε) (events : List (IntakeEvent α ε)) :
    r.items <+: (r.run events).items := by
  induction events generalizing r with
  | nil => exact List.prefix_refl _
  | cons e events ih => exact (r.items_act_isPrefix e).trans (ih (r.act e))

end Intake

/-! ## Steps of an operator on its source -/

namespace Outlet

variable {src src' : Source α ε} {woken : List Waker} {w : Waker} {signal : Signal α ε}
  {op : Op α Empty}

/-- An operator that does nothing of its own reacts to its source. -/
lemma step_reads (hidle : (op.idle true : Option (Reaction (Op α Empty) α ε)) = none)
    (hsrc : src.step w = (signal, src')) :
    let r : Reaction (Op α Empty) α ε := op.react signal
    Flow.step (Outlet.mk ⟨[src], [], [], woken⟩ (.operator op (.source 0)) w) =
      (r.shows, if r.keepsInput then
          ⟨⟨[src'], [], [], woken⟩, .operator r.state (.source 0), w⟩
        else ⟨⟨[{ src' with isLive := false }], [], [], woken⟩, .drained r.state, w⟩) := by
  intro r
  show Outlet.step _ = _
  simp only [Outlet.step, Plant.step, Stage.stepWith, hidle, List.getElem?_cons_zero, hsrc,
    Plant.noteCall_eq, Stage.settleWith]
  split <;> rfl

/-- An operator that does nothing of its own and has let go of its source has ended. -/
lemma step_drained {plant : Plant α ε Empty}
    (hidle : (op.idle false : Option (Reaction (Op α Empty) α ε)) = none) :
    Flow.step (Outlet.mk plant (.drained op) w) = (.finish, ⟨plant, .drained op, w⟩) := by
  show Outlet.step _ = _
  simp only [Outlet.step, Plant.step, Stage.stepWith, hidle]

end Outlet

end SparqlStream
