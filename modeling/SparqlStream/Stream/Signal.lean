/-!
# Streams, one step at a time

A stream is asked for its next item again and again.  Each time it does a bounded amount of work
and shows a signal: an item, an error, its end, that it has to wait for something outside, or
that it is still working and should be asked again at once.

An operator turns what its input shows into signals of its own.  It says what it can show without
asking its input, how it reacts to a signal of the input, and when it lets go of its input for
good.  Operators do not loop: an operator that swallows an item shows `again`, so that no step
depends on how many items the input holds.

`Through` puts an operator on top of a stream, and `Flow.poll` asks a stream until it shows
something other than `again`.
-/

namespace SparqlStream

/-- What a stream shows when it is asked once. -/
inductive Signal (α ε : Type) where
  | item (a : α)
  | fail (e : ε)
  | finish
  | pending
  | again
  deriving DecidableEq, Repr

namespace Signal

variable {α β ε : Type}

/-- The same signal with another item. -/
def map (f : α → β) : Signal α ε → Signal β ε
  | item a => item (f a)
  | fail e => fail e
  | finish => finish
  | pending => pending
  | again => again

/-- Whether the stream has shown something, so that asking it is over. -/
def isSettled : Signal α ε → Bool
  | again => false
  | _ => true

end Signal

/-- What an operator does when it is asked: its next state, what it shows, and whether it keeps its
input. -/
structure Reaction (σ β ε : Type) where
  state : σ
  shows : Signal β ε
  keepsInput : Bool

namespace Reaction

variable {σ β ε : Type}

/-- Shows something and keeps the input. -/
def keep (s : σ) (shown : Signal β ε) : Reaction σ β ε := ⟨s, shown, true⟩

/-- Shows something and lets go of the input. -/
def close (s : σ) (shown : Signal β ε) : Reaction σ β ε := ⟨s, shown, false⟩

/-- The same reaction of an operator with other states. -/
def map {σ' : Type} (f : σ → σ') (r : Reaction σ β ε) : Reaction σ' β ε :=
  ⟨f r.state, r.shows, r.keepsInput⟩

end Reaction

/-- An operator with states `σ` that makes a stream of `β` from a stream of `α`. -/
class Operator (σ α : Type) (β : outParam Type) (ε : Type) where
  /-- What the operator does without asking its input.  An operator that has let go of its input
  and does nothing has ended. -/
  idle : σ → (hasInput : Bool) → Option (Reaction σ β ε)
  /-- How the operator reacts to its input. -/
  react : σ → Signal α ε → Reaction σ β ε

/-- Streams with states `τ`. -/
class Flow (τ : Type) (α ε : outParam Type) where
  /-- Asks the stream once. -/
  step : τ → Signal α ε × τ
  /-- Lets go of the stream, which is not asked any more. -/
  release : τ → τ

/-- A stream below an operator.  A stream that the operator has let go of stays visible. -/
structure Through (σ τ : Type) where
  operator : σ
  input : τ
  hasInput : Bool

namespace Through

variable {σ τ α β ε : Type} [Operator σ α β ε] [Flow τ α ε]

/-- An operator on top of a stream, which is let go of at once if the operator does not need it. -/
def start (op : σ) (input : τ) (needsInput : Bool) : Through σ τ :=
  ⟨op, if needsInput then input else Flow.release input, needsInput⟩

/-- The operator after it has done something. -/
def settle (r : Reaction σ β ε) (input : τ) (hasInput : Bool) : Signal β ε × Through σ τ :=
  let input := if hasInput && !r.keepsInput then Flow.release input else input
  (r.shows, ⟨r.state, input, hasInput && r.keepsInput⟩)

/-- Asks an operator once. -/
def step (s : Through σ τ) : Signal β ε × Through σ τ :=
  match (Operator.idle α s.operator s.hasInput : Option (Reaction σ β ε)) with
  | some r => settle r s.input s.hasInput
  | none =>
    if s.hasInput then
      let (signal, input) := Flow.step s.input
      settle (Operator.react s.operator signal) input true
    else (.finish, s)

/-- Lets go of an operator and its input. -/
def release (s : Through σ τ) : Through σ τ :=
  if s.hasInput then { s with input := Flow.release s.input, hasInput := false } else s

instance : Flow (Through σ τ) β ε where
  step := step
  release := release

end Through

namespace Flow

variable {τ α ε : Type} [Flow τ α ε]

/-- Asks a stream until it shows something other than `again`, at most `limit` times. -/
def poll (limit : Nat) (s : τ) : Signal α ε × τ :=
  match limit with
  | 0 => (.again, s)
  | limit + 1 =>
    match Flow.step s with
    | (.again, s) => poll limit s
    | settled => settled

end Flow

/-! ## Lists as streams -/

/-- An entry of a prepared stream: an item, an error, or a place where it waits once. -/
inductive Cell (α ε : Type) where
  | item (a : α)
  | fail (e : ε)
  | pause
  deriving DecidableEq, Repr

/-- A prepared stream that goes on after errors. -/
structure Prepared (α ε : Type) where
  cells : List (Cell α ε)

namespace Prepared

variable {α ε : Type}

def step (s : Prepared α ε) : Signal α ε × Prepared α ε :=
  match s.cells with
  | [] => (.finish, s)
  | .item a :: rest => (.item a, ⟨rest⟩)
  | .fail e :: rest => (.fail e, ⟨rest⟩)
  | .pause :: rest => (.pending, ⟨rest⟩)

instance : Flow (Prepared α ε) α ε where
  step := step
  release := id

end Prepared

end SparqlStream
