import SparqlStream.Stream.Signal

/-!
# Unions

Merges streams by taking turns.  Each time the union is asked it goes once round its inputs,
beginning with the one whose turn it is, until one of them shows an item.  An input that has
ended leaves the round.  An error of any input ends the union.
-/

namespace SparqlStream

/-- Whose turn it is, and how many inputs are still to be asked before the union has to wait.
The second number is missing between two rounds. -/
structure Round where
  turn : Nat
  left : Option Nat
  deriving DecidableEq, Repr

namespace Round

/-- The first input begins. -/
def start : Round := ⟨0, none⟩

/-- The input to ask next, of `count` inputs. -/
def asked (r : Round) (count : Nat) : Nat := if r.turn < count then r.turn else 0

/-- How many inputs are still to be asked, the next one included. -/
def remaining (r : Round) (count : Nat) : Nat := r.left.getD count

/-- What happens to the inputs after one of them has been asked. -/
inductive Effect where
  | keepAll
  | dropAsked
  | dropAll
  deriving DecidableEq, Repr

/-- How a union reacts to one of its inputs. -/
structure Outcome (α ε : Type) where
  round : Round
  shows : Signal α ε
  effect : Effect

variable {α ε : Type}

/-- The union waits or goes on to the next input. -/
def nextTurn (turn left : Nat) : Round × Signal α ε :=
  if left ≤ 1 then (⟨turn, none⟩, .pending) else (⟨turn, some (left - 1)⟩, .again)

/-- How a union of `count` inputs reacts to the signal of the one that was asked. -/
def react (r : Round) (count : Nat) : Signal α ε → Outcome α ε
  | .item a => ⟨⟨(r.asked count + 1) % count, none⟩, .item a, .keepAll⟩
  | .fail e => ⟨start, .fail e, .dropAll⟩
  | .finish =>
    if count ≤ 1 then ⟨start, .finish, .dropAsked⟩
    else
      let (round, shown) := nextTurn (r.asked count) (r.remaining count)
      ⟨round, shown, .dropAsked⟩
  | .pending =>
    let (round, shown) := nextTurn (r.asked count + 1) (r.remaining count)
    ⟨round, shown, .keepAll⟩
  | .again => ⟨⟨r.asked count, some (r.remaining count)⟩, .again, .keepAll⟩

end Round

end SparqlStream
