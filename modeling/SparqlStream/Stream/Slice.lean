import SparqlStream.Stream.Signal

/-!
# Slices

Drops the first items and shows at most a given number of the others.  The input is let go of
together with the last item that is shown, so it is not asked for more than it has to give.
-/

namespace SparqlStream

/-- How many items are still to be dropped, and how many may still be shown. -/
structure Slice where
  toSkip : Nat
  left : Option Nat
  deriving DecidableEq, Repr

namespace Slice

variable {α ε : Type}

/-- Whether a slice needs its input from the beginning. -/
def needsInput (s : Slice) : Bool := s.left != some 0

/-- How a slice reacts to its input. -/
def react (s : Slice) : Signal α ε → Reaction Slice α ε
  | .item a =>
    match s.toSkip, s.left with
    | n + 1, _ => .keep { s with toSkip := n } .again
    | 0, none => .keep s (.item a)
    | 0, some left =>
      let s := { s with left := some (left - 1) }
      if left ≤ 1 then .close s (.item a) else .keep s (.item a)
  | .fail e => .close s (.fail e)
  | .finish => .close s .finish
  | .pending => .keep s .pending
  | .again => .keep s .again

instance : Operator Slice α α ε where
  idle _ _ := none
  react := react

end Slice

end SparqlStream
