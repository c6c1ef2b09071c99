import SparqlStream.Stream.Digest
import SparqlStream.Stream.Signal

/-!
# Distinct items

Keeps an item unless one with the same key has been shown before.  Only the digests of the keys are
remembered, so items of different keys with one digest count as repetitions.  The first error or
end of the input ends the stream.
-/

namespace SparqlStream

/-- Removes repetitions of items.  `seen` holds the digests of the keys. -/
structure Distinct (α : Type) where
  key : α → String
  seen : List String

namespace Distinct

variable {α ε : Type}

/-- Nothing has been shown yet. -/
def start (key : α → String) : Distinct α := ⟨key, []⟩

/-- Remembers the key of an item, if it is new. -/
def accept (d : Distinct α) (a : α) : Option (Distinct α) :=
  let digest := sha1 (d.key a)
  if d.seen.contains digest then none else some { d with seen := digest :: d.seen }

/-- How the operator reacts to its input. -/
def react (d : Distinct α) : Signal α ε → Reaction (Distinct α) α ε
  | .item a =>
    match d.accept a with
    | some d => .keep d (.item a)
    | none => .keep d .again
  | .fail e => .close d (.fail e)
  | .finish => .close d .finish
  | .pending => .keep d .pending
  | .again => .keep d .again

instance : Operator (Distinct α) α α ε where
  idle _ _ := none
  react := react

end Distinct

end SparqlStream
