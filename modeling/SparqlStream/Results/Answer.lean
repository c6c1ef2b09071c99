import SparqlStream.Stream.Signal

/-!
# Yes or no

Answers whether a stream shows an item.  The stream is let go of as soon as the answer is known.
-/

namespace SparqlStream

/-- Answers whether its input shows an item. -/
structure HasItem where
  deriving Repr

namespace HasItem

variable {α ε : Type}

/-- The answer to a signal. -/
def react (s : HasItem) : Signal α ε → Reaction HasItem Bool ε
  | .item _ => .close s (.item true)
  | .fail e => .close s (.fail e)
  | .finish => .close s (.item false)
  | .pending => .keep s .pending
  | .again => .keep s .again

instance : Operator HasItem α Bool ε where
  idle _ _ := none
  react := react

end HasItem

end SparqlStream
