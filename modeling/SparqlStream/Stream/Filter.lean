import SparqlStream.Stream.Signal

/-!
# Filters

Keeps the items that satisfy a condition.  The first error or end of the input ends the stream.
-/

namespace SparqlStream

/-- A filter. -/
structure Filter (α : Type) where
  keeps : α → Bool

namespace Filter

variable {α ε : Type}

/-- How a filter reacts to its input. -/
def react (f : Filter α) : Signal α ε → Reaction (Filter α) α ε
  | .item a => .keep f (if f.keeps a then .item a else .again)
  | .fail e => .close f (.fail e)
  | .finish => .close f .finish
  | .pending => .keep f .pending
  | .again => .keep f .again

instance : Operator (Filter α) α α ε where
  idle _ _ := none
  react := react

end Filter

end SparqlStream
