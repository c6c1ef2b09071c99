import SparqlStream.Stream.Signal

/-!
# Sorting with a window

Sorts a stream with a buffer.  Without a window the whole input is buffered before the first item
is shown, and the result is sorted.  With a window an item is shown as soon as the buffer is
full, so a stream is sorted only if no item comes too late.

A new item is placed by binary search, behind the items that are equal to it, so equal items
keep their order.  The search asks the comparison no more often than it has to; if the comparison
contradicts itself the place is still the one that the search finds.
-/

namespace SparqlStream

/-- How many items are buffered at most.  There is no window if everything is buffered; a window
is never zero. -/
abbrev Window := Option { n : Nat // 0 < n }

/-- The buffer of a sorted stream.  The item that is shown next comes first. -/
structure Sorter (α : Type) where
  compare : α → α → Ordering
  window : Window
  held : List α

namespace Sorter

variable {α ε : Type}

/-- The window that a number asks for, zero being none. -/
def windowOf (n : Nat) : Window := if h : 0 < n then some ⟨n, h⟩ else none

/-- An empty buffer. -/
def start (compare : α → α → Ordering) (window : Window) : Sorter α := ⟨compare, window, []⟩

/-- Whether the buffer is as long as its window. -/
def isFull (s : Sorter α) : Bool :=
  match s.window with
  | none => false
  | some w => w.1 ≤ s.held.length

theorem isFull_of_held_eq_nil {s : Sorter α} (hheld : s.held = []) : s.isFull = false := by
  rw [isFull, hheld]
  cases s.window with
  | none => rfl
  | some w => exact decide_eq_false (Nat.not_le.2 w.2)

/-- Halves the interval of `size` indices from `base` on until one index is left, and steps
behind that one if it satisfies the condition. -/
def searchBetween (before : Nat → Bool) (base size : Nat) : Nat :=
  if h : 1 < size then
    let half := size / 2
    have : size - half < size := by omega
    searchBetween before (if before (base + half) then base + half else base) (size - half)
  else if before base then base + 1 else base
termination_by size
decreasing_by exact this

/-- The number of indices below `size` that satisfy a condition, if those that do come first. -/
def partitionPoint (before : Nat → Bool) (size : Nat) : Nat :=
  if size = 0 then 0 else searchBetween before 0 size

/-- Where a new item goes: how many held items stay in front of it.  The search runs from the item
that would be shown last. -/
def place (s : Sorter α) (a : α) : Nat :=
  let fromLast := s.held.reverse
  let greater (i : Nat) : Bool :=
    match fromLast[i]? with
    | some held => s.compare held a == .gt
    | none => false
  s.held.length - partitionPoint greater s.held.length

/-- Puts an item into the buffer. -/
def insert (s : Sorter α) (a : α) : Sorter α :=
  let n := s.place a
  { s with held := s.held.take n ++ a :: s.held.drop n }

/-- What is shown without asking the input. -/
def idle (s : Sorter α) (hasInput : Bool) : Option (Reaction (Sorter α) α ε) :=
  if hasInput && !s.isFull then none
  else
    match s.held with
    | a :: rest => some (.keep { s with held := rest } (.item a))
    | [] => some (.keep s .finish)

/-- How the operator reacts to its input.  An error loses what has been buffered. -/
def react (s : Sorter α) : Signal α ε → Reaction (Sorter α) α ε
  | .item a => .keep (s.insert a) .again
  | .fail e => .close { s with held := [] } (.fail e)
  | .finish => .close s .again
  | .pending => .keep s .pending
  | .again => .keep s .again

instance : Operator (Sorter α) α α ε where
  idle := idle
  react := react

end Sorter

/-! ## How many items are left -/

/-- Bounds on the number of items and errors that a stream will still show. -/
structure SizeHint where
  low : Nat
  high : Option Nat
  deriving DecidableEq, Repr

namespace SizeHint

/-- Nothing is known. -/
def unknown : SizeHint := ⟨0, none⟩

/-- The number is known. -/
def exact (n : Nat) : SizeHint := ⟨n, some n⟩

/-- The largest number that a bound can hold. -/
def limit : Nat := Nat.pow 2 64 - 1

/-- The bounds with more items on top.  A lower bound stays at the limit; an upper bound beyond it
is dropped. -/
def plus (h : SizeHint) (n : Nat) : SizeHint where
  low := min (h.low + n) limit
  high := h.high.bind fun m => if m + n ≤ limit then some (m + n) else none

end SizeHint

/-- How many items and errors a sorted stream will still show, by what its input says about itself.
A stream without an input shows what is held. -/
def Sorter.sizeHint {α : Type} (s : Sorter α) : Option SizeHint → SizeHint
  | some h => h.plus s.held.length
  | none => .exact s.held.length

end SparqlStream
