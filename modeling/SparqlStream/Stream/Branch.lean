import SparqlStream.Stream.Signal

/-!
# Branches

A hub lets several branches read one stream.  It buffers the items that some live branch has not
read yet.  The branch that has read everything asks the stream itself; afterwards it wakes the
other branches that wait.  A branch that waits leaves its waker with the hub.

An error is shown only to the branch that met it.  The stream is let go of when it has ended or
failed, or when no branch is left.
-/

namespace SparqlStream

/-- Who is told that asking again may be worth while. -/
abbrev Waker := String

/-- A stream `ι` of items that several branches read.  `offset` is the position of the first
buffered item in the stream; a branch that has been dropped has no position. -/
structure Hub (α ι : Type) where
  input : Option ι
  buffer : List α
  offset : Nat
  positions : List (Option Nat)
  wakers : List (Option Waker)

namespace Hub

variable {α ι : Type}

/-- A hub with `count` branches that have read nothing. -/
def start (input : ι) (count : Nat) : Hub α ι where
  input := if count = 0 then none else some input
  buffer := []
  offset := 0
  positions := List.replicate count (some 0)
  wakers := List.replicate count none

/-- The position of a branch, unless it has been dropped. -/
def position? (h : Hub α ι) (slot : Nat) : Option Nat := (h.positions[slot]?).join

/-- The positions of the branches that have not been dropped. -/
def livePositions (h : Hub α ι) : List Nat := h.positions.filterMap id

/-- The buffered item that a position reads next. -/
def itemAt? (h : Hub α ι) (position : Nat) : Option α := h.buffer[position - h.offset]?

/-- Forgets the items that every live branch has read. -/
def trim (h : Hub α ι) : Hub α ι :=
  match h.livePositions.min? with
  | none => { h with input := none, buffer := [] }
  | some least =>
    let n := min (least - h.offset) h.buffer.length
    { h with buffer := h.buffer.drop n, offset := h.offset + n }

/-- Moves a branch to the item after the given position. -/
def advance (h : Hub α ι) (slot position : Nat) : Hub α ι :=
  trim { h with positions := h.positions.set slot (some (position + 1)) }

/-- Buffers an item that a branch has just met, for the others. -/
def deliver (h : Hub α ι) (slot position : Nat) (a : α) : Hub α ι :=
  advance { h with buffer := h.buffer ++ [a] } slot position

/-- Leaves the waker of a branch that waits. -/
def leaveWaker (h : Hub α ι) (slot : Nat) (w : Waker) : Hub α ι :=
  { h with wakers := h.wakers.set slot (some w) }

/-- The wakers of the other branches. -/
def otherWakers (h : Hub α ι) (slot : Nat) : List Waker := (h.wakers.set slot none).filterMap id

/-- Forgets the wakers of the other branches. -/
def forgetOthers (h : Hub α ι) (slot : Nat) : Hub α ι :=
  { h with wakers := h.wakers.mapIdx fun i w => if i = slot then w else none }

/-- Drops a branch. -/
def drop (h : Hub α ι) (slot : Nat) : Hub α ι :=
  trim { h with positions := h.positions.set slot none, wakers := h.wakers.set slot none }

end Hub

end SparqlStream
