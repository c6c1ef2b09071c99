import SparqlStream.Results.Error

/-!
# Where results are written

A sink takes pieces of text.  It may have room for a limited number of bytes; a piece that does not
fit fails.
-/

namespace SparqlStream

/-- What has been written, piece by piece with the last piece first, and how many bytes are
left. -/
structure Sink where
  pieces : List String
  room : Option Nat

namespace Sink

/-- A sink with room for a number of bytes, or with room for everything. -/
def ofRoom (room : Option Nat) : Sink := ⟨[], room⟩

/-- Writes a piece of text. -/
def put (s : Sink) (piece : String) : Except ResultsError Sink :=
  match s.room with
  | none => .ok { s with pieces := piece :: s.pieces }
  | some room =>
    if piece.utf8ByteSize ≤ room then .ok ⟨piece :: s.pieces, some (room - piece.utf8ByteSize)⟩
    else .error .writerFull

/-- The text that has been written. -/
def text (s : Sink) : String := String.join s.pieces.reverse

end Sink

end SparqlStream
