/-!
# Language ranges

Whether a language tag lies in a language range: it is the range up to the case of ASCII letters,
or the range followed by a hyphen and more.  The range `*` holds every tag that is not empty.

A tag is looked at as its UTF-8 encoding.  It is cut after as many bytes as the range has, so a
range whose length falls inside a code point of the tag must not be compared at all.
-/

namespace SparqlStream.LanguageRange

/-- The UTF-8 encoding of a text. -/
def bytes (s : String) : List UInt8 := s.toUTF8.data.toList

/-- A byte in lower case: the bytes `A` to `Z` change, every other byte stays. -/
def lowerByte (b : UInt8) : UInt8 := if 0x41 ≤ b ∧ b ≤ 0x5A then b + 0x20 else b

/-- Where a tag is cut to be compared with a range, in bytes; nowhere if the tag is shorter than
the range or the place lies inside a code point. -/
def cut? (range tag : String) : Option Nat :=
  let n := range.utf8ByteSize
  if tag.utf8ByteSize < n || !String.Pos.Raw.isValid tag ⟨n⟩ then none else some n

/-- Whether a language tag lies in a range. -/
def contains (range tag : String) : Bool :=
  if range = "*" then !tag.isEmpty
  else
    match cut? range tag with
    | none => false
    | some n =>
      let (front, rest) := (bytes tag).splitAt n
      front.map lowerByte == (bytes range).map lowerByte &&
        (rest.isEmpty || rest.head? == some 0x2D)

end SparqlStream.LanguageRange
