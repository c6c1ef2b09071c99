/-!
# Sets of characters

A set of characters is a list of ranges of code points, in ascending order and with gaps between
them.  A set may hold code points that are no characters; they count for nothing.

Sets that are listed in a table are texts: ranges with blanks between them, in upper-case
hexadecimal digits.
-/

namespace SparqlStream

/-- A set of characters. -/
structure CharSet where
  ranges : List (Nat × Nat)
  deriving DecidableEq, Repr, Inhabited

namespace CharSet

/-- The largest code point. -/
def last : Nat := 0x10FFFF

/-- Whether a code point lies in one of some ranges in ascending order. -/
def inRanges (n : Nat) : List (Nat × Nat) → Bool
  | [] => false
  | (a, b) :: rest => a ≤ n && (n ≤ b || inRanges n rest)

/-- Whether a character belongs to the set. -/
def contains (s : CharSet) (c : Char) : Bool := inRanges c.toNat s.ranges

/-! ## Building sets -/

/-- A range and others that begin behind its beginning, with those that touch put together. -/
def joined (first last : Nat) : List (Nat × Nat) → List (Nat × Nat)
  | [] => [(first, last)]
  | (a, b) :: rest =>
    if a ≤ last + 1 then joined first (max last b) rest else (first, last) :: joined a b rest

/-- The set of ranges in ascending order of their beginnings. -/
def ofSorted : List (Nat × Nat) → CharSet
  | [] => ⟨[]⟩
  | (a, b) :: rest => ⟨joined a b rest⟩

/-- Whether a range begins no later than another one. -/
def precedes (a b : Nat × Nat) : Bool := a.1 ≤ b.1

/-- The set of some ranges. -/
def ofRanges (ranges : List (Nat × Nat)) : CharSet := ofSorted (ranges.mergeSort precedes)

/-- The set without characters. -/
def nothing : CharSet := ⟨[]⟩

/-- The set of all characters. -/
def all : CharSet := ⟨[(0, last)]⟩

/-- The set of a range. -/
def range (a b : Nat) : CharSet := ⟨[(a, b)]⟩

/-- The set of one character. -/
def single (c : Char) : CharSet := range c.toNat c.toNat

/-- The set of some characters. -/
def ofList (cs : List Char) : CharSet := ofRanges (cs.map fun c => (c.toNat, c.toNat))

/-! ## Operations -/

/-- The characters of two sets. -/
def union (a b : CharSet) : CharSet := ofSorted (a.ranges.merge b.ranges precedes)

instance : Union CharSet := ⟨union⟩

/-- The ranges between ranges, from a code point on. -/
def gaps (next : Nat) : List (Nat × Nat) → List (Nat × Nat)
  | [] => if next ≤ last then [(next, last)] else []
  | (a, b) :: rest => if next < a then (next, a - 1) :: gaps (b + 1) rest else gaps (b + 1) rest

/-- The characters that are not in a set. -/
def compl (a : CharSet) : CharSet := ⟨gaps 0 a.ranges⟩

/-- The characters that are in both sets. -/
def inter (a b : CharSet) : CharSet := (a.compl ∪ b.compl).compl

instance : Inter CharSet := ⟨inter⟩

/-- The characters of a set that are not in another one. -/
def diff (a b : CharSet) : CharSet := a ∩ b.compl

instance : SDiff CharSet := ⟨diff⟩

/-- The characters that belong to exactly one of two sets. -/
def symmDiff (a b : CharSet) : CharSet := (a \ b) ∪ (b \ a)

/-- The characters of some sets. -/
def unionAll (sets : List CharSet) : CharSet := ofRanges (sets.flatMap ranges)

/-- Whether all characters are below a code point. -/
def isBelow (s : CharSet) (n : Nat) : Bool := s.ranges.all fun r => r.2 < n

/-- The only character of a set that has one. -/
def only? (s : CharSet) : Option Nat :=
  match s.ranges with
  | [(a, b)] => if a = b then some a else none
  | _ => none

/-! ## Texts -/

/-- The value of an upper-case hexadecimal digit. -/
def digitValue (c : Char) : Nat :=
  if c.isDigit then c.toNat - '0'.toNat else c.toNat - 'A'.toNat + 10

/-- Ranges from their text, given what has been read of the range at hand. -/
def readRanges (first : Option Nat) (last : Nat) : List Char → List (Nat × Nat)
  | [] => [(first.getD last, last)]
  | c :: rest =>
    if c = ' ' then (first.getD last, last) :: readRanges none 0 rest
    else if c = '-' then readRanges (some last) 0 rest
    else readRanges first (16 * last + digitValue c) rest

/-- The set that a text lists. -/
def ofText (text : String) : CharSet :=
  if text.isEmpty then nothing else ofSorted (readRanges none 0 text.toList)

end CharSet

end SparqlStream
