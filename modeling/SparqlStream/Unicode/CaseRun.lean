import SparqlStream.Unicode.CaseTable
import SparqlStream.Unicode.CharSet

/-!
# Changes of case

The tables of case as runs of code points that are moved by the same distance, and as code points
that become several.  Characters that differ only in case are moved to the same one.
-/

namespace SparqlStream.Unicode

/-- Every `stride`-th code point from `first` to `last` is moved by `shift`. -/
structure CaseRun where
  first : Nat
  last : Nat
  stride : Nat
  shift : Int
  deriving DecidableEq, Repr

namespace CaseRun

/-- Whether the run moves a code point. -/
def moves (r : CaseRun) (n : Nat) : Bool :=
  r.first ≤ n && n ≤ r.last && (n - r.first) % r.stride == 0

/-- The code point after the move. -/
def apply (r : CaseRun) (n : Nat) : Nat := (n + r.shift).toNat

/-- The code points that the run moves. -/
def sources (r : CaseRun) : List Nat :=
  (List.range ((r.last - r.first) / r.stride + 1)).map fun i => r.first + i * r.stride

/-- The code points that the run moves, and where it moves them. -/
def moved (r : CaseRun) : List (Nat × Nat) := r.sources.map fun n => (n, r.apply n)

/-! ## Texts -/

/-- The number that upper-case hexadecimal digits stand for. -/
def number (cs : List Char) : Nat := cs.foldl (fun n c => 16 * n + CharSet.digitValue c) 0

/-- The number that upper-case hexadecimal digits stand for, which a sign may precede. -/
def signed : List Char → Int
  | '-' :: cs => -(number cs : Int)
  | cs => number cs

/-- A run from its text. -/
def ofText (cs : List Char) : CaseRun :=
  let digits (cs : List Char) : List Char := cs.takeWhile fun c => c.isDigit || c.isUpper
  let behind (mark : Char) : List Char := (cs.dropWhile (· ≠ mark)).drop 1
  let source := cs.takeWhile (· ≠ ':')
  let first := number (digits cs)
  { first := first
    last := if source.contains '-' then number (digits (behind '-')) else first
    stride := if source.contains '/' then number (digits (behind '/')) else 1
    shift := signed (behind ':') }

/-- The runs that a text lists. -/
def listOf (text : String) : List CaseRun := (text.toList.splitOn ' ').map ofText

end CaseRun

/-- The expansions that a text lists: a code point and, behind an equals sign, those that it
becomes, with plus signs between them. -/
def expansionsOf (text : String) : List (Nat × List Nat) :=
  (text.toList.splitOn ' ').map fun cs =>
    (CaseRun.number (cs.takeWhile (· ≠ '=')),
      (((cs.dropWhile (· ≠ '=')).drop 1).splitOn '+').map CaseRun.number)

/-- The code points that change to one in upper case. -/
def upperRuns : List CaseRun := CaseRun.listOf upperText

/-- The code points that change to several in upper case. -/
def upperExpansions : List (Nat × List Nat) := expansionsOf upperExpansionText

/-- The code points that change to one in lower case. -/
def lowerRuns : List CaseRun := CaseRun.listOf lowerText

/-- The code points that change to several in lower case. -/
def lowerExpansions : List (Nat × List Nat) := expansionsOf lowerExpansionText

/-- The code points that differ only in case from another one, with that one. -/
def foldedPairs : List (Nat × Nat) := (CaseRun.listOf foldText).flatMap CaseRun.moved

/-- The code points that some runs move. -/
def movedSet (runs : List CaseRun) : CharSet :=
  .ofRanges (runs.flatMap fun r => r.sources.map fun n => (n, n))

end SparqlStream.Unicode

namespace SparqlStream

namespace CharSet

/-- A set with the characters that differ from one of it only in case, given the pairs of such
characters; the second one stands for all that differ only in case from it. -/
def foldedBy (pairs : List (Nat × Nat)) (s : CharSet) : CharSet :=
  let reached (has : Nat → Bool) (near far : Nat × Nat → Nat) : List (Nat × Nat) :=
    pairs.filterMap fun p => if has (near p) then some (far p, far p) else none
  let up := s ∪ .ofRanges (reached (inRanges · s.ranges) (·.1) (·.2))
  up ∪ .ofRanges (reached (inRanges · up.ranges) (·.2) (·.1))

end CharSet

end SparqlStream
