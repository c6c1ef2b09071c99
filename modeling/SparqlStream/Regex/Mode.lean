import SparqlStream.Numeric.Digits
import SparqlStream.Unicode.Property

/-!
# Modes

How an expression is read, which groups can change: whether case counts (`i`), whether `^` and `$`
match at lines (`m`), whether the dot matches a line end (`s`), whether white space and comments are
skipped (`x`), whether a carriage return ends a line (`R`), whether classes hold the characters of
all scripts (`u`); `U` only changes which match is preferred.

White space and comments are skipped between the parts of an expression, and also between the
characters of some parts.
-/

namespace SparqlStream.Regex

open Unicode (isSpace)

/-- How an expression is read. -/
structure Mode where
  ignoreCase : Bool
  multiLine : Bool
  dotAll : Bool
  verbose : Bool
  carriageReturn : Bool
  unicode : Bool
  deriving DecidableEq, Repr

namespace Mode

/-- How an expression is read if nothing else is said. -/
def standard : Mode := ⟨false, false, false, false, false, true⟩

/-- Sets one letter of a mode. -/
def set? (m : Mode) (letter : Char) (value : Bool) : Option Mode :=
  match letter with
  | 'i' => some { m with ignoreCase := value }
  | 'm' => some { m with multiLine := value }
  | 's' => some { m with dotAll := value }
  | 'x' => some { m with verbose := value }
  | 'R' => some { m with carriageReturn := value }
  | 'u' => some { m with unicode := value }
  | 'U' => some m
  | _ => none

/-! ## White space -/

/-- What is left behind white space and comments. -/
def behindSpace (inComment : Bool) : List Char → List Char
  | [] => []
  | c :: cs =>
    if inComment then behindSpace (c ≠ '\n') cs
    else if isSpace c then behindSpace false cs
    else if c = '#' then behindSpace true cs
    else c :: cs

/-- Skips white space and comments if they do not count. -/
def skip (m : Mode) (cs : List Char) : List Char := if m.verbose then behindSpace false cs else cs

/-- What is left behind a character and what does not count, which must not be nothing. -/
def next? (m : Mode) (cs : List Char) : Option (List Char) :=
  match m.skip (cs.drop 1) with
  | [] => none
  | rest => some rest

/-- The next character that counts, behind the one at the beginning.  A number sign is passed over
once, and what stands behind it is not. -/
def peek? (m : Mode) (cs : List Char) : Option Char :=
  let rest := cs.drop 1
  if m.verbose then
    match rest.dropWhile isSpace with
    | '#' :: comment => (comment.dropWhile isSpace).head?.or rest.head?
    | c :: _ => some c
    | [] => rest.head?
  else rest.head?

/-! ## Numbers -/

/-- Skips white space, whether it counts or not. -/
def skipBlanks (m : Mode) : (limit : Nat) → List Char → List Char
  | limit + 1, c :: rest => if isSpace c then skipBlanks m limit (m.skip rest) else c :: rest
  | _, cs => cs

/-- The digits at the beginning of a text. -/
def digits (m : Mode) : (limit : Nat) → List Char → List Char × List Char
  | limit + 1, c :: rest =>
    if c.isDigit then
      let (ds, rest) := digits m limit (m.skip rest)
      (c :: ds, rest)
    else ([], c :: rest)
  | _, cs => ([], cs)

/-- A number below 2 ^ 32, with white space around it. -/
def decimal? (m : Mode) (cs : List Char) : Option (Nat × List Char) :=
  let (ds, rest) := m.digits cs.length (cs.dropWhile isSpace)
  let n := Digits.toNat ds
  if ds.isEmpty || Nat.pow 2 32 ≤ n then none else some (n, m.skipBlanks rest.length rest)

/-- The bounds of a repetition in braces. -/
def bounds? (m : Mode) (cs : List Char) : Option ((Nat × Option Nat) × List Char) := do
  let (least, rest) ← m.decimal? (← m.next? cs)
  match rest with
  | '}' :: rest => return ((least, some least), rest)
  | ',' :: _ =>
    match ← m.next? rest with
    | '}' :: rest => return ((least, none), rest)
    | rest =>
      match ← m.decimal? rest with
      | (most, '}' :: rest) => if least ≤ most then return ((least, some most), rest) else none
      | _ => none
  | _ => none

/-! ## Case -/

/-- The letters of ASCII that differ only in case. -/
def asciiPairs : List (Nat × Nat) := (List.range 26).map fun i => (0x41 + i, 0x61 + i)

/-- A set with the characters that differ only in case, if case does not count. -/
def fold (m : Mode) (s : CharSet) : CharSet :=
  if !m.ignoreCase then s
  else s.foldedBy (if m.unicode then Unicode.foldedPairs else asciiPairs)

/-- A set that may be used.  Without the characters of all scripts a set of others would hold bytes
that are parts of characters. -/
def admit? (m : Mode) (s : CharSet) : Option CharSet :=
  if m.unicode || s.isBelow 0x80 then some s else none

/-- A set that may be negated, with the characters that differ only in case. -/
def negate? (m : Mode) (isNegated : Bool) (s : CharSet) : Option CharSet :=
  m.admit? (if isNegated then (m.fold s).compl else m.fold s)

end Mode

end SparqlStream.Regex
