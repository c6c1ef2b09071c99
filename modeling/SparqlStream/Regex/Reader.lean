import SparqlStream.Regex.Bracket
import SparqlStream.Regex.Size

/-!
# Reading regular expressions

The notation of regular expressions.  There are no look-around groups and no references to groups,
so an expression denotes a regular language.  Whatever is not in the notation is refused, and so is
an expression that nests too deep or is too large.

The reader walks over the text with a stack of open groups, as the text nests groups to any
depth.
-/

namespace SparqlStream.Regex

/-! ## Groups -/

/-- The letters after `(?`.  Each of them and the hyphen stand at most once, and the hyphen not at
the end. -/
def readLetters (m : Mode) (value : Bool) (seen : List Char) :
    List Char → Option (Mode × Char × List Char)
  | [] => none
  | c :: rest =>
    if c = ':' ∨ c = ')' then
      if seen.head? = some '-' ∨ (c = ')' ∧ seen = []) then none else some (m, c, rest)
    else if seen.contains c then none
    else if c = '-' then readLetters m false (c :: seen) rest
    else
      match m.set? c value with
      | some m => readLetters m value (c :: seen) rest
      | none => none

/-- Whether a character may stand in the name of a group. -/
def isNameChar (first : Bool) (c : Char) : Bool :=
  c == '_'
    || (if first then Unicode.Property.alphabetic.contains c
      else c == '.' || c == '[' || c == ']' || Unicode.alphanumeric.contains c)

/-- The name of a group after its angle bracket. -/
def readName : ReadPart (List Char) := fun cs =>
  match cs.takeWhile (· ≠ '>'), cs.dropWhile (· ≠ '>') with
  | c :: more, _ :: rest =>
    if isNameChar true c && more.all (isNameChar false) then some (c :: more, rest) else none
  | _, _ => none

/-- What an opening parenthesis begins: a group, or a change of mode for the rest of this one. -/
inductive Opening where
  | group (m : Mode) (isCaptured : Bool) (name : Option (List Char))
  | change (m : Mode)

/-- Reads what follows an opening parenthesis. -/
def readOpening (m : Mode) : ReadPart Opening := fun cs =>
  match m.skip cs with
  | '?' :: '=' :: _ | '?' :: '!' :: _ | '?' :: '<' :: '=' :: _ | '?' :: '<' :: '!' :: _ => none
  | '?' :: 'P' :: '<' :: rest | '?' :: '<' :: rest =>
    (readName rest).map fun (name, rest) => (.group m true (some name), rest)
  | '?' :: rest =>
    match readLetters m true [] rest with
    | some (m', ':', rest) => some (.group m' false none, rest)
    | some (m', _, rest) => some (.change m', rest)
    | none => none
  | rest => some (.group m true none, rest)

/-! ## Parts -/

/-- An expression with the number of levels that its text nests. -/
structure Part where
  regex : Regex CharSet
  depth : Nat

/-- The number of levels that an expression may nest. -/
def maxDepth : Nat := 250

namespace Part

/-- A part without parts. -/
def leaf (r : Regex CharSet) : Part := ⟨r, 0⟩

/-- One of some parts with more than one, or the only one. -/
def joined (join : List (Regex CharSet) → Regex CharSet) : List Part → Part
  | [p] => p
  | ps => ⟨join (ps.map regex), (ps.map depth).foldl max 0 + (if ps.isEmpty then 0 else 1)⟩

end Part

/-- A group that is still open: its mode, whether it is captured, the alternatives that are complete
and the parts of the one that is being read, all from the last to the first.  A change of mode is a
part that nothing can repeat. -/
structure OpenGroup where
  mode : Mode
  isCaptured : Bool
  alternatives : List Part
  parts : List (Part × Bool)

namespace OpenGroup

/-- The alternative that is being read. -/
def current (g : OpenGroup) : Part := .joined .catAll (g.parts.reverse.map (·.1))

/-- The inside of a group that is closed now. -/
def inside (g : OpenGroup) : Part := .joined .altAll (g.current :: g.alternatives).reverse

/-- The part that a closed group is. -/
def close (g : OpenGroup) : Part :=
  let p := g.inside
  ⟨if g.isCaptured then .group p.regex else p.regex, p.depth + 1⟩

/-- Adds a part. -/
def add (g : OpenGroup) (p : Part) : OpenGroup := { g with parts := (p, true) :: g.parts }

/-- Changes the mode. -/
def change (g : OpenGroup) (m : Mode) : OpenGroup :=
  { g with mode := m, parts := (.leaf .empty, false) :: g.parts }

/-- Begins another alternative. -/
def another (g : OpenGroup) : OpenGroup :=
  { g with alternatives := g.current :: g.alternatives, parts := [] }

/-- Repeats the last part. -/
def repeatLast (g : OpenGroup) (least : Nat) (most : Option Nat) : Option OpenGroup :=
  match g.parts with
  | (p, true) :: parts =>
    some { g with parts := (⟨.repeated least most p.regex, p.depth + 1⟩, true) :: parts }
  | _ => none

end OpenGroup

/-! ## Characters and conditions -/

/-- What a dot matches. -/
def dotSet? (m : Mode) : Option CharSet :=
  if !m.unicode then none
  else if m.dotAll then some .all
  else if m.carriageReturn then some (CharSet.ofList ['\n', '\r']).compl
  else some (CharSet.single '\n').compl

/-- What `^` matches. -/
def startLook (m : Mode) : Look :=
  if !m.multiLine then .textStart else if m.carriageReturn then .returnStart else .lineStart

/-- What `$` matches. -/
def endLook (m : Mode) : Look :=
  if !m.multiLine then .textEnd else if m.carriageReturn then .returnEnd else .lineEnd

/-- Something that a backslash introduces, as an expression. -/
def Escape.toRegex (m : Mode) : Escape → Regex CharSet
  | .char c => .one (m.fold (.single c))
  | .set s => .one s
  | .condition l => .look l

/-- Reads what is neither a group nor a repetition. -/
def readPrimitive (m : Mode) : ReadPart Part
  | [] => none
  | '[' :: rest => do
    let (s, rest) ← readClass m ('[' :: rest)
    return (⟨.one s.set, s.depth⟩, rest)
  | '\\' :: rest => do
    let (e, rest) ← readEscape m rest
    return (.leaf (e.toRegex m), rest)
  | '.' :: rest => do return (.leaf (.one (← dotSet? m)), rest)
  | '^' :: rest => some (.leaf (.look (startLook m)), rest)
  | '$' :: rest => some (.leaf (.look (endLook m)), rest)
  | c :: rest => some (.leaf ((Escape.char c).toRegex m), rest)

/-- A repetition may be followed by a question mark, which changes only the preferred match. -/
def skipLazy : List Char → List Char
  | '?' :: rest => rest
  | rest => rest

/-- Reads how often something is repeated. -/
def readRepetition? (m : Mode) : ReadPart (Nat × Option Nat)
  | '?' :: rest => some ((0, some 1), skipLazy rest)
  | '*' :: rest => some ((0, none), skipLazy rest)
  | '+' :: rest => some ((1, none), skipLazy rest)
  | '{' :: rest => do
    let (b, rest) ← m.bounds? ('{' :: rest)
    return (b, skipLazy (m.skip rest))
  | _ => none

/-! ## Expressions -/

/-- Whether a character begins a repetition. -/
def isRepetition (c : Char) : Bool := c = '?' || c = '*' || c = '+' || c = '{'

/-- Reads an expression to the end of the text. -/
def readFrom : (limit : Nat) → OpenGroup → List OpenGroup → List (List Char) → List Char →
    Option Part
  | 0, _, _, _, _ => none
  | limit + 1, g, outer, names, cs =>
    match g.mode.skip cs with
    | [] => if outer.isEmpty then some g.inside else none
    | '(' :: rest =>
      match readOpening g.mode rest with
      | some (.change m, rest) => readFrom limit (g.change m) outer names rest
      | some (.group m isCaptured name, rest) =>
        if name.any names.contains then none
        else readFrom limit ⟨m, isCaptured, [], []⟩ (g :: outer) (name.toList ++ names) rest
      | none => none
    | ')' :: rest =>
      match outer with
      | o :: outer => readFrom limit (o.add g.close) outer names rest
      | [] => none
    | '|' :: rest => readFrom limit g.another outer names rest
    | c :: rest =>
      if isRepetition c then do
        let ((least, most), rest) ← readRepetition? g.mode (c :: rest)
        readFrom limit (← g.repeatLast least most) outer names rest
      else do
        let (p, rest) ← readPrimitive g.mode (c :: rest)
        readFrom limit (g.add p) outer names rest

/-- The expression that a text denotes. -/
def parse? (m : Mode) (text : String) : Option (Regex CharSet) := do
  let cs := text.toList
  let p ← readFrom (cs.length + 1) ⟨m, false, [], []⟩ [] [] cs
  if p.depth ≤ maxDepth && p.regex.isSmall then p.regex else none

end SparqlStream.Regex
