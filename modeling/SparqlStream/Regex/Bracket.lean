import SparqlStream.Regex.Escape

/-!
# Bracketed classes

Classes in brackets: characters, ranges, named classes and other classes, combined by set
operations.  A class is read with the classes around it on a stack, as the text nests classes to any
depth; how deep a class nests is part of what is read.
-/

namespace SparqlStream.Regex

/-- A class that is named inside brackets. -/
def namedSet? (name : String) : Option CharSet :=
  let letters : CharSet := .range 0x41 0x5a ∪ .range 0x61 0x7a
  let digits : CharSet := .range 0x30 0x39
  match name with
  | "alnum" => some (letters ∪ digits)
  | "alpha" => some letters
  | "ascii" => some (.range 0 0x7f)
  | "blank" => some (.ofList ['\t', ' '])
  | "cntrl" => some (.range 0 0x1f ∪ .range 0x7f 0x7f)
  | "digit" => some digits
  | "graph" => some (.range 0x21 0x7e)
  | "lower" => some (.range 0x61 0x7a)
  | "print" => some (.range 0x20 0x7e)
  | "punct" => some (.range 0x21 0x7e \ (letters ∪ digits))
  | "space" => some (.range 9 13 ∪ .single ' ')
  | "upper" => some (.range 0x41 0x5a)
  | "word" => some (letters ∪ digits ∪ .single '_')
  | "xdigit" => some (digits ∪ .range 0x41 0x46 ∪ .range 0x61 0x66)
  | _ => none

/-- A named class with its brackets and colons: whether it is negated, and its set. -/
def readNamed? (cs : List Char) : Option ((Bool × CharSet) × List Char) := do
  let '[' :: ':' :: body := cs | none
  let (isNegated, body) :=
    match body with
    | '^' :: rest => (true, rest)
    | _ => (false, body)
  let ':' :: ']' :: rest := body.dropWhile (· ≠ ':') | none
  let s ← namedSet? (String.ofList (body.takeWhile (· ≠ ':')))
  return ((isNegated, s), rest)

/-- A set with the number of levels that its text nests. -/
structure NestedSet where
  set : CharSet
  depth : Nat

/-- The members of a class, of which several are one level deeper than a single one. -/
structure Members where
  sets : List CharSet
  depth : Nat

namespace Members

/-- No members. -/
def none : Members := ⟨[], 0⟩

/-- Adds a member. -/
def add (ms : Members) (s : NestedSet) : Members := ⟨s.set :: ms.sets, max ms.depth s.depth⟩

/-- The members as one set. -/
def combined (ms : Members) : NestedSet :=
  ⟨.unionAll ms.sets, if 1 < ms.sets.length then ms.depth + 1 else ms.depth⟩

end Members

/-- How two sets inside brackets are combined. -/
inductive SetOp where
  | inter
  | diff
  | symmDiff

/-- Two sets combined, with the characters that differ only in case. -/
def SetOp.apply (op : SetOp) (m : Mode) (a b : NestedSet) : NestedSet :=
  let x := m.fold a.set
  let y := m.fold b.set
  let s :=
    match op with
    | .inter => x ∩ y
    | .diff => x \ y
    | .symmDiff => x.symmDiff y
  ⟨s, max a.depth b.depth + 1⟩

/-- A bracketed class that is still open: what has been read since the last operation, the operation
that waits for it, and whether the class is negated. -/
structure OpenSet where
  isNegated : Bool
  waiting : Option (NestedSet × SetOp)
  members : Members

namespace OpenSet

/-- What has been read, with the waiting operation applied. -/
def combined (m : Mode) (o : OpenSet) : NestedSet :=
  match o.waiting with
  | none => o.members.combined
  | some (left, op) => op.apply m left o.members.combined

/-- The set of a class that is closed now. -/
def close? (m : Mode) (o : OpenSet) : Option NestedSet := do
  let s := o.combined m
  return ⟨← m.negate? o.isNegated s.set, s.depth + 1⟩

/-- Adds a member. -/
def add (o : OpenSet) (s : NestedSet) : OpenSet := { o with members := o.members.add s }

/-- Applies the waiting operation and lets another one wait. -/
def wait (m : Mode) (op : SetOp) (o : OpenSet) : OpenSet :=
  { o with waiting := some (o.combined m, op), members := .none }

end OpenSet

/-- Leading hyphens of a class stand for themselves. -/
def skipHyphens (m : Mode) : (limit : Nat) → (count : Nat) → ReadPart Nat
  | limit + 1, count, '-' :: rest => do skipHyphens m limit (count + 1) (← m.next? ('-' :: rest))
  | _, count, cs => some (count, cs)

/-- Opens a class at its bracket.  A closing bracket that comes first stands for itself. -/
def openSet (m : Mode) : ReadPart OpenSet := fun cs => do
  let cs ← m.next? cs
  let (isNegated, cs) ←
    match cs with
    | '^' :: _ => do pure (true, ← m.next? cs)
    | cs => pure (false, cs)
  let (hyphens, cs) ← skipHyphens m cs.length 0 cs
  let opened (sets : List CharSet) : OpenSet := ⟨isNegated, none, ⟨sets, 0⟩⟩
  match hyphens, cs with
  | 0, ']' :: _ => return (opened [.single ']'], ← m.next? cs)
  | hyphens, cs => return (opened (List.replicate hyphens (.single '-')), cs)

/-- One end of a range, or a set. -/
def readMember (m : Mode) : ReadPart Escape
  | [] => none
  | '\\' :: rest => readEscape m rest
  | c :: rest => some (.char c, rest)

/-- A member of a class as a set; a condition is none. -/
def Escape.toSet? (m : Mode) : Escape → Option CharSet
  | .char c => m.admit? (.single c)
  | .set s => some s
  | .condition _ => none

/-- A member of a class or a range of characters. -/
def readRange (m : Mode) : ReadPart CharSet := fun cs => do
  let (first, rest) ← readMember m cs
  match m.skip rest with
  | [] => none
  | '-' :: after =>
    let ahead := m.peek? ('-' :: after)
    if ahead = some ']' || ahead = some '-' then return (← first.toSet? m, '-' :: after)
    else
      let (last, rest) ← readMember m (← m.next? ('-' :: after))
      match first, last with
      | .char a, .char b =>
        if a ≤ b then return (← m.admit? (.range a.toNat b.toNat), rest) else none
      | _, _ => none
  | rest => return (← first.toSet? m, rest)

/-- Reads the inside of the innermost open class up to the bracket that closes the outermost. -/
def readSet (m : Mode) : (limit : Nat) → OpenSet → List OpenSet → ReadPart NestedSet
  | 0, _, _, _ => none
  | limit + 1, top, outer, cs =>
    match m.skip cs with
    | [] => none
    | ']' :: rest => do
      let s ← top.close? m
      match outer with
      | [] => some (s, rest)
      | o :: outer => readSet m limit (o.add s) outer rest
    | '[' :: rest =>
      match readNamed? ('[' :: rest) with
      | some ((isNegated, s), rest) => do
        readSet m limit (top.add ⟨← m.negate? isNegated s, 0⟩) outer rest
      | none => do
        let (o, rest) ← openSet m ('[' :: rest)
        readSet m limit o (top :: outer) rest
    | '&' :: '&' :: rest => readSet m limit (top.wait m .inter) outer rest
    | '-' :: '-' :: rest => readSet m limit (top.wait m .diff) outer rest
    | '~' :: '~' :: rest => readSet m limit (top.wait m .symmDiff) outer rest
    | cs => do
      let (s, rest) ← readRange m cs
      readSet m limit (top.add ⟨s, 0⟩) outer rest

/-- Reads a class at its bracket. -/
def readClass (m : Mode) : ReadPart NestedSet := fun cs => do
  let (o, rest) ← openSet m cs
  readSet m (rest.length + 1) o [] rest

end SparqlStream.Regex
